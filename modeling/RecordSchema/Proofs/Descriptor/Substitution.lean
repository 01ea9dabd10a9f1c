import RecordSchema.Proofs.Descriptor.Exchange
import RecordSchema.Proofs.Descriptor.Rereading
import RecordSchema.Proofs.Descriptor.Resuming

namespace RecordSchema

/-! Nodes in the place of the parts of a description that they were made of, and what layers say of
a field where no field is. -/

/-! ### Reading with exchanged parts again -/

/-- Reading the node of a core. -/
theorem Reading.described (reading : Reading) (registry : Registry) (core : Value)
    (given : Entries) : reading.holds (Shorthand.described registry core given) := by
  cases core with
  | map kind entries =>
      exact reading.bind (reading.listed kind entries) (fun _ =>
        reading.bind (reading.shorthandFields registry entries) (fun _ =>
          reading.bind (reading.ofEntries given) (fun _ => reading.buildMapping _ _)))
  | list items => exact reading.shorthandElement registry items given
  | descriptor node => exact reading.attached node given
  | text name => exact reading.named registry name given
  | null | bool | number => exact reading.failShowing _ _
  | bytes mutable data =>
      cases mutable with
      | false => exact reading.failShowing _ _
      | true => exact reading.buildRef _ given
  | _ => exact reading.buildRef _ given

namespace Shorthand

/-- Alike as far as it matters where the descriptions stand. -/
def Role.Alike : Role → Parsed → Parsed → Prop
  | .root, parsed, other | .element, parsed, other => parsed.descriptor = other.descriptor
  | .layered, parsed, other | .field, parsed, other => parsed = other

theorem Role.alike_of_eq (role : Role) {parsed other : Parsed} (same : parsed = other) :
    role.Alike parsed other := by
  subst same
  cases role <;> rfl

/-- Options are laid over a description in a layer only. -/
def Role.Takes (role : Role) (options : Entries) : Prop :=
  role = .layered ∨ options = []

section Lasting

variable {left : Session} {registry : Registry} {exchange : Role → Value → Value → Prop}

theorem around_lasts {build further : Entries → Action Descriptor}
    (builds : ∀ rest, (build rest).LastsAs left Eq (further rest))
    (orderly : ∀ rest, Reading.orderly.holds (build rest)) (options : Entries) :
    Action.LastsAs left Eq
      (do
        let own ← fieldOptions options
        return (⟨← build own.rest, own.optional, own.key⟩ : Parsed))
      (do
        let own ← fieldOptions options
        return (⟨← further own.rest, own.optional, own.key⟩ : Parsed)) := by
  have first := (Reading.lasting left).fieldOptions options
  refine first.2.bind first.1 (fun own _ same => ?_) (fun own =>
    Reading.orderly.bind (orderly own.rest) (fun _ => Reading.orderly.value _))
  subst same
  refine (builds own.rest).bind (orderly own.rest) (fun node _ same => ?_)
    (fun _ => Reading.orderly.value _)
  subst same
  exact .pure rfl

/-- Mappings with the same names are listed alike. -/
theorem listed_lasts {kind : MapKind} {entries others : Entries} {results : α → β → Prop}
    {first : Action α} {further : Action β}
    (same : Entries.contains others "items" = Entries.contains entries "items")
    (reads : first.LastsAs left results further) (orderly : Reading.orderly.holds first) :
    Action.LastsAs left results (do listed kind entries; first)
      (do listed kind others; further) := by
  have lists := (Reading.lasting left).listed kind entries
  rw [listed_congr same]
  exact lists.2.bind lists.1 (fun _ _ _ => reads) (fun _ => orderly)

mutual
/-- A description can be read again with any exchange that each of its parts stands. -/
theorem Exchanged.lasts (stands : ∀ role spec other, exchange role spec other → ∀ options,
      role.Takes options →
        (parse registry spec options).LastsAs left role.Alike (parse registry other options)) :
    ∀ {role : Role} {spec other : Value}, Exchanged exchange role spec other → ∀ options,
      role.Takes options →
        (parse registry spec options).LastsAs left role.Alike (parse registry other options)
  | role, _, _, .kept _ spec, options, _ =>
      ((Reading.lasting left).shorthand registry spec options).2.weaken
        (fun _ _ => role.alike_of_eq)
  | _, _, _, .here made, options, takes => stands _ _ _ made options takes
  | role, _, _, .pair inside, _, _ =>
      (inside.lasts stands _ (.inl rfl)).weaken (fun _ _ => role.alike_of_eq)
  | role, _, _, .typed first inside, options, _ => by
      rw [parse_typed first, parse_typed first]
      refine listed_lasts (Entries.contains_hole _ _ _ _ _ _) ?_
        (Reading.orderly.shorthand registry _ _)
      exact (inside.lasts stands _ (.inl rfl)).weaken (fun _ _ => role.alike_of_eq)
  | role, _, _, @Exchanged.element _ _ part other inside, options, _ => by
      have reads := inside.lasts stands [] (.inr rfl)
      have building (element : Descriptor) (rest : Entries) :
          (Reading.lasting left).holds (do
            Descriptor.buildArray element (← Arguments.ofEntries rest)) :=
        (Reading.lasting left).bind ((Reading.lasting left).ofEntries rest)
          (fun given => (Reading.lasting left).buildArray element given)
      have builds (rest : Entries) : (parseElement registry [part] rest).LastsAs left Eq
          (parseElement registry [other] rest) := by
        refine reads.bind (Reading.orderly.shorthand registry part []) (fun parsed also same => ?_)
          (fun parsed => (building parsed.descriptor rest).1)
        rw [show parsed.descriptor = also.descriptor from same]
        exact (building also.descriptor rest).2
      exact (around_lasts builds (Reading.orderly.shorthandElement registry [part]) options).weaken
        (fun _ _ => role.alike_of_eq)
  | role, _, _, @Exchanged.fields _ _ kind entries others plain inside, options, _ => by
      have also := plain
      rw [← inside.contains] at also
      have builds (rest : Entries) : (described registry (.map kind entries) rest).LastsAs left
          Eq (described registry (.map kind others) rest) := by
        have building (fields : List Field) : (Reading.lasting left).holds (do
            Descriptor.buildMapping fields (← Arguments.ofEntries rest)) :=
          (Reading.lasting left).bind ((Reading.lasting left).ofEntries rest)
            (fun given => (Reading.lasting left).buildMapping fields given)
        refine listed_lasts (inside.contains "items") ?_
          (Reading.orderly.bind (Reading.orderly.shorthandFields registry entries) (fun _ =>
            Reading.orderly.bind (Reading.orderly.ofEntries rest) (fun _ =>
              Reading.orderly.buildMapping _ _)))
        refine (inside.lasts stands).bind (Reading.orderly.shorthandFields registry entries)
          (fun fields _ same => ?_) (fun fields => (building fields).1)
        subst same
        exact (building fields).2
      have bare : isLayer (.map kind entries) = false := plain
      have bare' : isLayer (.map kind others) = false := also
      rw [parse_of_core registry bare, parse_of_core registry bare']
      exact (around_lasts builds (Reading.orderly.described registry _) options).weaken
        (fun _ _ => role.alike_of_eq)

theorem FieldsExchanged.lasts (stands : ∀ role spec other, exchange role spec other →
      ∀ options, role.Takes options →
        (parse registry spec options).LastsAs left role.Alike (parse registry other options)) :
    ∀ {entries others : Entries}, FieldsExchanged exchange entries others →
      (parseFields registry entries).LastsAs left Eq (parseFields registry others)
  | _, _, .nil => .pure rfl
  | _, _, @FieldsExchanged.cons _ name part other entries _ first rest => by
      have reads := first.lasts stands [] (.inr rfl)
      have later := rest.lasts stands
      cases name with
      | text name =>
          refine reads.bind (Reading.orderly.shorthand registry part []) (fun parsed _ same => ?_)
            (fun _ => Reading.orderly.bind (Reading.orderly.shorthandFields registry entries)
              (fun _ => Reading.orderly.value _))
          subst same
          refine later.bind (Reading.orderly.shorthandFields registry entries)
            (fun fields _ same => ?_) (fun _ => Reading.orderly.value _)
          subst same
          exact .pure rfl
      | _ => exact .throw _ _ _
end

end Lasting

/-! ### What is said of a field -/

/-- These are the options that the layers of the description lay over its core, below those
given. -/
inductive Carries : Value → Entries → Entries → Prop where
  | core {spec : Value} (options : Entries) (bare : isLayer spec = false) :
      Carries spec options options
  | pair {inner : Value} {kind : MapKind} {layer options all : Entries}
      (inside : Carries inner (Entries.merge layer options) all) :
      Carries (.tuple [inner, .map kind layer]) options all
  | typed {inner : Value} {kind : MapKind} {entries options all : Entries}
      (described : Entries.get? entries typeKey = some inner)
      (inside : Carries inner (Entries.merge (Entries.erase entries typeKey) options) all) :
      Carries (.map kind entries) options all

/-- Whether the options make a field optional, which goes without saying otherwise. -/
def saidOptional (options : Entries) : Bool :=
  match options.get? "optional" with
  | some (.bool optional) => optional
  | _ => false

def saidKey (options : Entries) : Option String :=
  match options.get? "key" with
  | some (.text key) => some key
  | _ => none

theorem fieldOptions_said (options : Entries) :
    (fieldOptions options).Gives
      (fun own => own.optional = saidOptional options ∧ own.key = saidKey options) := by
  have optional : (optionalOf options).Gives (fun optional => optional = saidOptional options) := by
    unfold optionalOf saidOptional
    split
    · next none => exact .pure (by rw [none])
    · next optional given => exact .pure (by rw [given])
    · exact .throw _ _
  have key : (keyOf options).Gives (fun key => key = saidKey options) := by
    unfold keyOf saidKey
    split
    · next none => exact .pure (by rw [none])
    · next given => exact .pure (by rw [given])
    · next key given => exact .pure (by rw [given])
    · exact .throw _ _
  exact .bind optional (fun _ first => .bind key (fun _ second => .pure ⟨first, second⟩))

/-- What a description says of the field it stands at is in what its layers carry. -/
theorem Carries.said {spec : Value} {options all : Entries} (carries : Carries spec options all)
    (registry : Registry) :
    (parse registry spec options).Gives
      (fun parsed => parsed.optional = saidOptional all ∧ parsed.key = saidKey all) := by
  induction carries with
  | core options bare =>
      rw [parse_of_core registry bare]
      exact .bind (fieldOptions_said options) (fun own said => .after (fun node => .pure said))
  | pair _ inside => exact inside
  | @typed inner kind entries options all described _ inside =>
      rw [parse, if_pos ((Entries.contains_iff _ _).mpr ⟨inner, described⟩),
        parseTyped_of_get? registry described]
      exact .after (fun _ => inside)

/-- The same description, of which no layer says anything of a field. -/
inductive Unsaid : Value → Value → Prop where
  | core {spec : Value} (bare : isLayer spec = false) : Unsaid spec spec
  | pair {inner other : Value} {kind : MapKind} {layer : Entries} (inside : Unsaid inner other) :
      Unsaid (.tuple [inner, .map kind layer]) (.tuple [other, .map kind (nodeOptions layer)])
  | typed {inner other : Value} {kind : MapKind} {before after : Entries}
      (first : before.get? typeKey = none) (inside : Unsaid inner other) :
      Unsaid (.map kind (before ++ (.text typeKey, inner) :: after))
        (.map kind (nodeOptions before ++ (.text typeKey, other) :: nodeOptions after))

theorem nodeOptions_merge (lower upper : Entries) :
    nodeOptions (Entries.merge lower upper) =
      Entries.merge (nodeOptions lower) (nodeOptions upper) := by
  rw [nodeOptions, Entries.erase_merge, Entries.erase_merge, nodeOptions, nodeOptions]

theorem fieldOptions_nodeOptions (options : Entries) :
    fieldOptions (nodeOptions options) = pure ⟨false, none, nodeOptions options⟩ := by
  have optional : (nodeOptions options).get? "optional" = none :=
    Entries.get?_erase_of_none (Entries.get?_erase_self _ _) "key"
  have key : (nodeOptions options).get? "key" = none := Entries.get?_erase_self _ _
  have rest : nodeOptions (nodeOptions options) = nodeOptions options := by
    rw [nodeOptions, nodeOptions, Entries.erase_comm _ "key" "optional",
      Entries.erase_erase_self, Entries.erase_erase_self]
  rw [fieldOptions, optionalOf, optional, keyOf, key]
  exact congrArg (fun rest => (pure ⟨false, none, rest⟩ : Action FieldOptions)) rest

/-- Where nothing that is said of a field matters, it may be left out. -/
theorem Unsaid.lasts {left : Session} {registry : Registry} {spec other : Value}
    (unsaid : Unsaid spec other) (options : Entries) :
    (parse registry spec options).LastsAs left
      (fun parsed also => parsed.descriptor = also.descriptor)
      (parse registry other (nodeOptions options)) := by
  induction unsaid generalizing options with
  | @core spec bare =>
      rw [parse_of_core registry bare, parse_of_core registry bare, fieldOptions_nodeOptions,
        pure_bind]
      obtain ⟨own, given⟩ | ⟨cause, failed⟩ := fieldOptions_cases options
      · have rest : own.rest = nodeOptions options :=
          (fieldOptions_rest options).gives {} own trivial (by rw [given]; rfl)
        have reads := (Reading.lasting left).described registry spec (nodeOptions options)
        rw [given, pure_bind, rest]
        exact reads.2.bind reads.1 (fun _ _ same => .pure same) (fun _ => Reading.orderly.value _)
      · rw [failed]
        exact .throw _ _ _
  | @pair inner other kind layer _ inside =>
      have reads := inside (Entries.merge layer options)
      rw [nodeOptions_merge] at reads
      exact reads
  | @typed inner other kind before after first _ inside =>
      have reads := inside (Entries.merge (Entries.erase (before ++ after) typeKey) options)
      have also : (nodeOptions before).get? typeKey = none :=
        Entries.get?_erase_of_none (Entries.get?_erase_of_none first _) _
      have same : nodeOptions (Entries.erase (before ++ after) typeKey) =
          Entries.erase (nodeOptions before ++ nodeOptions after) typeKey := by
        rw [nodeOptions, Entries.erase_comm _ typeKey, Entries.erase_comm _ typeKey,
          Entries.erase_append, Entries.erase_append, nodeOptions, nodeOptions]
      have names : Entries.contains (nodeOptions before ++ (.text typeKey, other) ::
          nodeOptions after) "items" =
          Entries.contains (before ++ (.text typeKey, inner) :: after) "items" := by
        rw [Entries.contains, Entries.contains, Entries.get?_hole_of_ne (by decide),
          Entries.get?_hole_of_ne (by decide), ← nodeOptions_append, nodeOptions,
          Entries.get?_erase_of_ne (by decide), Entries.get?_erase_of_ne (by decide)]
      rw [nodeOptions_merge, same] at reads
      rw [parse_typed first, parse_typed also]
      exact listed_lasts names reads (Reading.orderly.shorthand registry inner _)

/-! ### Nodes in the place of parts -/

/-- An option for each thing that can be said of a field. -/
def fieldEntries (optional : Bool) (key : Option String) : Entries :=
  [(.text "optional", .bool optional), (.text "key", (key.map Value.text).getD .null)]

theorem parse_node (registry : Registry) (node : Descriptor) :
    parse registry (.descriptor node) [] = pure ⟨node, false, none⟩ := rfl

theorem parse_stated (registry : Registry) (node : Descriptor) (kind : MapKind) (optional : Bool)
    (key : Option String) :
    parse registry (.tuple [.descriptor node, .map kind (fieldEntries optional key)]) [] =
      pure ⟨node, optional, key⟩ := by
  cases key <;> rfl

/-- A part gives way to the node that is made of it in one of the later sessions, with what it says
of the field if it stands at one; by itself or in a list, a description gives way to one that says
nothing of a field. -/
inductive Substitutes (registry : Option Registry) (left : Session) :
    Role → Value → Value → Prop where
  | element {part : Value} {node : Descriptor} {session : Session} (later : left.Precedes session)
      (made : (part.parse [] registry).outcome session = .ok node) :
      Substitutes registry left .element part (.descriptor node)
  | field {part : Value} {all : Entries} {node : Descriptor} {session : Session} (kind : MapKind)
      (later : left.Precedes session)
      (made : (part.parse [] registry).outcome session = .ok node)
      (carries : Carries part [] all) :
      Substitutes registry left .field part
        (.tuple [.descriptor node, .map kind (fieldEntries (saidOptional all) (saidKey all))])
  | unsaid {role : Role} {spec other : Value} (free : role = .root ∨ role = .element)
      (unsaid : Unsaid spec other) : Substitutes registry left role spec other

section Substitutes

variable {registry : Option Registry} {left : Session}

/-- What a part was read as, where it was read on the way to the session, is what it is read as
later. -/
theorem node_of_lasting {part : Value} {parsed : Parsed} {start session : Session}
    {node : Descriptor} (read : (parse (Registry.orElse registry left.registry) part []).outcome
      start = .ok parsed)
    (shares : start.instances.SharesOnly
      ((parse (Registry.orElse registry left.registry) part []).after start).instances)
    (before : ((parse (Registry.orElse registry left.registry) part []).after start).Precedes left)
    (later : left.Precedes session)
    (made : (part.parse [] registry).outcome session = .ok node) : node = parsed.descriptor := by
  have reads := (Reading.lasting left).shorthand (Registry.orElse registry left.registry) part []
  obtain ⟨_, again, rfl⟩ := reads.2 start parsed read shares before session later
  rw [← later.registry] at again
  have result : (part.parse [] registry).outcome session = .ok parsed.descriptor :=
    congrArg Prod.fst (Value.run_parse_of_read again)
  cases made.symm.trans result
  rfl

theorem Substitutes.lasts {role : Role} {spec other : Value}
    (substitutes : Substitutes registry left role spec other) {options : Entries}
    (takes : role.Takes options) :
    (parse (Registry.orElse registry left.registry) spec options).LastsAs left role.Alike
      (parse (Registry.orElse registry left.registry) other options) := by
  cases substitutes with
  | element later made =>
      have alone : options = [] := takes.resolve_left nofun
      subst alone
      intro start parsed read shares before session after
      refine ⟨⟨_, false, none⟩, by rw [parse_node]; rfl, ?_⟩
      exact (node_of_lasting read shares before later made).symm
  | @field part all node _ kind later made carries =>
      have alone : options = [] := takes.resolve_left nofun
      subst alone
      intro start parsed read shares before session after
      have same := node_of_lasting read shares before later made
      -- What the part says of the field is stated again by the entries beside the node.
      obtain ⟨optional, key⟩ := (carries.said _).gives start parsed trivial read
      refine ⟨_, by rw [parse_stated]; rfl, ?_⟩
      subst same
      rw [← optional, ← key]
      rfl
  | unsaid free unsaid =>
      rcases free with rfl | rfl
      all_goals
        have alone : options = [] := takes.resolve_left nofun
        subst alone
        exact unsaid.lasts []

end Substitutes

end Shorthand

namespace Value

/-- Where reading a description makes no objects but ones that classes share, any of its parts may
be replaced by the node that is made of it, at a field with what the part says of that, and what
its layers say of a field may be left out wherever there is none: from then on the description is
read as the same node, and nothing is made. -/
theorem parse_substituted {registry : Option Registry} {spec other : Value} {start : Session}
    {node : Descriptor} (accepted : (spec.parse [] registry).outcome start = .ok node)
    (shares : start.instances.SharesOnly ((spec.parse [] registry).after start).instances)
    (exchanged : Shorthand.Exchanged
      (Shorthand.Substitutes registry ((spec.parse [] registry).after start)) .root spec other)
    {later : Session} (precedes : ((spec.parse [] registry).after start).Precedes later) :
    (other.parse [] registry).run.run later = (.ok node, later) := by
  obtain ⟨parsed, read, rfl⟩ := exists_read accepted
  have left : (Shorthand.parse (Registry.orElse registry start.registry) spec []).after start =
      (spec.parse [] registry).after start := congrArg Prod.snd read
  rw [← left] at shares exchanged precedes
  have kept := (Reading.orderly.shorthand (Registry.orElse registry start.registry) spec []
    start).1.registry
  -- The parts were read with the registry that the session is left with.
  have lasts := exchanged.lasts (fun _ _ _ substitutes _ takes => substitutes.lasts takes) []
    (.inr rfl)
  rw [kept] at lasts
  obtain ⟨result, again, same⟩ := lasts start parsed (congrArg Prod.fst read) shares (.refl _) later
    precedes
  rw [← kept, ← precedes.registry] at again
  rw [run_parse_of_read again]
  exact congrArg (fun node => (Except.ok node, later)) same.symm

/-- A key that the layers of a field give, and a reference to a class. -/
theorem parse_substituted_of_fields :
    let c : ProviderClass := { key := "Spec", typeName := "Spec" }
    let keyed : Value := .tuple [.text "string", .map .plain [(.text "key", .text "k")]]
    let described : Value := .tuple [keyed,
      .map .plain [(.text "optional", .bool true), (.text "max_length", .int 3)]]
    let referring : Value := .tuple [.providerClass c, .map .plain [(.text "x", .list [.int 1])]]
    let spec (first second : Value) : Value :=
      .map .plain [(.text "a", first), (.text "b", second)]
    let first : Descriptor := .primitive (.string { maxLength := some 3 })
    let second : Descriptor := .ref (.provider c 0) [(.text "x", .tuple [.int 1])]
    let node : Descriptor :=
      .mapping [⟨"a", first, true, some "k"⟩, ⟨"b", second, false, none⟩] false
    let left : Session := { instances := { shared := [("Spec", 0)], next := 1 } }
    ((spec described referring).parse [] none).run.run {} = (.ok node, left) ∧
      Instances.SharesOnly {} left.instances ∧
      ((spec
        (.tuple [.descriptor first, .map .plain (Shorthand.fieldEntries true (some "k"))])
        (.tuple [.descriptor second, .map .plain (Shorthand.fieldEntries false none)])).parse []
          none).run.run left = (.ok node, left) := by
  intro c keyed described referring spec first second node left
  have read : ((spec described referring).parse [] none).run.run {} = (.ok node, left) :=
    parse_of_fields rfl rfl rfl (by simp) (by simp)
  have after : ((spec described referring).parse [] none).after {} = left := congrArg Prod.snd read
  have shares : Instances.SharesOnly {} left.instances := Eq.refl 1
  have field : Shorthand.Exchanged (Shorthand.Substitutes none left) .field described
      (.tuple [.descriptor first, .map .plain (Shorthand.fieldEntries true (some "k"))]) :=
    .here (.field .plain (.refl left) rfl (.pair (.pair (.core _ rfl))))
  have reference : Shorthand.Exchanged (Shorthand.Substitutes none left) .field referring
      (.tuple [.descriptor second, .map .plain (Shorthand.fieldEntries false none)]) :=
    .here (.field .plain (.refl left) rfl (.pair (.core _ rfl)))
  have exchanged : Shorthand.Exchanged (Shorthand.Substitutes none left) .root
      (spec described referring) (spec _ _) :=
    .fields rfl (.cons field (.cons reference .nil))
  exact ⟨read, shares, parse_substituted (congrArg Prod.fst read) (after ▸ shares)
    (after ▸ exchanged) (after ▸ .refl left)⟩

/-- An object among the options is copied each time, and no copy of it is equal to another. -/
theorem parse_substituted_differs_of_copied_object :
    let c : ProviderClass := { key := "Spec", typeName := "Spec" }
    let d : ProviderClass := { key := "Counter", typeName := "Counter" }
    let part : Value := .tuple [.providerClass c, .map .plain [(.text "x", .provider d 0)]]
    let spec : Value := .list [part]
    let start : Session := { instances := { next := 1 } }
    let left := (spec.parse [] none).after start
    let later := (part.parse [] none).after left
    ∃ node made again, (spec.parse [] none).outcome start = .ok node ∧
      (part.parse [] none).outcome left = .ok made ∧
      ((Value.list [.descriptor made]).parse [] none).outcome later = .ok again ∧
      node.same again = false :=
  ⟨_, _, _, rfl, rfl, rfl, rfl⟩

end Value

end RecordSchema
