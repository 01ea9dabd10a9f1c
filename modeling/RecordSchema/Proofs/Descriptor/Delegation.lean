import RecordSchema.Proofs.Descriptor.Reporting
import RecordSchema.Proofs.Descriptor.Wrapping
import RecordSchema.Proofs.Session.Shadow

namespace RecordSchema

/-! A description with a delegated part is read as the one that it was made from, but for that
part. -/

/-! ### Data that makes no objects -/

theorem Value.nodesChecked_of_portable (value : Value) (portable : value.Portable) :
    value.NodesChecked := by
  refine value.every_mono (fun value here => ?_) portable
  cases value with
  | descriptor | field => exact here.elim
  | _ => trivial

namespace Session

/-- The start and a later session, which data of classes that had been used cannot tell apart. -/
def steady (start session : Session) (kept : start.Steady session)
    (objects : start.registry.HoldsObjects) : Accord where
  states here there := here = start ∧ there = session
  values := Value.Frugal start.Made
  nodes := Descriptor.Frugal start.Made
  environment both := by rw [both.1, both.2, kept.settled.1]
  registry both := by rw [both.1, both.2, kept.settled.2]
  objects both := by
    rw [both.1]
    exact objects
  items := by
    intro value items frugal given
    rcases Value.items?_eq_some.mp given with rfl | rfl
    all_goals exact itemsFrugal_iff.mp frugal
  entries := by
    intro value entries frugal given
    obtain ⟨kind, rfl⟩ := Value.entries?_eq_some.mp given
    exact entriesFrugal_iff.mp frugal
  node given := given
  primitive _ := trivial
  mapping := fieldsFrugal_iff
  array := Iff.rfl
  ref object holds := ⟨object, entriesFrugal_iff.mpr holds⟩
  held given := ⟨.inr given.1, entriesFrugal_iff.mp given.2⟩
  conform := by
    intro candidate made
    cases candidate with
    | providerClass c =>
        obtain ⟨id, known⟩ := made
        unfold Value.conform
        split
        · exact .fail _ _
        · dsimp only
          split
          · exact .throw _ _
          · rintro here there ⟨rfl, rfl⟩
            have left := Instances.share_of_shared known
            have right := Instances.share_of_shared (kept.shared c id known)
            refine ⟨.ok ⟨?same, fun _ => nofun⟩, ?here, ?there⟩
            case same => rw [left, right]
            case here =>
                change { here with instances := (here.instances.share c).2 } = here
                rw [left]
            case there =>
                change { there with instances := (there.instances.share c).2 } = there
                rw [right]
    | _ => exact Value.IsObject.conform (fun _ => nofun)
  snapshot holds :=
    (Entries.snapshot_still (entriesFrugal_iff.mpr holds) _).accords.weaken
      (fun _ frugal => entriesFrugal_iff.mp frugal)

end Session

namespace Shorthand

theorem parse_steady {registry : Registry} (objects : registry.HoldsObjects) {spec : Value}
    {start session : Session} (made : spec.Frugal start.Made)
    (held : start.registry.HoldsObjects) (kept : start.Steady session) :
    (parse registry spec []).run.run session =
      ((parse registry spec []).outcome start, session) := by
  have accord := (start.steady session kept held).parse_accords objects spec made [] .nil
  obtain ⟨outcomes, before, after⟩ := accord start session ⟨rfl, rfl⟩
  have same : (parse registry spec []).outcome start =
      (parse registry spec []).outcome session := by
    rcases outcomes.of_eq with ⟨value, other, given, also, equal, _⟩ | ⟨error, failed, also⟩
    · exact given.trans ((congrArg Except.ok equal).trans also.symm)
    · exact failed.trans also.symm
  exact Prod.ext same.symm after

/-- Such data is read again as it was read at the start. -/
theorem parse_again {start : Session} (objects : start.registry.HoldsObjects) {spec : Value}
    (made : spec.Frugal start.Made) {parsed : Parsed}
    (accepted : (parse start.registry spec []).outcome start = .ok parsed) {session : Session}
    (kept : start.Steady session) :
    (spec.parse [] none).run.run session = (.ok parsed.descriptor, session) := by
  have run := parse_steady objects made objects kept
  rw [accepted] at run
  have same : (spec.parse [] none).run.run session =
      (do return (← parse start.registry spec []).descriptor : Action Descriptor).run.run
        session := by
    rw [← kept.settled.2]
    rfl
  rw [same, Action.run_bind_of_run run]
  rfl

/-- What such data stands for makes no objects. -/
theorem toleratesNode_of_made {start : Session} (objects : start.registry.HoldsObjects)
    {d : Delegate} {spec : Value} (made : spec.Frugal start.Made) {parsed : Parsed}
    (accepted : (parse start.registry spec []).outcome start = .ok parsed) :
    start.ToleratesNode d parsed.descriptor := by
  have accord := (start.accord d objects).parse_accords objects spec
    (.inr (spec.frugal_mono (fun _ => .inr) made)) [] .nil
  have outcomes := (accord start start (.refl start)).1
  rw [show ((parse start.registry spec []).run.run start).1 = _ from accepted] at outcomes
  obtain ⟨_, _, _, inside⟩ := outcomes.exists_ok
  exact inside

theorem checked_of_portable {start : Session} {spec : Value} (portable : spec.Portable)
    {parsed : Parsed} (accepted : (parse start.registry spec []).outcome start = .ok parsed) :
    parsed.descriptor.Checked :=
  (parse_checked start.registry spec (spec.nodesChecked_of_portable portable) []).gives start
    parsed trivial accepted

/-! ### Delegated parts -/

variable {d : Delegate} {start : Session}

/-- An option that is not one of the field stays with the node. -/
theorem fieldOptions_hole {name : String} (optional : name ≠ "optional") (key : name ≠ "key")
    (before : Entries) (value : Value) (after : Entries) :
    fieldOptions (before ++ (.text name, value) :: after) = (do
      let own ← fieldOptions (before ++ after)
      return ⟨own.optional, own.key, nodeOptions before ++ (.text name, value) ::
        nodeOptions after⟩) := by
  rw [fieldOptions, optionalOf, keyOf, Entries.get?_hole_of_ne optional,
    Entries.get?_hole_of_ne key, Entries.erase_hole_of_ne optional, Entries.erase_hole_of_ne key,
    fieldOptions]
  simp only [bind_assoc, pure_bind]
  rfl

theorem Refers.delegates {c : ProviderClass} {registry : Registry}
    {description candidate : Value} {options all : Entries}
    (refers : Refers c registry description options candidate all) :
    ∃ how, Delegates c registry how candidate := by
  induction refers with
  | here delegates => exact ⟨_, delegates⟩
  | pair _ found => exact found
  | typed _ _ _ found => exact found

theorem Refers.parse {c : ProviderClass} {registry : Registry} {description candidate : Value}
    {options all : Entries} (refers : Refers c registry description options candidate all) :
    parse registry description options = (do
      let own ← fieldOptions all
      return ⟨← Descriptor.buildRef candidate own.rest, own.optional, own.key⟩) := by
  induction refers with
  | here delegates =>
      cases delegates with
      | shared => rfl
      | object id => rfl
      | named free registered =>
          rw [Shorthand.parse]
          simp only [named, free, registered]
  | pair _ same =>
      rw [Shorthand.parse]
      exact same
  | typed given lists _ same =>
      rw [Shorthand.parse, if_pos ((Entries.contains_iff _ _).mpr ⟨_, given⟩),
        listed_of_open lists, pure_bind, parseTyped_of_get? _ given]
      exact same

/-- The reference to the provider is given the part, and nothing else. -/
theorem parse_delegated {c : ProviderClass} {registry : Registry} {how candidate : Value}
    (delegates : Delegates c registry how candidate) {spec : Value} (portable : spec.Portable)
    (optional : Bool) (key : Option String) :
    parse registry (delegated how spec (fieldLayer optional key)) [] = (do
      let provider ← candidate.conform
      return ⟨.ref provider [(.text Behaviour.delegatedOption, spec.freeze)], optional, key⟩) := by
  have given : Entries.get? ([(.text typeKey, how)] ++ fieldLayer optional key) typeKey =
      some how := Entries.get?_cons_self _ _ _
  have refers : Refers c registry (delegated how spec (fieldLayer optional key)) [] candidate _ :=
    .of_hole delegates given rfl spec
  have untyped : Entries.erase (fieldLayer optional key) typeKey = fieldLayer optional key := by
    cases optional <;> cases key <;> rfl
  have said : fieldOptions (fieldLayer optional key) = pure ⟨optional, key, []⟩ := by
    cases optional <;> cases key <;> rfl
  have bare : nodeOptions (fieldLayer optional key) = [] := by
    cases optional <;> cases key <;> rfl
  have kept : Entries.snapshot [(.text Behaviour.delegatedOption, spec)] =
      pure [(.text Behaviour.delegatedOption, spec.freeze)] :=
    Entries.snapshot_hole portable [] [] _
  have alone : Entries.erase [(.text typeKey, how)] typeKey = [] := rfl
  have nothing : nodeOptions [] = [] := rfl
  rw [untyped, alone] at refers
  rw [refers.parse, fieldOptions_hole (by decide) (by decide), List.nil_append, said, bare, nothing,
    pure_bind, pure_bind, List.nil_append, Descriptor.buildRef, kept, bind_assoc]
  rfl

/-- What was read, with one part delegated; what is said of the field is the same where it
matters. -/
structure ReadsAs (d : Delegate) (start : Session) (place : Place) (parsed other : Parsed) :
    Prop where
  stands : parsed.descriptor.Stands d start other.descriptor
  field : place = .field → parsed.optional = other.optional ∧ parsed.key = other.key

theorem parse_here (able : d.provider.Able) (objects : start.registry.HoldsObjects)
    {spec candidate : Value} {parsed : Parsed} (made : spec.Frugal start.Made)
    (portable : spec.Portable)
    (accepted : (parse start.registry spec []).outcome start = .ok parsed)
    (delegates : Delegates d.provider start.registry d.how candidate) {place : Place}
    {optional : Bool} {key : Option String}
    (kept : place = .field → optional = parsed.optional ∧ key = parsed.key) :
    Agree (Session.Abreast d start) Eq (ReadsAs d start place) (parse start.registry spec [])
      (parse start.registry (delegated d.how spec (fieldLayer optional key)) []) := by
  intro first second abreast
  have left := parse_steady objects made objects abreast.steady_left
  rw [accepted] at left
  obtain ⟨id, given, later⟩ := Delegate.conform_right able delegates abreast
  rw [left, parse_delegated delegates portable, Action.run_bind_of_ok given]
  refine ⟨.ok ⟨?stands, fun field => ?field⟩, later⟩
  case stands =>
      exact .here portable (fun _ kept => parse_again objects made accepted kept)
        (toleratesNode_of_made objects made accepted) (checked_of_portable portable accepted)
  case field => exact ⟨(kept field).1.symm, (kept field).2.symm⟩

theorem parse_inside (able : d.provider.Able) {description other candidate given wrapped : Value}
    {options before after : Entries}
    (refers : Refers d.provider start.registry description options candidate
      (before ++ (.text Behaviour.delegatedOption, given) :: after))
    (also : Refers d.provider start.registry other options candidate
      (before ++ (.text Behaviour.delegatedOption, wrapped) :: after))
    (first : before.get? Behaviour.delegatedOption = none)
    (portable : given.Portable ∧ wrapped.Portable)
    (tolerated : Entries.Hold (start.Tolerates d) (before ++ after))
    (wraps : Wraps d start .free [] given wrapped) (place : Place) :
    Agree (Session.Abreast d start) Eq (ReadsAs d start place)
      (parse start.registry description options) (parse start.registry other options) := by
  have holds : Entries.Hold (start.Tolerates d) (nodeOptions before ++ nodeOptions after) := by
    rw [← nodeOptions_append]
    exact (tolerated.erase _).erase _
  rw [refers.parse, also.parse, fieldOptions_hole (by decide) (by decide),
    fieldOptions_hole (by decide) (by decide), bind_assoc, bind_assoc]
  refine .bind (fieldOptions_accords (before ++ after)) ?_
  rintro own _ ⟨rfl, _⟩
  rw [pure_bind, pure_bind, Descriptor.buildRef, Descriptor.buildRef,
    Entries.snapshot_hole portable.1, Entries.snapshot_hole portable.2, Action.copying_map,
    Action.copying_map]
  simp only [bind_assoc, pure_bind]
  obtain ⟨how, delegates⟩ := refers.delegates
  refine .bind (Delegate.conform_both able delegates) ?_
  rintro _ _ ⟨rfl, id, rfl⟩
  refine .bind ((Session.copying_accords holds (Entries.snapshot_sparesShared _ _)
    (fun frugal => Entries.snapshot_still frugal _)).also
      (Action.copying_yields (Entries.snapshot_keyed _ _))) ?_
  rintro kept _ ⟨rfl, inside, keyed⟩
  have kept_first := keyed.get?_take (Entries.get?_erase_of_none
    (Entries.get?_erase_of_none first "optional") "key")
  refine .pure ⟨.inside kept_first portable ?_ wraps, fun _ => ⟨rfl, rfl⟩⟩
  rw [List.take_append_drop]
  exact inside

theorem parseFields_wraps (objects : start.registry.HoldsObjects) {given wrapped : Value}
    {name : String} {before after : Entries}
    (tolerated : Entries.Hold (start.Tolerates d) (before ++ after))
    (reads : Agree (Session.Abreast d start) Eq (ReadsAs d start .field)
      (parse start.registry given []) (parse start.registry wrapped [])) :
    Agree (Session.Abreast d start) Eq (Descriptor.FieldsStand d start)
      (parseFields start.registry (before ++ (.text name, given) :: after))
      (parseFields start.registry (before ++ (.text name, wrapped) :: after)) := by
  induction before with
  | nil =>
      refine .bind reads (fun parsed other same => ?_)
      refine .bind ((start.accord d objects).parseFields_accords objects after tolerated) ?_
      rintro fields _ ⟨rfl, inside⟩
      obtain ⟨optional, key⟩ := same.field rfl
      rw [optional, key]
      exact .pure (.mk [] _ inside same.stands)
  | cons entry rest induction =>
      obtain ⟨key, spec⟩ := entry
      have both := List.forall_mem_cons.mp tolerated
      cases key with
      | text other =>
          refine .bind ((start.accord d objects).parse_accords objects spec both.1 [] .nil) ?_
          rintro parsed _ ⟨rfl, made⟩
          refine .bind (induction both.2) ?_
          rintro _ _ ⟨front, back, inside, stands⟩
          exact .pure (.mk (_ :: front) back (List.forall_mem_cons.mpr ⟨made, inside⟩) stands)
      | _ => exact .throw rfl

/-! ### The surroundings -/

section Surroundings

variable {given wrapped : Value} {options : Entries}

theorem parse_list_wraps (objects : start.registry.HoldsObjects)
    (reads : Agree (Session.Abreast d start) Eq (ReadsAs d start .free)
      (parse start.registry given []) (parse start.registry wrapped [])) (place : Place) :
    Agree (Session.Abreast d start) Eq (ReadsAs d start place)
      (parse start.registry (.list [given]) options)
      (parse start.registry (.list [wrapped]) options) := by
  rw [parse, parse]
  refine .bind (fieldOptions_accords options) ?_
  rintro own _ ⟨rfl, _⟩
  rw [parseElement, parseElement, bind_assoc, bind_assoc]
  refine .bind reads (fun parsed other same => ?_)
  rw [bind_assoc, bind_assoc]
  refine .bind (Arguments.ofEntries_accords own.rest) ?_
  rintro arguments _ ⟨rfl, _⟩
  rw [Descriptor.buildArray, Descriptor.buildArray, bind_assoc, bind_assoc, same.stands.isForeign]
  refine .bind ((start.accord d objects).build_accords _ arguments) ?_
  rintro record _ ⟨rfl, _⟩
  split
  · exact .throw rfl
  · exact .pure ⟨.array same.stands, fun _ => ⟨rfl, rfl⟩⟩

theorem parse_map_wraps (objects : start.registry.HoldsObjects) {name : String}
    {before after : Entries}
    (untyped : Entries.contains (before ++ (.text name, given) :: after) typeKey = false)
    (tolerated : Entries.Hold (start.Tolerates d) (before ++ after))
    (reads : Agree (Session.Abreast d start) Eq (ReadsAs d start .field)
      (parse start.registry given []) (parse start.registry wrapped [])) (kind : MapKind)
    (place : Place) :
    Agree (Session.Abreast d start) Eq (ReadsAs d start place)
      (parse start.registry (.map kind (before ++ (.text name, given) :: after)) options)
      (parse start.registry (.map kind (before ++ (.text name, wrapped) :: after)) options) := by
  have also := untyped
  rw [Entries.contains_hole] at also
  rw [parse, parse, if_neg (Bool.eq_false_iff.mp untyped), if_neg (Bool.eq_false_iff.mp also),
    listed_congr (Entries.contains_hole before _ given wrapped after "items")]
  refine .bind (fieldOptions_accords options) ?_
  rintro own _ ⟨rfl, _⟩
  refine .bind (listed_accords kind _) (fun _ _ _ => ?_)
  refine .bind (parseFields_wraps objects tolerated reads) (fun fields others stand => ?_)
  refine .bind (Arguments.ofEntries_accords own.rest) ?_
  rintro arguments _ ⟨rfl, _⟩
  rw [Descriptor.buildMapping, Descriptor.buildMapping, bind_assoc, bind_assoc]
  refine .bind ((start.accord d objects).build_accords _ arguments) ?_
  rintro record _ ⟨rfl, _⟩
  rw [Descriptor.mappingOf, Descriptor.mappingOf, stand.clashes]
  split
  · exact .pure ⟨.of_fields stand _, fun _ => ⟨rfl, rfl⟩⟩
  · exact .throw rfl

theorem parse_typed_wraps {before after : Entries} (first : Entries.get? before typeKey = none)
    {place : Place} (reads : Agree (Session.Abreast d start) Eq (ReadsAs d start place)
      (parse start.registry given (Entries.merge (Entries.erase (before ++ after) typeKey) options))
      (parse start.registry wrapped
        (Entries.merge (Entries.erase (before ++ after) typeKey) options)))
    (kind : MapKind) :
    Agree (Session.Abreast d start) Eq (ReadsAs d start place)
      (parse start.registry (.map kind (before ++ (.text typeKey, given) :: after)) options)
      (parse start.registry (.map kind (before ++ (.text typeKey, wrapped) :: after)) options) := by
  have typed (value : Value) :
      Entries.contains (before ++ (.text typeKey, value) :: after) typeKey = true :=
    (Entries.contains_iff _ _).mpr ⟨value, Entries.get?_hole first value after⟩
  rw [parse, parse, if_pos (typed _), if_pos (typed _),
    parseTyped_of_get? _ (Entries.get?_hole first _ _),
    parseTyped_of_get? _ (Entries.get?_hole first _ _), Entries.erase_hole, Entries.erase_hole,
    listed_congr (Entries.contains_hole before _ given wrapped after "items")]
  exact .bind (listed_accords kind _) (fun _ _ _ => reads)

end Surroundings

/-- A description with a delegated part is read as the one it was made from, but for that
part. -/
theorem parse_wraps (able : d.provider.Able) (objects : start.registry.HoldsObjects)
    {place : Place} {options : Entries} {given wrapped : Value}
    (wraps : Wraps d start place options given wrapped) :
    Agree (Session.Abreast d start) Eq (ReadsAs d start place)
      (parse start.registry given options) (parse start.registry wrapped options) := by
  induction wraps with
  | here made portable accepted delegates kept =>
      exact parse_here able objects made portable accepted delegates kept
  | inside refers also first portable tolerated wraps _ =>
      exact parse_inside able refers also first portable tolerated wraps _
  | element _ reads => exact parse_list_wraps objects reads _
  | field untyped tolerated _ reads => exact parse_map_wraps objects untyped tolerated reads _ _
  | pair _ reads => exact reads
  | typed first _ reads => exact parse_typed_wraps first reads _

end Shorthand

theorem Value.parse_wraps {d : Delegate} {start : Session} (able : d.provider.Able)
    (objects : start.registry.HoldsObjects) {given wrapped : Value}
    (wraps : Shorthand.Wraps d start .free [] given wrapped) :
    Agree (Session.Abreast d start) Eq (Descriptor.Stands d start) (given.parse [] none)
      (wrapped.parse [] none) := by
  have reads := Shorthand.parse_wraps able objects wraps
  have within {spec : Value} {session : Session} (settled : Regime.settled.moves start session) :
      (spec.parse [] none).run.run session =
        (do return (← Shorthand.parse start.registry spec []).descriptor :
          Action Descriptor).run.run session := by
    rw [← settled.2]
    rfl
  intro first second abreast
  rw [within abreast.left, within abreast.right]
  exact Agree.bind reads (fun _ _ same => .pure same.stands) first second abreast

end RecordSchema
