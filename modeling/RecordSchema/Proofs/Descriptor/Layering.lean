import RecordSchema.Proofs.Descriptor.Resuming

namespace RecordSchema

/-! Ways of attaching options to a description.  A layer of options may be a pair, a typed
mapping, the options of a reading, or lie on a description that was read before; whichever it
is, the node is the one of the core with all the layers merged, the outer ones over the inner
ones. -/

/-- A way to attach a layer of options to a description. -/
inductive Attachment where
  | pair (kind : MapKind)
  | typed (kind : MapKind)
  | read

namespace Attachment

def attach (registry : Option Registry) (spec : Value) (layer : Layer) : Attachment → Action Value
  | .pair kind => pure (.tuple [spec, .map kind layer.entries])
  | .typed kind => pure (.map kind ((.text Shorthand.typeKey, spec) :: layer.entries))
  | .read => do return .descriptor (← spec.parse layer.entries registry)

/-- A typed mapping has to list the options beside its type. -/
def Lists (layer : Layer) : Attachment → Prop
  | .typed kind => Entries.hidden kind layer.entries = false
  | .pair _ | .read => True

end Attachment

/-- The core with the layers attached, the first one innermost. -/
def Value.layered (registry : Option Registry) (core : Value)
    (stack : List (Attachment × Layer)) : Action Value :=
  stack.foldlM (fun spec attached => attached.1.attach registry spec attached.2) core

/-- Each option as the outermost layer has it that sets it. -/
def Layer.merged (stack : List (Attachment × Layer)) : Layer :=
  stack.foldl (fun lower attached => lower.under attached.2) empty

/-- What was made of a core reads, under any further layer, as the core does under all. -/
structure Value.StandsFor (registry : Option Registry) (core : Value) (session : Session)
    (merged : Layer) (spec : Value) (later : Session) : Prop where
  settled : Regime.settled.moves session later
  plain : Shorthand.refers core = true → merged.Plain
  reads : ∀ outer : Layer, (Shorthand.refers core = true → outer.Plain) →
    (spec.parse outer.entries registry).outcome later =
      (core.parse (merged.under outer).entries registry).outcome session

/-- The options of a typed mapping are the other entries beside its type. -/
theorem Value.parse_typed (registry : Option Registry) (spec : Value) {kind : MapKind}
    {layer : Layer} (lists : Entries.hidden kind layer.entries = false) (options : Entries) :
    Value.parse (.map kind ((.text Shorthand.typeKey, spec) :: layer.entries)) options registry =
      spec.parse (Entries.merge layer.entries options) registry := by
  have described : Entries.get? ((.text Shorthand.typeKey, spec) :: layer.entries)
      Shorthand.typeKey = some spec := Entries.get?_cons_self _ _ _
  have holds : Entries.contains ((.text Shorthand.typeKey, spec) :: layer.entries)
      Shorthand.typeKey = true := (Entries.contains_iff _ _).mpr ⟨spec, described⟩
  have erased : Entries.erase ((.text Shorthand.typeKey, spec) :: layer.entries)
      Shorthand.typeKey = layer.entries := by
    have whole := Entries.erase_ofNames ((Shorthand.typeKey, spec) :: layer.options)
      Shorthand.typeKey
    rwa [Arguments.restrict_of_absent layer.untyped] at whole
  have items : Entries.contains ((.text Shorthand.typeKey, spec) :: layer.entries) "items" =
      Entries.contains layer.entries "items" := by
    rw [Entries.contains, Entries.get?_cons_of_ne (by simp [Shorthand.typeKey]), Entries.contains]
  have shown : Shorthand.listed kind ((.text Shorthand.typeKey, spec) :: layer.entries) = pure () :=
    Shorthand.listed_of_open ((Entries.hidden_congr items kind).trans lists)
  unfold Value.parse
  simp only [Shorthand.parse, if_pos holds, erased, shown, pure_bind,
    Shorthand.parseTyped_of_get? _ described]

namespace Value.StandsFor

variable {registry : Option Registry} {core spec : Value} {session later : Session}
  {merged : Layer}

theorem core_itself (registry : Option Registry) (core : Value) (session : Session) :
    StandsFor registry core session .empty core session where
  settled := Regime.settled.stays session
  plain _ := Entries.Hold.nil
  reads outer _ := by rw [Layer.empty_under]

theorem pair (stands : StandsFor registry core session merged spec later) (kind : MapKind)
    {layer : Layer} (given : Shorthand.refers core = true → layer.Plain) :
    StandsFor registry core session (merged.under layer)
      (.tuple [spec, .map kind layer.entries]) later where
  settled := stands.settled
  plain refers := (stands.plain refers).under (given refers)
  reads outer plain := by
    rw [← Layer.under_assoc,
      ← stands.reads (layer.under outer) (fun refers => (given refers).under (plain refers)),
      ← Layer.merge_entries]
    rfl

theorem typed (stands : StandsFor registry core session merged spec later) {kind : MapKind}
    {layer : Layer} (lists : Entries.hidden kind layer.entries = false)
    (given : Shorthand.refers core = true → layer.Plain) :
    StandsFor registry core session (merged.under layer)
      (.map kind ((.text Shorthand.typeKey, spec) :: layer.entries)) later where
  settled := stands.settled
  plain refers := (stands.plain refers).under (given refers)
  reads outer plain := by
    rw [← Layer.under_assoc,
      ← stands.reads (layer.under outer) (fun refers => (given refers).under (plain refers)),
      ← Layer.merge_entries]
    exact congrArg (fun action => Action.outcome action later)
      (parse_typed registry spec lists outer.entries)

theorem read (stands : StandsFor registry core session merged spec later)
    (bare : Shorthand.isLayer core = false) (ready : Shorthand.Ready core)
    {layer : Layer} (given : Shorthand.refers core = true → layer.Plain) {node : Descriptor}
    (made : (spec.parse layer.entries registry).outcome later = .ok node) :
    StandsFor registry core session (merged.under layer) (.descriptor node)
      ((spec.parse layer.entries registry).after later) where
  settled := Regime.settled.joins stands.settled ((Value.parse_within _ _ _).moves later)
  plain refers := (stands.plain refers).under (given refers)
  reads outer plain := by
    let whole := merged.under layer
    have settled : Regime.settled.moves session ((spec.parse layer.entries registry).after later) :=
      Regime.settled.joins stands.settled ((Value.parse_within _ _ _).moves later)
    have first : (core.parse whole.entries registry).outcome session = .ok node := by
      rw [← stands.reads layer given]
      exact made
    rw [Shorthand.outcome_parse_core rfl, Shorthand.outcome_parse_core bare, settled.2]
    rw [Shorthand.outcome_parse_core bare] at first
    obtain ⟨own, fine⟩ | ⟨error, failed⟩ := Shorthand.fieldOptions_cases whole.entries
    · rw [fine, pure_bind, Shorthand.rest_of_fieldOptions fine] at first
      obtain ⟨error, alone, both⟩ | ⟨alone, both, given', given''⟩ :=
        Shorthand.fieldOptions_under fine outer
      · rw [alone, both]
        rfl
      · rw [given', given'', pure_bind, pure_bind, Shorthand.rest_of_fieldOptions given',
          Shorthand.rest_of_fieldOptions given'', Layer.ofNode_under]
        refine Shorthand.described_resumes _ bare ready (fun refers => ?_) session node first _
          settled.1
        exact ⟨((stands.plain refers).under (given refers)).ofNode, (plain refers).ofNode⟩
    · rw [failed] at first
      exact nomatch first

end Value.StandsFor

theorem Value.StandsFor.layered {registry : Option Registry} {core spec final : Value}
    {session later : Session} {merged : Layer}
    (stands : StandsFor registry core session merged spec later)
    (bare : Shorthand.isLayer core = false) (ready : Shorthand.Ready core)
    {stack : List (Attachment × Layer)}
    (lists : ∀ attached ∈ stack, attached.1.Lists attached.2)
    (plain : Shorthand.refers core = true → ∀ attached ∈ stack, attached.2.Plain)
    (given : (Value.layered registry spec stack).outcome later = .ok final) :
    StandsFor registry core session
      (stack.foldl (fun lower attached => lower.under attached.2) merged) final
      ((Value.layered registry spec stack).after later) := by
  induction stack generalizing spec later merged with
  | nil =>
      cases given
      exact stands
  | cons attached rest induction =>
      obtain ⟨attachment, layer⟩ := attached
      have plain' : Shorthand.refers core = true → layer.Plain :=
        fun refers => plain refers _ (.head _)
      have rest' : Shorthand.refers core = true → ∀ attached ∈ rest, attached.2.Plain :=
        fun refers attached among => plain refers attached (.tail _ among)
      obtain ⟨lists', others⟩ := List.forall_mem_cons.mp lists
      cases attachment with
      | pair kind => exact induction (stands.pair kind plain') others rest' given
      | typed kind => exact induction (stands.typed lists' plain') others rest' given
      | read =>
          obtain ⟨next, before, last⟩ := Action.outcome_bind_eq_ok.mp given
          obtain ⟨node, made, wrapped⟩ := Action.outcome_bind_eq_ok.mp before
          cases wrapped
          have behind : (Attachment.read.attach registry spec layer).after later =
              (spec.parse layer.entries registry).after later := Action.after_bind_of_ok made
          have whole : (Value.layered registry spec ((.read, layer) :: rest)).after later =
              (Value.layered registry (.descriptor node) rest).after _ :=
            Action.after_bind_of_ok before
          rw [whole, behind]
          rw [behind] at last
          exact induction (stands.read bare ready plain' made) others rest' last

theorem Layer.get?_merged (stack : List (Attachment × Layer)) (base : Layer) (name : String) :
    Entries.get? (stack.foldl (fun lower attached => lower.under attached.2) base).entries name =
      ((stack.map Prod.snd).reverse.findSome?
        (fun layer => Entries.get? layer.entries name)).or
          (Entries.get? base.entries name) := by
  induction stack generalizing base with
  | nil => rfl
  | cons attached rest induction =>
      rw [List.foldl_cons, induction, Layer.get?_under, List.map_cons, List.reverse_cons,
        List.findSome?_append, Option.or_assoc]
      congr 1
      cases found : Entries.get? attached.2.entries name <;> simp [found]

/-- However layers of options are attached to a core, the node is the one of the core with the
options merged, or the error is the same.  What is read on the way has to be read, and the
mappings that carry the options have to list them. -/
theorem Value.parse_layered {registry : Option Registry} {core : Value} {session : Session}
    (bare : Shorthand.isLayer core = false) (ready : Shorthand.Ready core)
    {stack : List (Attachment × Layer)} {options : Layer}
    (lists : ∀ attached ∈ stack, attached.1.Lists attached.2)
    (plain : Shorthand.refers core = true →
      options.Plain ∧ ∀ attached ∈ stack, attached.2.Plain)
    {spec : Value} (given : (layered registry core stack).outcome session = .ok spec) :
    (spec.parse options.entries registry).outcome ((layered registry core stack).after session) =
        (core.parse ((Layer.merged stack).under options).entries registry).outcome session ∧
      ∀ name, Entries.get? ((Layer.merged stack).under options).entries name =
        (options :: (stack.map Prod.snd).reverse).findSome?
          (fun layer => Entries.get? layer.entries name) := by
  have start := StandsFor.core_itself registry core session
  have stands := start.layered bare ready lists (fun refers => (plain refers).2) given
  refine ⟨stands.reads options (fun refers => (plain refers).1), fun name => ?_⟩
  rw [Layer.get?_under, Layer.merged, Layer.get?_merged, List.findSome?_cons]
  cases Entries.get? options.entries name with
  | some value => rfl
  | none => exact Option.or_none

theorem Value.parse_layered_of_provider :
    let c : ProviderClass := { key := "Spec", typeName := "Spec" }
    let inner : Layer :=
      ⟨[("x", .list [.int 1]), ("y", .int 2)], by decide, by decide, by decide⟩
    let outer : Layer :=
      ⟨[("optional", .bool true), ("x", .null)], by decide, by decide, by decide⟩
    let core : Value := .providerClass c
    let stack : List (Attachment × Layer) := [(.typed .plain, inner), (.read, outer)]
    let node : Descriptor := .ref (.provider c 0) [(.text "x", .null), (.text "y", .int 2)]
    let action := layered none core stack
    Shorthand.isLayer core = false ∧ Shorthand.Ready core ∧
      (∀ attached ∈ stack, attached.1.Lists attached.2) ∧
      (Shorthand.refers core = true → inner.Plain ∧ ∀ attached ∈ stack, attached.2.Plain) ∧
      action.outcome {} = .ok (.descriptor node) ∧
      (Value.parse (.descriptor node) inner.entries none).outcome (action.after {}) =
        (core.parse ((Layer.merged stack).under inner).entries none).outcome {} := by
  intro c inner outer core stack node action
  have ready : Shorthand.Ready core := nofun
  have first : inner.Plain := entriesEvery_iff.mp ⟨⟨trivial, trivial, trivial⟩, trivial, trivial⟩
  have second : outer.Plain := entriesEvery_iff.mp ⟨trivial, trivial, trivial⟩
  have plain : Shorthand.refers core = true →
      inner.Plain ∧ ∀ attached ∈ stack, attached.2.Plain :=
    fun _ => ⟨first, List.forall_mem_cons.mpr ⟨first, List.forall_mem_singleton.mpr second⟩⟩
  have lists : ∀ attached ∈ stack, attached.1.Lists attached.2 :=
    List.forall_mem_cons.mpr ⟨rfl, List.forall_mem_singleton.mpr trivial⟩
  have made : action.outcome {} = .ok (.descriptor node) := rfl
  exact ⟨rfl, ready, lists, plain, made, (parse_layered rfl ready lists plain made).1⟩

end RecordSchema
