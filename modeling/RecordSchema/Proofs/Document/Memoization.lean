import Mathlib.Data.List.Induction
import RecordSchema.Proofs.Document.Likeness
import RecordSchema.Proofs.Document.Meaning
import RecordSchema.Proofs.Session.Calls

namespace RecordSchema

/-! The cached compiler against the plain one.  Over providers whose answers depend on
their options only, a remembered document is what the plain compiler gave for an equal node
when it was stored; it need not be what the plain compiler gives now. -/

/-- What a provider resolves to is settled by its class and the options, and resolving
leaves the session as it is. -/
def Catalogue.Pure (catalogue : Catalogue) : Prop :=
  ∃ answer : String → Entries → Except Error Value, ∀ key id options,
    (catalogue key).resolve id options = MonadExcept.ofExcept (answer key options)

variable {catalogue : Catalogue}

namespace Catalogue.Pure

theorem resolvesWithin (pure : catalogue.Pure) : catalogue.ResolvesWithin .uncached := by
  obtain ⟨answer, answers⟩ := pure
  intro key id options
  rw [answers]
  cases answer key options with
  | ok spec => exact .pure spec
  | error error => exact .throw trivial

theorem resolvesExactly (pure : catalogue.Pure) : Likeness.exact.Resolves catalogue := by
  obtain ⟨answer, answers⟩ := pure
  intro key id other given options _ same
  have equal : given = options := by
    have fixed : ∀ id, Likeness.exact.names id = id := fun _ => rfl
    rw [← renameEntries_of_fixed fixed given, same, renameEntries_of_fixed fixed]
  subst equal
  rw [answers, answers]
  cases answer key given with
  | ok spec => exact .pure rfl
  | error error => exact .throw rfl

end Catalogue.Pure

theorem Behaviour.delegating_pure : Catalogue.Pure (fun _ => Behaviour.delegating) :=
  ⟨fun _ options => .ok ((options.get? delegatedOption).getD (.text Kind.any.name)),
    fun _ _ _ => rfl⟩

/-- The same session, but for the log and the caches. -/
def Session.Alike (session later : Session) : Prop :=
  session.environment = later.environment ∧ session.registry = later.registry ∧
    session.instances = later.instances

theorem Outcomes.eq {left right : Except ε α} (outcomes : Outcomes Eq Eq left right) :
    left = right := by
  cases outcomes with
  | ok same => rw [same]
  | error same => rw [same]

/-- Neither the log nor the caches matter to the plain compiler. -/
theorem Descriptor.compile_outcome_of_alike (pure : catalogue.Pure) (node : Descriptor)
    {session later : Session} (alike : session.Alike later) :
    (node.compile catalogue).outcome session = (node.compile catalogue).outcome later :=
  (Likeness.exact.compile_acts pure.resolvesExactly rfl session later alike).1.eq

namespace Descriptor

/-- The cached compiler adds to the caches at most the document of the node asked for. -/
theorem remembers_compileCached (pure : catalogue.Pure) {node stored : Descriptor}
    {session : Session} {document : Document}
    (remembered : ((node.compileCached catalogue).after session).Remembers stored document) :
    session.Remembers stored document ∨
      stored = node ∧ (node.compile catalogue).outcome session = .ok document := by
  unfold compileCached at remembered
  rw [Action.after_bind, Action.after_settings] at remembered
  split at remembered
  · split at remembered
    · exact .inl remembered
    · rw [Action.after_bind_of_ok Action.outcome_get, Action.after_get] at remembered
      split at remembered
      · next found => exact .inl (Session.remembers_ask found remembered)
      · rw [after_compileAndStore] at remembered
        have kept := (node.compile_within pure.resolvesWithin).moves
          ((Action.write compilerLogger Log.debug
            s!"Compile cache miss for {node.typeName}").after session)
        dsimp only at remembered
        split at remembered
        · next known compiled =>
            rcases Session.remembers_store remembered with before | ⟨rfl, rfl⟩
            · exact .inl (before.of_caches kept.2)
            · refine .inr ⟨rfl, ?_⟩
              rw [← compiled]
              exact stored.compile_outcome_of_alike pure ⟨rfl, rfl, rfl⟩
        · exact .inl (remembered.of_caches kept.2)
  · exact .inl remembered

end Descriptor

/-- What an earlier call leaves for a later one: the node that its shorthand stood for, and
the document that the plain compiler gave for it at that time. -/
def Session.Recalls (catalogue : Catalogue) (start : Session) (calls : List Call)
    (node : Descriptor) (document : Document) : Prop :=
  ∃ before spec rest, calls = before ++ .compileCached spec :: rest ∧
    .clearCaches ∉ rest ∧
    spec.toDescriptor.outcome (start.run catalogue before) = .ok node ∧
    (spec.compile catalogue).outcome (start.run catalogue before) = .ok document

theorem Session.Recalls.later {start : Session} {calls : List Call} {node : Descriptor}
    {document : Document} (recalls : start.Recalls catalogue calls node document)
    {call : Call} (keeps : call ≠ .clearCaches) :
    start.Recalls catalogue (calls ++ [call]) node document := by
  obtain ⟨before, spec, rest, rfl, kept, read, compiled⟩ := recalls
  refine ⟨before, spec, rest ++ [call], by simp, ?_, read, compiled⟩
  simpa [List.mem_append, not_or] using ⟨kept, keeps.symm⟩

theorem Call.within_uncached (catalogue : Catalogue) :
    (call : Call) → (∀ spec, call ≠ .compileCached spec) → call ≠ .clearCaches →
      (call.action catalogue).Within .uncached
  | .compileCached spec, other, _ => absurd rfl (other spec)
  | .register name candidate replace, _, _ =>
      Registry.change_within (fun registry => registry.register_within name candidate replace)
  | .unregister name, _, _ =>
      Registry.change_within (fun registry => registry.unregister_within name)
  | .lookup name, _, _ =>
      .bind .get (fun session => .bind (session.registry.lookup_within name) (fun _ => .pure _))
  | .clearRegistry, _, _ => Registry.change_within (fun _ => .pure _)
  | .clearCaches, _, keeps => absurd rfl keeps

theorem after_compileCached_call (spec : Value) (session : Session) :
    ((Call.compileCached spec).action catalogue).after session =
      match spec.toDescriptor.outcome session with
      | .ok node => (node.compileCached catalogue).after (spec.toDescriptor.after session)
      | .error _ => spec.toDescriptor.after session := by
  have discarded : ((Call.compileCached spec).action catalogue).after session =
      (spec.compileCached catalogue).after session := by
    change (spec.compileCached catalogue >>= fun _ => pure ()).after session = _
    rw [Action.after_bind]
    cases (spec.compileCached catalogue).outcome session <;> rfl
  rw [discarded, Value.compileCached, Action.after_bind]
  cases spec.toDescriptor.outcome session <;> rfl

/-- Whatever the calls of a session leave in the caches goes back to one of them. -/
theorem Session.recalls_of_remembers (pure : catalogue.Pure) {start : Session}
    (fresh : start.caches = []) (calls : List Call) {node : Descriptor} {document : Document}
    (remembered : (start.run catalogue calls).Remembers node document) :
    start.Recalls catalogue calls node document := by
  induction calls using List.reverseRecOn with
  | nil =>
      obtain ⟨slot, member, _⟩ := remembered
      rw [show (start.run catalogue []).caches = [] from fresh] at member
      exact nomatch member
  | append_singleton calls call earlier =>
      rw [run_append] at remembered
      change ((call.action catalogue).after (start.run catalogue calls)).Remembers node document
        at remembered
      by_cases cached : ∃ spec, call = .compileCached spec
      · obtain ⟨spec, rfl⟩ := cached
        have reads : spec.toDescriptor.Within .uncached := spec.toDescriptor_within
        have kept := reads.moves (start.run catalogue calls)
        rw [after_compileCached_call] at remembered
        split at remembered
        · next asked read =>
            rcases Descriptor.remembers_compileCached pure remembered with
              before | ⟨rfl, compiled⟩
            · exact (earlier (before.of_caches kept.2)).later nofun
            · refine ⟨calls, spec, [], rfl, nofun, read, ?_⟩
              rw [Value.compile, Action.outcome_bind_of_ok read, compiled]
        · exact (earlier (remembered.of_caches kept.2)).later nofun
      by_cases cleared : call = .clearCaches
      · subst cleared
        obtain ⟨slot, member, _⟩ := remembered
        exact nomatch member
      · have kept := (call.within_uncached catalogue (fun spec same => cached ⟨spec, same⟩)
          cleared).moves (start.run catalogue calls)
        exact (earlier (remembered.of_caches kept.2)).later cleared

/-! ### One document for equal nodes -/

theorem Primitive.eq_of_same_of_document {first second : Primitive}
    (same : first.same second = true) (document : first.document = second.document) :
    first = second := by
  obtain rfl | ⟨⟨nullable, minimum, maximum⟩, ⟨nullable', minimum', maximum'⟩, rfl, rfl⟩ :=
    eq_or_numbers_of_same same
  · rfl
  · obtain ⟨equal, least, most⟩ := same_number_iff.mp same
    dsimp only at equal least most
    subst equal
    have bounds : clauseOf Clause.minimum minimum ++ clauseOf Clause.maximum maximum =
        clauseOf Clause.minimum minimum' ++ clauseOf Clause.maximum maximum' :=
      (List.cons.inj document).2
    cases minimum <;> cases minimum' <;> cases maximum <;> cases maximum' <;>
      simp_all [SameBound, clauseOf]

variable {refs others : Value → Entries → Document → Prop}

mutual
/-- Equal nodes without references that have one document are one and the same. -/
theorem Descriptor.eq_of_same_of_describedBy :
    (first : Descriptor) → {second : Descriptor} → {document : Document} →
      first.same second = true → first.ProviderFree → first.DescribedBy refs document →
        second.DescribedBy others document → first = second
  | .primitive a, .primitive b, document, same, _, left, right => by
      rw [Primitive.eq_of_same_of_document same (left.symm.trans right)]
  | .mapping fields nullable, .mapping further nullable', document, same, free, left, right => by
      simp only [Descriptor.same, Bool.and_eq_true, decide_eq_true_eq] at same
      obtain ⟨rfl, parts⟩ := same
      obtain ⟨properties, inner, rfl⟩ := left
      obtain ⟨properties', outer, equal⟩ := right
      obtain rfl : properties = properties' := by
        simp only [mappingDocument, List.cons_append, List.cons.injEq, Clause.properties.injEq]
          at equal
        exact equal.2.2.1
      rw [fields_eq_of_same_of_describedBy fields parts free inner outer]
  | .array element options, .array further options', document, same, free, left, right => by
      simp only [Descriptor.same, Bool.and_eq_true, decide_eq_true_eq] at same
      obtain ⟨rfl, parts⟩ := same
      obtain ⟨items, inner, rfl⟩ := left
      obtain ⟨items', outer, equal⟩ := right
      obtain rfl : items = items' := by
        simp only [List.cons.injEq, Clause.items.injEq] at equal
        exact equal.2.1
      rw [element.eq_of_same_of_describedBy parts free inner outer]
termination_by structural first => first

theorem fields_eq_of_same_of_describedBy :
    (first : List Field) → {second : List Field} → {properties : List (String × Document)} →
      sameFields first second = true → fieldsProviderFree first →
        fieldsDescribedBy refs first properties → fieldsDescribedBy others second properties →
          first = second
  | [], [], _, _, _, _, _ => rfl
  | ⟨name, descriptor, optional, key⟩ :: rest, ⟨_, _, _, _⟩ :: further, properties, same, free,
    left, right => by
      simp only [sameFields, Bool.and_eq_true, decide_eq_true_eq] at same
      obtain ⟨⟨⟨⟨rfl, rfl⟩, rfl⟩, inner⟩, tail⟩ := same
      obtain ⟨document, properties', first, later, rfl⟩ := left
      obtain ⟨document', properties'', second, last, equal⟩ := right
      simp only [List.cons.injEq, Prod.mk.injEq, true_and] at equal
      obtain ⟨rfl, rfl⟩ := equal
      rw [descriptor.eq_of_same_of_describedBy inner free.1 first second,
        fields_eq_of_same_of_describedBy rest tail free.2 later last]
termination_by structural first => first
end

/-! ### Both compilers after a session of calls -/

/-- A remembered equal node without references has the document of the node asked for
only if it is that node. -/
theorem Session.Recalls.compile_eq_iff {start session : Session} {calls : List Call}
    {stored node : Descriptor} {document : Document}
    (recalls : start.Recalls catalogue calls stored document) (free : node.ProviderFree)
    (same : stored.same node = true) :
    (node.compile catalogue).outcome session = .ok document ↔ stored = node := by
  obtain ⟨before, spec, _, _, _, read, compiled⟩ := recalls
  rw [Value.compile, Action.outcome_bind_of_ok read] at compiled
  have storedFree := stored.providerFree_of_same same free
  constructor
  · intro now
    exact stored.eq_of_same_of_describedBy same storedFree
      (Descriptor.describedBy_of_providerFree storedFree compiled)
      (Descriptor.describedBy_of_providerFree free now)
  · rintro rfl
    obtain ⟨only, always⟩ := Descriptor.compile_of_providerFree catalogue free
    rw [always] at compiled ⊢
    exact compiled

theorem Descriptor.compileCached_of_missed (pure : catalogue.Pure) {session : Session}
    {node : Descriptor} {settings : Settings}
    (readable : Settings.read session.environment [] = .accepted settings)
    (hashable : node.hashable = true)
    (missed : (session.cache settings.compileCacheSize).lookup? node = none) :
    (node.compileCached catalogue).outcome session = (node.compile catalogue).outcome session := by
  rcases compileCached_cases readable hashable with
    ⟨_, _, _, _, _, looked, _⟩ | ⟨_, result, _⟩
  · rw [missed] at looked
    exact nomatch looked
  · rw [result, outcome_compileAndStore]
    exact node.compile_outcome_of_alike pure ⟨rfl, rfl, rfl⟩

theorem Session.Recalls.of_found (pure : catalogue.Pure) {start session : Session}
    (fresh : start.caches = []) {calls : List Call}
    (caches : session.caches = (start.run catalogue calls).caches) {node : Descriptor}
    {settings : Settings}
    (readable : Settings.read session.environment [] = .accepted settings)
    (hashable : node.hashable = true) {document : Document} {cache : Cache}
    (found : (session.cache settings.compileCacheSize).lookup? node = some (document, cache)) :
    let plain := (node.compile catalogue).outcome session
    let cached := (node.compileCached catalogue).outcome session
    (cached = plain ↔ plain = .ok document) ∧
      ∃ stored, stored.same node = true ∧ start.Recalls catalogue calls stored document ∧
        (node.ProviderFree → (cached = plain ↔ stored = node)) := by
  intro plain cached
  obtain ⟨result, stored, same, remembered⟩ :=
    Descriptor.compileCached_of_found readable hashable found
  have recalls := Session.recalls_of_remembers pure fresh calls (remembered.of_caches caches)
  have agrees : cached = plain ↔ plain = .ok document := by
    rw [show cached = .ok document from result]
    exact eq_comm
  refine ⟨agrees, stored, same, recalls, fun free => ?_⟩
  rw [agrees]
  exact recalls.compile_eq_iff free same

/-- After any calls, what the cached compiler gives against what the plain one gives.  They
agree unless an equal node is remembered; then the cached one repeats what the plain one
gave at the call that stored the document, and agrees iff it gives the same now.  Without
references that is so iff the remembered node is the very node asked for. -/
theorem Value.compileCached_agrees_iff (pure : catalogue.Pure) {start : Session}
    (fresh : start.caches = []) (calls : List Call) (spec : Value) :
    let session := start.run catalogue calls
    let plain := (spec.compile catalogue).outcome session
    let cached := (spec.compileCached catalogue).outcome session
    match spec.toDescriptor.outcome session with
    | .error error => plain = .error error ∧ cached = .error error
    | .ok node =>
        match Settings.read session.environment [] with
        | .refused complaints => cached = .error (.refused complaints)
        | .accepted settings =>
            if node.hashable then
              match (session.cache settings.compileCacheSize).lookup? node with
              | none => cached = plain
              | some (document, _) =>
                  (cached = plain ↔ plain = .ok document) ∧
                    ∃ stored, stored.same node = true ∧
                      start.Recalls catalogue calls stored document ∧
                      (node.ProviderFree → (cached = plain ↔ stored = node))
            else cached = .error (.fault .type) := by
  intro session plain cached
  cases read : spec.toDescriptor.outcome session with
  | error error =>
      exact ⟨Action.outcome_bind_of_error read, Action.outcome_bind_of_error read⟩
  | ok node =>
      have reads : spec.toDescriptor.Within .uncached := spec.toDescriptor_within
      obtain ⟨environment, caches⟩ := reads.moves session
      have plainNow : plain = (node.compile catalogue).outcome (spec.toDescriptor.after session) :=
        Action.outcome_bind_of_ok read
      have cachedNow :
          cached = (node.compileCached catalogue).outcome (spec.toDescriptor.after session) :=
        Action.outcome_bind_of_ok read
      have sameCache (capacity : Nat) :
          (spec.toDescriptor.after session).cache capacity = session.cache capacity := by
        rw [Session.cache, caches, Session.cache]
      rw [← environment, plainNow, cachedNow]
      dsimp only
      cases readable : Settings.read (spec.toDescriptor.after session).environment [] with
      | refused complaints => exact node.compileCached_of_refused readable
      | accepted settings =>
          dsimp only
          split
          · next hashable =>
              rw [← sameCache]
              split
              · next missed =>
                  exact Descriptor.compileCached_of_missed pure readable hashable missed
              · next document cache found =>
                  exact Session.Recalls.of_found pure fresh caches readable hashable found
          · next unhashable =>
              exact Descriptor.compileCached_of_unhashable readable
                (Bool.eq_false_iff.mpr unhashable)

theorem Value.compileCached_agrees_iff_of_equal_bound :
    let catalogue : Catalogue := fun _ => .delegating
    let one : Binary64 := .finite false 4503599627370496 (-52)
    let whole : Value := .tuple [.text "number", .map .plain [(.text "minimum", .int 1)]]
    let float : Value := .tuple [.text "number", .map .plain [(.text "minimum", .float one)]]
    let node : Descriptor := .primitive (.number { minimum := some (.float one) })
    let document : Document := [.type (.one .number), .minimum (.int 1)]
    let session : Session := Session.run catalogue {} [.compileCached whole]
    let plain := (float.compile catalogue).outcome session
    let cached := (float.compileCached catalogue).outcome session
    catalogue.Pure ∧ ({} : Session).caches = [] ∧ (cached = plain ↔ plain = .ok document) ∧
      ∃ stored, stored.same node = true ∧
        Session.Recalls catalogue {} [.compileCached whole] stored document ∧
        (node.ProviderFree → (cached = plain ↔ stored = node)) := by
  intro catalogue one whole float node document session plain cached
  have pure : catalogue.Pure := Behaviour.delegating_pure
  have fresh : ({} : Session).caches = [] := rfl
  exact ⟨pure, fresh, Value.compileCached_agrees_iff pure fresh [.compileCached whole] float⟩

theorem Value.compileCached_differs_from_compile :
    let catalogue : Catalogue := fun _ => .delegating
    let one : Binary64 := .finite false 4503599627370496 (-52)
    let whole : Value := .tuple [.text "number", .map .plain [(.text "minimum", .int 1)]]
    let float : Value := .tuple [.text "number", .map .plain [(.text "minimum", .float one)]]
    let session : Session := Session.run catalogue {} [.compileCached whole]
    catalogue.Pure ∧
      (float.compileCached catalogue).outcome session =
        .ok [.type (.one .number), .minimum (.int 1)] ∧
      (float.compile catalogue).outcome session =
        .ok [.type (.one .number), .minimum (.float one)] ∧
      (float.compileCached catalogue).outcome session ≠
        (float.compile catalogue).outcome session := by
  intro catalogue one whole float session
  have pure : catalogue.Pure := Behaviour.delegating_pure
  have cached : (float.compileCached catalogue).outcome session =
      .ok [.type (.one .number), .minimum (.int 1)] := rfl
  have plain : (float.compile catalogue).outcome session =
      .ok [.type (.one .number), .minimum (.float one)] := rfl
  refine ⟨pure, cached, plain, ?_⟩
  rw [cached, plain]
  exact nofun

end RecordSchema
