import RecordSchema.Proofs.Document.Constancy
import RecordSchema.Proofs.Provider.Frugality

namespace RecordSchema

/-! Sessions apart in their logs, their caches and, at most, the object of one class, which one of
them has made and the other has not.  What makes no other objects is read alike in them; where
the object has been made before, or is at hand, so is everything. -/

/-- A provider of a class, and how descriptions refer to it. -/
structure Delegate where
  provider : ProviderClass
  how : Value

namespace Session

/-- Referring to the provider makes no object: it is given by one, by a name, or by a class whose
object has been made. -/
def Has (session : Session) (d : Delegate) : Prop :=
  ∀ c, d.how = .providerClass c → ∃ id, session.instances.shared? c = some id

/-- The class has been used, so its object has been made. -/
def Made (session : Session) (c : ProviderClass) : Prop :=
  ∃ id, session.instances.shared? c = some id

/-- A class whose object has been made, or is the one that only one side may have made. -/
def Knows (session : Session) (d : Delegate) (c : ProviderClass) : Prop :=
  c = d.provider ∨ session.Made c

/-- What data tells of a session that makes no objects: the settings, the registry, and the
objects of the classes that had been used at the start. -/
structure Steady (start session : Session) : Prop where
  settled : Regime.settled.moves start session
  shared : ∀ c id, start.instances.shared? c = some id → session.instances.shared? c = some id

structure Abreast (d : Delegate) (start first second : Session) : Prop where
  left : Regime.settled.moves start first
  right : Regime.settled.moves start second
  share : first.instances.share d.provider = second.instances.share d.provider
  shared : ∀ c id, start.instances.shared? c = some id →
    first.instances.shared? c = some id ∧ second.instances.shared? c = some id
  equal : start.Has d → first.instances = second.instances

/-- Anything, if referring to the provider makes no object.  If it does make one, then what makes
none of another class: plain data, names, and classes whose objects have been made. -/
def Tolerates (session : Session) (d : Delegate) (value : Value) : Prop :=
  session.Has d ∨ value.Frugal (session.Knows d)

def ToleratesNode (session : Session) (d : Delegate) (node : Descriptor) : Prop :=
  session.Has d ∨ node.Frugal (session.Knows d)

variable {d : Delegate} {start first second : Session}

theorem Abreast.steady_left (abreast : Abreast d start first second) : start.Steady first :=
  ⟨abreast.left, fun c id known => (abreast.shared c id known).1⟩

theorem Abreast.steady_right (abreast : Abreast d start first second) : start.Steady second :=
  ⟨abreast.right, fun c id known => (abreast.shared c id known).2⟩

theorem Abreast.refl (session : Session) : Abreast d session session session where
  left := Regime.settled.stays session
  right := Regime.settled.stays session
  share := rfl
  shared _ _ known := ⟨known, known⟩
  equal _ := rfl

/-- Logs and caches are not compared. -/
theorem Abreast.of_same (abreast : Abreast d start first second) {later further : Session}
    (left : Regime.settled.moves first later ∧ later.instances = first.instances)
    (right : Regime.settled.moves second further ∧ further.instances = second.instances) :
    Abreast d start later further where
  left := Regime.settled.joins abreast.left left.1
  right := Regime.settled.joins abreast.right right.1
  share := by rw [left.2, right.2, abreast.share]
  shared := by
    rw [left.2, right.2]
    exact abreast.shared
  equal := by
    rw [left.2, right.2]
    exact abreast.equal

theorem Abreast.share_both (abreast : Abreast d start first second) {c : ProviderClass}
    (tolerated : start.Has d ∨ start.Knows d c) :
    (first.instances.share c).1 = (second.instances.share c).1 ∧
      Abreast d start { first with instances := (first.instances.share c).2 }
        { second with instances := (second.instances.share c).2 } := by
  by_cases same : first.instances.share c = second.instances.share c
  · refine ⟨congrArg Prod.fst same, abreast.left, abreast.right, ?_, fun other id known => ?_,
      fun _ => congrArg Prod.snd same⟩
    · dsimp only
      rw [same]
    · obtain ⟨left, right⟩ := abreast.shared other id known
      exact ⟨Instances.shared?_share left, Instances.shared?_share right⟩
  · rcases tolerated with has | rfl | ⟨id, known⟩
    · exact absurd (congrArg (Instances.share · c) (abreast.equal has)) same
    · exact absurd abreast.share same
    · obtain ⟨left, right⟩ := abreast.shared c id known
      rw [Instances.share_of_shared left, Instances.share_of_shared right]
      exact ⟨rfl, abreast⟩

/-- Making the object of the class on one side only, if references to it do make it. -/
theorem Abreast.share_right (abreast : Abreast d start first second)
    (given : d.how = .providerClass d.provider) :
    Abreast d start first
      { second with instances := (second.instances.share d.provider).2 } where
  left := abreast.left
  right := abreast.right
  share := abreast.share.trans Instances.share_share.symm
  shared c id known :=
    ⟨(abreast.shared c id known).1, Instances.shared?_share (abreast.shared c id known).2⟩
  equal has := by
    obtain ⟨id, known⟩ := has _ given
    dsimp only
    rw [abreast.equal has, Instances.share_of_shared (abreast.shared _ id known).2]

theorem Abreast.copying {step : Copying α} {sort : α → Prop} (spares : step.SparesShared)
    (tolerated : (start.Has d ∧ ∀ value, sort value) ∨ step.Still sort) :
    (Action.copying step).Accords (Abreast d start) sort := by
  rcases tolerated with ⟨has, every⟩ | still
  case inr => exact still.accords
  intro first second abreast
  change Outcomes Eq (OneOf sort) ((Action.copying step).outcome first)
      ((Action.copying step).outcome second) ∧
    Abreast d start ((Action.copying step).after first) ((Action.copying step).after second)
  rw [Action.outcome_copying, Action.outcome_copying, Action.after_copying, Action.after_copying]
  have equal := abreast.equal has
  rw [equal]
  refine ⟨?_, abreast.left, abreast.right, rfl, fun c id known => ?_, fun _ => rfl⟩
  · cases (step.run.run second.instances).1 with
    | ok value => exact .ok ⟨rfl, every value⟩
    | error fault => exact .error rfl
  · have kept : (step.run.run second.instances).2.shared? c = second.instances.shared? c := by
      rw [Instances.shared?, spares, Instances.shared?]
    have known := (abreast.shared c id known).2
    exact ⟨kept.trans known, kept.trans known⟩

theorem Tolerates.conform {candidate : Value} (tolerated : start.Tolerates d candidate) :
    candidate.conform.Accords (Abreast d start) Value.IsObject := by
  cases candidate with
  | providerClass c =>
      unfold Value.conform
      split
      · exact .fail _ _
      · dsimp only
        split
        · exact .throw _ _
        · intro first second abreast
          obtain ⟨same, later⟩ := abreast.share_both tolerated
          exact ⟨.ok ⟨congrArg (Value.provider c) same, fun _ => nofun⟩, later⟩
  | _ => exact Value.IsObject.conform (fun _ => nofun)

theorem copying_accords {options : Entries} {step : Copying Entries}
    (tolerated : options.Hold (start.Tolerates d)) (spares : step.SparesShared)
    (still : entriesFrugal (start.Knows d) options → step.Still (entriesFrugal (start.Knows d))) :
    (Action.copying step).Accords (Abreast d start) (Entries.Hold (start.Tolerates d)) := by
  refine Abreast.copying spares ?_
  by_cases has : start.Has d
  · exact .inl ⟨has, fun _ _ _ => .inl has⟩
  · have frugal : entriesFrugal (start.Knows d) options :=
      entriesFrugal_iff.mpr (fun entry member => (tolerated entry member).resolve_left has)
    obtain ⟨result, given, runs⟩ := still frugal
    exact .inr ⟨result, fun kept same entry member =>
      .inr (entriesFrugal_iff.mp (given kept same) entry member), runs⟩

theorem toleratesNode_mapping {fields : List Field} {nullable : Bool} :
    start.ToleratesNode d (.mapping fields nullable) ↔
      ∀ field ∈ fields, start.ToleratesNode d field.descriptor := by
  by_cases has : start.Has d
  · exact ⟨fun _ _ _ => .inl has, fun _ => .inl has⟩
  · simp only [ToleratesNode, has, false_or, Descriptor.Frugal, fieldsFrugal_iff]

theorem toleratesNode_ref {provider : Value} {options : Entries}
    (given : start.ToleratesNode d (.ref provider options)) :
    (start.Tolerates d provider ∨ provider.IsObject) ∧ options.Hold (start.Tolerates d) := by
  rcases given with has | ⟨object, frugal⟩
  · exact ⟨.inl (.inl has), fun _ _ => .inl has⟩
  · exact ⟨.inr object, fun entry member => .inr (entriesFrugal_iff.mp frugal entry member)⟩

def accord (start : Session) (d : Delegate) (objects : start.registry.HoldsObjects) :
    Accord where
  states := Abreast d start
  values := start.Tolerates d
  nodes := start.ToleratesNode d
  environment abreast := abreast.left.1.trans abreast.right.1.symm
  registry abreast := abreast.left.2.trans abreast.right.2.symm
  objects abreast := by
    rw [abreast.left.2]
    exact objects
  items := by
    rintro value items (has | frugal) given item member
    · exact .inl has
    · rcases Value.items?_eq_some.mp given with rfl | rfl
      all_goals exact .inr (itemsFrugal_iff.mp frugal item member)
  entries := by
    rintro value entries (has | frugal) given entry member
    · exact .inl has
    · obtain ⟨kind, rfl⟩ := Value.entries?_eq_some.mp given
      exact .inr (entriesFrugal_iff.mp frugal entry member)
  node given := given
  primitive _ := .inr trivial
  mapping := toleratesNode_mapping
  array := Iff.rfl
  ref := by
    intro provider options object holds
    by_cases has : start.Has d
    · exact .inl has
    · exact .inr ⟨object, entriesFrugal_iff.mpr (fun entry member =>
        (holds entry member).resolve_left has)⟩
  held := toleratesNode_ref
  conform := Tolerates.conform
  snapshot holds :=
    copying_accords holds (Entries.snapshot_sparesShared _ _)
      (fun frugal => Entries.snapshot_still frugal _)

end Session

/-- What providers resolve to depends neither on the log nor on the caches, nor on whether the
object of the delegate has been made. -/
def Catalogue.ResolvesAbreast (catalogue : Catalogue) (d : Delegate) (start : Session) : Prop :=
  ∀ key id options, Entries.Hold (start.Tolerates d) options →
    ((catalogue key).resolve id options).Accords (Session.Abreast d start) (start.Tolerates d)

theorem Catalogue.resolve_accords {catalogue : Catalogue} {d : Delegate} {start : Session}
    (resolves : catalogue.ResolvesAbreast d start) (objects : start.registry.HoldsObjects)
    {provider : Value} {options : Entries}
    (given : start.ToleratesNode d (.ref provider options)) :
    (catalogue.resolve provider options).Accords (Session.Abreast d start)
      (start.ToleratesNode d) := by
  obtain ⟨among, holds⟩ := Session.toleratesNode_ref given
  have conforms : provider.conform.Accords (Session.Abreast d start) Value.IsObject := by
    rcases among with tolerated | object
    · exact tolerated.conform
    · exact object.conform
  refine .bind conforms (fun used _ => ?_)
  refine .bind (Session.copying_accords holds options.delivery_sparesShared
    Entries.delivery_still) (fun delivered tolerated => ?_)
  cases used with
  | provider c id =>
      exact .bind (resolves c.key id delivered tolerated)
        (fun spec kept => (start.accord d objects).parse_alike kept)
  | _ => exact .fault _ _

end RecordSchema
