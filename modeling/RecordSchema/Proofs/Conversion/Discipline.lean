import RecordSchema.Conversion.Validated
import RecordSchema.Proofs.Document.Discipline
import RecordSchema.Provider.Delegation

namespace RecordSchema

/-! Converting and the other calls of the library keep to every discipline that the providers
keep to. -/

/-! ### Walking through data -/

/-- The node that a place in the data belongs to, along keys of the data and positions. -/
def Descriptor.at? : Descriptor → Location → Option Descriptor
  | node, [] => some node
  | .mapping fields _, key :: rest =>
      (Field.ofKey? fields key).bind (fun field => field.descriptor.at? rest)
  | .array element _, .number (.int (.ofNat _)) :: rest => element.at? rest
  | _, _ :: _ => none
termination_by structural _ location => location

def Descriptor.Reaches (node : Descriptor) (provider : Value) (options : Entries) : Prop :=
  ∃ place, node.at? place = some (.ref provider options)

theorem Descriptor.Reaches.field {fields : List Field} {nullable : Bool} {key : Value}
    {field : Field} {provider : Value} {options : Entries}
    (reaches : field.descriptor.Reaches provider options)
    (found : Field.ofKey? fields key = some field) :
    (Descriptor.mapping fields nullable).Reaches provider options := by
  obtain ⟨place, reached⟩ := reaches
  refine ⟨key :: place, ?_⟩
  rw [Descriptor.at?, found]
  exact reached

theorem Descriptor.Reaches.element {element : Descriptor} {sizes : ArrayOptions}
    {provider : Value} {options : Entries} (reaches : element.Reaches provider options) :
    (Descriptor.array element sizes).Reaches provider options := by
  obtain ⟨place, reached⟩ := reaches
  exact ⟨.int (0 : Nat) :: place, reached⟩

namespace Discipline

/-- What is done at references keeps to the discipline. -/
def Expanding (discipline : Discipline) (expand : Expansion) : Prop :=
  ∀ provider options value path found,
    discipline.holds (expand provider options value path found)

/-- What is done at the references that the node reaches does. -/
def ExpandingIn (discipline : Discipline) (node : Descriptor) (expand : Expansion) : Prop :=
  ∀ provider options, node.Reaches provider options →
    ∀ value path found, discipline.holds (expand provider options value path found)

variable {discipline : Discipline} {expand : Expansion}

theorem Expanding.within (expands : discipline.Expanding expand) (node : Descriptor) :
    discipline.ExpandingIn node expand :=
  fun provider options _ => expands provider options

theorem ExpandingIn.field {fields : List Field} {nullable : Bool}
    (expands : discipline.ExpandingIn (.mapping fields nullable) expand) {key : Value}
    {field : Field} (found : Field.ofKey? fields key = some field) :
    discipline.ExpandingIn field.descriptor expand :=
  fun provider options reaches => expands provider options (reaches.field found)

theorem ExpandingIn.element {element : Descriptor} {sizes : ArrayOptions}
    (expands : discipline.ExpandingIn (.array element sizes) expand) :
    discipline.ExpandingIn element expand :=
  fun provider options reaches => expands provider options reaches.element

theorem convertWhole {node : Descriptor} (expands : discipline.ExpandingIn node expand)
    (value : Value) (path : Location) (found : List Failure) :
    discipline.holds (RecordSchema.convertWhole expand node value path found) := by
  unfold RecordSchema.convertWhole
  split
  · exact discipline.value _
  · split
    · exact discipline.value _
    · exact discipline.value _
  · split
    · exact discipline.value _
    · exact discipline.value _
  · exact expands _ _ ⟨[], rfl⟩ _ _ _
  · exact discipline.fail _

mutual
theorem convertWith : (value : Value) → (node : Descriptor) →
    discipline.ExpandingIn node expand → (path : Location) → (found : List Failure) →
      discipline.holds (value.convertWith expand node path found)
  | .map kind entries, node, expands, path, found => by
      have whole := convertWhole expands (.map kind entries) path found
      cases node with
      | mapping fields nullable =>
          exact discipline.bind (convertEntries entries fields nullable expands path [] found)
            (fun _ => discipline.value _)
      | _ => exact whole
  | .list items, node, expands, path, found => by
      have whole := convertWhole expands (.list items) path found
      cases node with
      | array element sizes =>
          exact discipline.bind (convertItems items element expands.element path 0 found)
            (fun _ => discipline.value _)
      | _ => exact whole
  | .tuple items, node, expands, path, found => by
      have whole := convertWhole expands (.tuple items) path found
      cases node with
      | array element sizes =>
          exact discipline.bind (convertItems items element expands.element path 0 found)
            (fun _ => discipline.value _)
      | _ => exact whole
  | .null, _, expands, path, found | .bool _, _, expands, path, found
  | .number _, _, expands, path, found | .text _, _, expands, path, found
  | .bytes _ _, _, expands, path, found | .set _ _, _, expands, path, found
  | .date _ _ _, _, expands, path, found | .moment _, _, expands, path, found
  | .providerClass _, _, expands, path, found | .provider _ _, _, expands, path, found
  | .descriptor _, _, expands, path, found | .field _, _, expands, path, found
  | .options _, _, expands, path, found | .other _, _, expands, path, found =>
      convertWhole expands _ path found
termination_by structural value => value

theorem convertEntries : (entries : List (Value × Value)) → (fields : List Field) →
    (nullable : Bool) → discipline.ExpandingIn (.mapping fields nullable) expand →
      (path : Location) → (record : Entries) → (found : List Failure) →
        discipline.holds (RecordSchema.convertEntries expand entries fields path record found)
  | [], _, _, _, _, _, _ => discipline.value _
  | (key, item) :: rest, fields, nullable, expands, path, record, found => by
      have others := convertEntries rest fields nullable expands path
      rw [RecordSchema.convertEntries]
      split
      · exact others record _
      · next field belongs =>
          exact discipline.bind (convertWith item _ (expands.field belongs) _ found)
            (fun _ => others _ _)
termination_by structural entries => entries

theorem convertItems : (items : List Value) → (element : Descriptor) →
    discipline.ExpandingIn element expand → (path : Location) → (position : Nat) →
      (found : List Failure) →
        discipline.holds (RecordSchema.convertItems expand items element path position found)
  | [], _, _, _, _, _ => discipline.value _
  | item :: rest, element, expands, path, _, found =>
      discipline.bind (convertWith item element expands _ found) (fun _ =>
        discipline.bind (convertItems rest element expands path _ _)
          (fun _ => discipline.value _))
termination_by structural items => items
end

end Discipline

/-! ### Calls of the library -/

/-- The document of a node when the cache of that capacity is the given one. -/
def Descriptor.answerFrom (catalogue : Catalogue) (capacity : Nat) (node : Descriptor)
    (cache : Cache) : Action Document :=
  match cache.lookup? node with
  | some (document, cache) => do
      modify (fun session => session.setCache capacity cache)
      return document
  | none => node.compileAndStore catalogue capacity

/-- A property that calls of the library have as well, which read the settings, look into the
caches, raise any errors and handle them. -/
structure Discipline.Calling extends Discipline where
  throw : ∀ {α : Type} (error : Error), holds (throw error : Action α)
  handle : ∀ {α : Type} {action : Action α} {handle : Error → Action α}, holds action →
    (∀ error, holds (handle error)) → holds (tryCatch action handle)
  settings : holds Action.settings
  look : ∀ {α : Type} (capacity : Nat) {next : Cache → Action α},
    (∀ cache, holds (next cache)) → holds (do next ((← get).cache capacity))
  store : ∀ capacity (change : Cache → Cache), holds (modify (fun session =>
    session.setCache capacity (change (session.cache capacity))) : Action Unit)
  forget : holds clearCaches

namespace Discipline.Calling

variable (calling : Discipline.Calling) {catalogue : Catalogue}

/-- The providers keep to the discipline, when they convert if the conversion that they are
handed does. -/
structure Keeps (catalogue : Catalogue) : Prop where
  resolves : calling.Resolving catalogue
  converts : ∀ key id convert resolved value,
    (∀ node item, calling.holds (convert node item : Action Value)) →
      calling.holds ((catalogue key).convertValue convert id resolved value)

theorem keeps_delegating : calling.Keeps (fun _ => .delegating) where
  resolves _ _ _ := calling.value _
  converts _ _ _ resolved value converts := converts resolved value

theorem completeConversion {expand : Expansion} (expands : calling.Expanding expand)
    (node : Descriptor) (value : Value) :
    calling.holds (RecordSchema.completeConversion expand node value) := by
  refine calling.bind (convertWith value node (expands.within node) [] []) (fun result => ?_)
  dsimp only
  split
  · exact calling.value _
  · exact calling.bind (calling.write _ _ _) (fun _ => calling.throw _)

section Calls

variable {calling} (keeps : calling.Keeps catalogue)
include keeps

theorem Keeps.expandWithin (limit : Nat) (provider : Value) (options : Entries) (value : Value)
    (path : Location) (found : List Failure) :
    calling.holds
      (RecordSchema.expandWithin catalogue limit provider options value path found) := by
  induction limit generalizing provider options value path found with
  | zero => exact calling.fault .recursion
  | succ limit induction =>
      refine calling.bind (keeps.resolves.resolve provider options) (fun resolved => ?_)
      refine calling.handle ?_ (fun error => ?_)
      · refine calling.bind ?_ (fun _ => calling.value _)
        refine calling.bind (calling.reading.conform provider) (fun conforming => ?_)
        cases conforming with
        | provider c id =>
            exact keeps.converts c.key id _ resolved value (calling.completeConversion induction)
        | _ => exact calling.fault .type
      · cases error with
        | conversion failures reason => exact calling.value _
        | _ => exact calling.throw _

theorem Keeps.convert (node : Descriptor) (value : Value) :
    calling.holds (node.convert catalogue value) :=
  calling.completeConversion (keeps.expandWithin expansionLimit) node value

theorem Keeps.compileAndStore (capacity : Nat) (node : Descriptor) :
    calling.holds (node.compileAndStore catalogue capacity) :=
  calling.bind (calling.write _ _ _) (fun _ =>
    calling.bind (keeps.resolves.compile node) (fun document =>
      calling.bind (calling.store capacity (fun cache => cache.store capacity node document))
        (fun _ => calling.value _)))

theorem Keeps.answerFrom (capacity : Nat) (node : Descriptor) (cache : Cache) :
    calling.holds (node.answerFrom catalogue capacity cache) := by
  unfold Descriptor.answerFrom
  split
  · exact calling.bind (calling.store capacity (fun _ => _)) (fun _ => calling.value _)
  · exact keeps.compileAndStore capacity node

theorem Keeps.compileCached (node : Descriptor) :
    calling.holds (node.compileCached catalogue) := by
  refine calling.bind calling.settings (fun settings => ?_)
  dsimp only
  split
  · exact calling.fault .type
  · exact calling.look settings.compileCacheSize
      (keeps.answerFrom settings.compileCacheSize node)

theorem Keeps.issues (node : Descriptor) (value : Value) :
    calling.holds (node.issues catalogue value) :=
  calling.bind (keeps.compileCached node) (fun _ => calling.value _)

theorem Keeps.validate (node : Descriptor) (value : Value) :
    calling.holds (node.validate catalogue value) := by
  refine calling.bind (keeps.issues node value) (fun issues => ?_)
  split
  · exact calling.value _
  · exact calling.bind (calling.write _ _ _) (fun _ => calling.throw _)

theorem Keeps.fromValid (node : Descriptor) (value : Value) :
    calling.holds (node.fromValid catalogue value) :=
  calling.bind (keeps.validate node value) (fun _ => keeps.convert node value)

end Calls

end Discipline.Calling

end RecordSchema
