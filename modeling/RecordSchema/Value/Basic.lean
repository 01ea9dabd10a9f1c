import RecordSchema.Options.Record

namespace RecordSchema

/-!
Values and descriptors.  A value is anything that a description, an option or the data
may hold; a descriptor is a node of a parsed description.  Descriptors are values too,
and a reference to a provider keeps its options as values, so the types are mutual.
-/

/-- What a provider has to be able to do. -/
inductive Operation where
  | resolve
  | convertValue
deriving DecidableEq, Repr

def Operation.name : Operation → String
  | .resolve => "resolve"
  | .convertValue => "convert_value"

/-- Misuse that is no matter of a description: an operation on a value that does not
support it. -/
inductive Fault where
  | type
  | value
  | key
  | index
  | attribute (name : String)
  | missingFile
  | undecodableFile
  | recursion
deriving DecidableEq, Repr

/-- Faults that no check on the way takes for a complaint about a value. -/
def Fault.uncaught : Fault → Bool
  | .type | .value | .undecodableFile => false
  | _ => true

/-- Why no object can be made without arguments: the call is wrong, with a complaint that
says how, or making one fails by itself. -/
inductive Refusal where
  | type (complaint : String)
  | fault (fault : Fault) (uncaught : fault.uncaught = true)
deriving DecidableEq, Repr

instance : Coe String Refusal := ⟨.type⟩

/-- What a class of provider objects shows of itself: the name of its objects' type, a
name of its own choice, the operations it lacks, what making an object of it without
arguments meets, and whether its objects can be copied and can be keys. -/
structure ProviderClass where
  key : String
  typeName : String
  label : Option String := none
  lacks : List Operation := []
  refusal : Option Refusal := none
  metaName : String := "ABCMeta"
  copyable : Bool := true
  hashable : Bool := true
deriving DecidableEq, Repr

def ProviderClass.displayName (c : ProviderClass) : String :=
  match c.label with
  | some label => if label.isEmpty then c.typeName else label
  | none => c.typeName

inductive MapKind where
  | plain
  | record
  | readOnly
deriving DecidableEq, Repr

/-- A point in time, with the minutes east of the meridian if a zone is known. -/
structure Moment where
  year : Nat
  month : Nat
  day : Nat
  hour : Nat
  minute : Nat
  second : Nat
  microsecond : Nat
  zone : Option Int
deriving DecidableEq, Repr

mutual
inductive Value where
  | null
  | bool (value : Bool)
  | number (value : Number)
  | text (value : String)
  | bytes (mutable : Bool) (data : List UInt8)
  | list (items : List Value)
  | tuple (items : List Value)
  | set (frozen : Bool) (members : List Value)
  | map (kind : MapKind) (entries : List (Value × Value))
  | date (year month day : Nat)
  | moment (value : Moment)
  | providerClass (c : ProviderClass)
  | provider (c : ProviderClass) (id : Nat)
  | descriptor (node : Descriptor)
  | field (field : Field)
  | options (record : OptionRecord)
  | other (typeName : String)

/-- A node of a description.  `foreign` is a value that stands where a node is expected;
no checked constructor makes one. -/
inductive Descriptor where
  | primitive (options : Primitive)
  | mapping (fields : List Field) (nullable : Bool)
  | array (element : Descriptor) (options : ArrayOptions)
  | ref (provider : Value) (options : List (Value × Value))
  | foreign (value : Value)

/-- An entry of a mapping: the name used in records, and the key used in the data where
it is another one. -/
structure Field where
  name : String
  descriptor : Descriptor
  optional : Bool
  key : Option String
end

instance : Inhabited Value := ⟨.null⟩

instance : Inhabited Descriptor := ⟨.primitive .null⟩

/-- The entries of a mapping value, in insertion order. -/
abbrev Entries := List (Value × Value)

namespace Value

def int (value : Int) : Value := .number (.int value)

def float (value : Binary64) : Value := .number (.float value)

def entries? : Value → Option Entries
  | .map _ entries => some entries
  | _ => none

def items? : Value → Option (List Value)
  | .list items => some items
  | .tuple items => some items
  | _ => none

/-- The number that a value counts as in comparisons; truth values count as 0 and 1. -/
def number? : Value → Option Number
  | .bool value => some (.int (if value then 1 else 0))
  | .number value => some value
  | _ => none

def isText : Value → Bool
  | .text _ => true
  | _ => false

/-- Whether the value can be called; a call of a class makes an object. -/
def isCallable : Value → Bool
  | .providerClass _ => true
  | _ => false

end Value

namespace Field

def wireKey (field : Field) : String :=
  field.key.getD field.name

@[simp] theorem wireKey_of_none (name : String) (descriptor : Descriptor) (optional : Bool) :
    (Field.mk name descriptor optional none).wireKey = name := rfl

@[simp] theorem wireKey_of_some (name key : String) (descriptor : Descriptor)
    (optional : Bool) : (Field.mk name descriptor optional (some key)).wireKey = key := rfl

end Field

namespace Descriptor

/-- Whether null is admitted; a reference leaves that to its provider. -/
def nullable : Descriptor → Bool
  | .primitive options => options.nullable
  | .mapping _ nullable => nullable
  | .array _ options => options.nullable
  | .ref _ _ => false
  | .foreign _ => false

def isForeign : Descriptor → Bool
  | .foreign _ => true
  | _ => false

end Descriptor

end RecordSchema
