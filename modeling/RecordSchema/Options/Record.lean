import RecordSchema.Number.Basic

namespace RecordSchema

/-!
Option records.  Each kind of descriptor has a record of its own; an option at its
default is one that the description leaves open.
-/

/-- The kinds of descriptor that have no parts. -/
inductive Kind where
  | boolean
  | integer
  | number
  | null
  | string
  | any
deriving DecidableEq, Repr

def Kind.name : Kind → String
  | .boolean => "boolean"
  | .integer => "integer"
  | .number => "number"
  | .null => "null"
  | .string => "string"
  | .any => "any"

def Kind.all : List Kind := [.boolean, .integer, .number, .null, .string, .any]

def Kind.ofName? (name : String) : Option Kind :=
  Kind.all.find? (fun kind => kind.name = name)

inductive Format where
  | datetime
  | email
deriving DecidableEq, Repr

def Format.name : Format → String
  | .datetime => "datetime"
  | .email => "email"

def Format.ofName? (name : String) : Option Format :=
  if name = "datetime" then some .datetime
  else if name = "email" then some .email
  else none

structure IntegerOptions where
  nullable : Bool := false
  minimum : Option Int := none
  maximum : Option Int := none
  enum : Option (List Int) := none
deriving DecidableEq, Repr

structure NumberOptions where
  nullable : Bool := false
  minimum : Option Number := none
  maximum : Option Number := none
deriving DecidableEq, Repr

structure StringOptions where
  nullable : Bool := false
  minLength : Option Nat := none
  maxLength : Option Nat := none
  enum : Option (List String) := none
  format : Option Format := none
deriving DecidableEq, Repr

structure ArrayOptions where
  nullable : Bool := false
  minItems : Option Nat := none
  maxItems : Option Nat := none
deriving DecidableEq, Repr

/-- A kind with the options that it takes. -/
inductive Primitive where
  | boolean (nullable : Bool)
  | integer (options : IntegerOptions)
  | number (options : NumberOptions)
  | null
  | string (options : StringOptions)
  | any (nullable : Bool)
deriving DecidableEq, Repr

namespace Primitive

def kind : Primitive → Kind
  | .boolean _ => .boolean
  | .integer _ => .integer
  | .number _ => .number
  | .null => .null
  | .string _ => .string
  | .any _ => .any

def ofKind : Kind → Primitive
  | .boolean => .boolean false
  | .integer => .integer {}
  | .number => .number {}
  | .null => .null
  | .string => .string {}
  | .any => .any false

def nullable : Primitive → Bool
  | .boolean nullable => nullable
  | .integer options => options.nullable
  | .number options => options.nullable
  | .null => false
  | .string options => options.nullable
  | .any nullable => nullable

@[simp] theorem kind_ofKind (kind : Kind) : (ofKind kind).kind = kind := by
  cases kind <;> rfl

def same : Primitive → Primitive → Bool
  | .number a, .number b =>
    let sameBound (x y : Option Number) := match x, y with
      | none, none => true
      | some x, some y => x.same y
      | _, _ => false
    a.nullable == b.nullable && sameBound a.minimum b.minimum && sameBound a.maximum b.maximum
  | a, b => a = b

end Primitive

/-- The kinds of option record. -/
inductive RecordKind where
  | primitive (kind : Kind)
  | mapping
  | array
deriving DecidableEq, Repr

namespace RecordKind

def label : RecordKind → String
  | .primitive kind => kind.name
  | .mapping => "mapping"
  | .array => "array"

def recordName : RecordKind → String
  | .primitive .boolean => "BooleanOptions"
  | .primitive .integer => "IntegerOptions"
  | .primitive .number => "NumberOptions"
  | .primitive .null => "NullOptions"
  | .primitive .string => "StringOptions"
  | .primitive .any => "AnyOptions"
  | .mapping => "MappingOptions"
  | .array => "ArrayOptions"

def all : List RecordKind := Kind.all.map .primitive ++ [.mapping, .array]

def ofName? (name : String) : Option RecordKind :=
  all.find? (fun kind => kind.recordName = name)

def declared : RecordKind → List String
  | .primitive .null => []
  | .primitive .boolean => ["nullable"]
  | .primitive .integer => ["nullable", "minimum", "maximum", "enum"]
  | .primitive .number => ["nullable", "minimum", "maximum"]
  | .primitive .string => ["nullable", "min_length", "max_length", "enum", "format"]
  | .primitive .any => ["nullable"]
  | .mapping => ["nullable"]
  | .array => ["nullable", "min_items", "max_items"]

end RecordKind

/-- The option record of any kind of descriptor. -/
inductive OptionRecord where
  | primitive (options : Primitive)
  | mapping (nullable : Bool)
  | array (options : ArrayOptions)
deriving DecidableEq, Repr

namespace OptionRecord

def nullable? : OptionRecord → Option Bool
  | .primitive .null => none
  | .primitive options => some options.nullable
  | .mapping nullable => some nullable
  | .array options => some options.nullable

def recordKind : OptionRecord → RecordKind
  | .primitive options => .primitive options.kind
  | .mapping _ => .mapping
  | .array _ => .array

def recordName (record : OptionRecord) : String :=
  record.recordKind.recordName

def same : OptionRecord → OptionRecord → Bool
  | .primitive a, .primitive b => a.same b
  | a, b => a = b

end OptionRecord

end RecordSchema
