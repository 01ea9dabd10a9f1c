import RecordSchema.Value.Equality

namespace RecordSchema

/-!
Entries of mappings.  A key that is written again keeps its place and takes the new
value.
-/

namespace Entries

def find? (entries : Entries) (key : Value) : Option Value :=
  (List.find? (fun entry => key.eqv entry.1) entries).map Prod.snd

def get? (entries : Entries) (name : String) : Option Value :=
  entries.find? (.text name)

def contains (entries : Entries) (name : String) : Bool :=
  (entries.get? name).isSome

def insert : Entries → Value → Value → Entries
  | [], key, value => [(key, value)]
  | (k, v) :: rest, key, value =>
    if key.eqv k then (k, value) :: rest else (k, v) :: insert rest key value

def erase (entries : Entries) (name : String) : Entries :=
  entries.filter (fun entry => !(Value.text name).eqv entry.1)

def merge (lower upper : Entries) : Entries :=
  upper.foldl (fun entries entry => entries.insert entry.1 entry.2) lower

def ofList (pairs : List (Value × Value)) : Entries :=
  merge [] pairs

/-- Whether a mapping cannot list its entries.  An entry of a record comes before the
operation of the same name. -/
def hidden (kind : MapKind) (entries : Entries) : Bool :=
  kind = .record && entries.contains "items"

def ofNames (pairs : List (String × Value)) : Entries :=
  pairs.map (fun pair => (.text pair.1, pair.2))

end Entries

def distinct (members : List Value) : List Value :=
  members.foldl (fun kept member =>
    if kept.any (fun other => member.eqv other) then kept else kept ++ [member]) []

end RecordSchema
