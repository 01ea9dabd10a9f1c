import RecordSchema.Proofs.Descriptor.Standard

namespace RecordSchema

/-! What builds a node from checked parts makes a checked node, in every session. -/

/-- In every session the action gives nothing but the sort. -/
abbrev Action.Gives (action : Action α) (sort : α → Prop) : Prop :=
  action.Yields (fun _ => True) sort

def Value.NodesCheckedHere : Value → Prop
  | .descriptor node => node.Checked
  | .field given => given.descriptor.Checked
  | _ => True

/-- The nodes within a value are checked, those of fields included. -/
def Value.NodesChecked : Value → Prop :=
  Every NodesCheckedHere

/-- Nothing is asked of options, since a reference is checked whatever it holds. -/
def Standard.checked : Standard where
  sessions _ := True
  values := Value.NodesChecked
  options _ := True
  stored _ := True
  records _ := True
  nodes := Descriptor.Checked
  makes _ _ := trivial
  builds _ _ := .anything _
  items inside := inside.items
  held inside := inside.entries
  layer _ _ := trivial
  node := .rfl
  field := .rfl
  record := .rfl
  empty := trivial
  merge _ _ := trivial
  erase _ _ := trivial
  snapshot _ _ := .anything _
  untouched := trivial
  unset _ := trivial
  primitive _ := trivial
  mapping := and_congr_right' (and_congr_right' fieldsChecked_iff)
  array := .rfl
  ref _ _ := trivial
  resumed _ := trivial

theorem Shorthand.parse_checked (registry : Registry) (spec : Value) (inside : spec.NodesChecked)
    (options : Entries) :
    (parse registry spec options).Gives (fun parsed => parsed.descriptor.Checked) :=
  Standard.checked.parse_yields registry spec inside options trivial

theorem Value.parse_checked {spec : Value} (inside : spec.NodesChecked) (options : Entries)
    (registry : Option Registry) : (spec.parse options registry).Gives Descriptor.Checked :=
  Standard.checked.read_yields inside trivial registry

theorem Descriptor.withOptions_checked {node : Descriptor} (checked : node.Checked)
    (options : Entries) : (node.withOptions options).Gives Checked :=
  Standard.checked.withOptions_yields checked trivial

theorem Blueprint.build_checked (blueprint : Blueprint) {given : Arguments}
    (inside : ∀ argument ∈ given, argument.2.NodesChecked) :
    (blueprint.build given).Gives Value.NodesChecked :=
  Standard.checked.build_yields blueprint inside

end RecordSchema
