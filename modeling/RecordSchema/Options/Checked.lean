import RecordSchema.Options.Complaint

namespace RecordSchema

/-!
Checks that go on after a complaint.  `Checked.both` keeps the complaints of both
sides in order, so a record is built only where no part of it is refused.
-/

inductive Checked (α : Type) where
  | accepted (value : α)
  | refused (complaints : List Complaint)
deriving Repr

namespace Checked

def refuse (reason : Reason) : Checked α := .refused [.invalid [] reason]

def map (f : α → β) : Checked α → Checked β
  | .accepted value => .accepted (f value)
  | .refused complaints => .refused complaints

def both : Checked (α → β) → Checked α → Checked β
  | .accepted f, .accepted value => .accepted (f value)
  | .accepted _, .refused complaints => .refused complaints
  | .refused complaints, .accepted _ => .refused complaints
  | .refused complaints, .refused more => .refused (complaints ++ more)

/-- A check that is made only where the first one accepts. -/
def next (check : Checked α) (f : α → Checked β) : Checked β :=
  match check with
  | .accepted value => f value
  | .refused complaints => .refused complaints

def within (place : String) : Checked α → Checked α
  | .accepted value => .accepted value
  | .refused complaints => .refused (complaints.map (Complaint.within place))

def complaints : Checked α → List Complaint
  | .accepted _ => []
  | .refused complaints => complaints

def alongside (check : Checked α) (more : List Complaint) : Checked α :=
  match check.complaints ++ more with
  | [] => check
  | complaints => .refused complaints

def items (check : α → Checked β) : Nat → List α → Checked (List β)
  | _, [] => .accepted []
  | position, item :: rest =>
      both (map List.cons (within (toString position) (check item)))
        (items check (position + 1) rest)

@[simp] theorem complaints_accepted (value : α) : (accepted value).complaints = [] := rfl

@[simp] theorem complaints_refused (given : List Complaint) :
    (refused given : Checked α).complaints = given := rfl

@[simp] theorem complaints_map (f : α → β) (check : Checked α) :
    (map f check).complaints = check.complaints := by
  cases check <;> rfl

@[simp] theorem complaints_both (f : Checked (α → β)) (check : Checked α) :
    (both f check).complaints = f.complaints ++ check.complaints := by
  cases f <;> cases check <;> simp [both, complaints]

@[simp] theorem complaints_within (place : String) (check : Checked α) :
    (within place check).complaints = check.complaints.map (Complaint.within place) := by
  cases check <;> rfl

end Checked

end RecordSchema
