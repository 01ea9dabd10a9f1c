import RecordSchema.Proofs.Descriptor.Sameness
import RecordSchema.Proofs.Value.Parts

namespace RecordSchema

/-! Equality of nodes is an equivalence, as long as no key stands twice in a mapping and no
member twice in a set.  Mappings and sets are compared one way only, so that it takes as many
entries on the other side to find a partner for each. -/

/-! ### Partners -/

section Partners

variable {α β : Type} {related : α → β → Prop} {xs : List α} {ys : List β}

/-- Items that share no partner are no more than the partners. -/
theorem length_le_of_partners
    (apart : xs.Pairwise (fun first second => ∀ y, related first y → ¬ related second y))
    (partners : ∀ x ∈ xs, ∃ y ∈ ys, related x y) : xs.length ≤ ys.length := by
  induction xs generalizing ys with
  | nil => exact Nat.zero_le _
  | cons x rest induction =>
      obtain ⟨alone, apart⟩ := List.pairwise_cons.mp apart
      obtain ⟨⟨y, among, own⟩, partners⟩ := List.forall_mem_cons.mp partners
      obtain ⟨before, after, rfl⟩ := List.append_of_mem among
      have others : ∀ other ∈ rest, ∃ z ∈ before ++ after, related other z := by
        intro other member
        obtain ⟨z, found, partner⟩ := partners other member
        have differs : z ≠ y := fun same => alone other member y own (same ▸ partner)
        exact ⟨z, by simpa [differs] using found, partner⟩
      have shorter := induction apart others
      rw [List.length_append] at shorter
      rw [List.length_append, List.length_cons, List.length_cons]
      omega

/-- Where there are no more partners than items, none is left over. -/
theorem exists_item_of_partners
    (apart : xs.Pairwise (fun first second => ∀ y, related first y → ¬ related second y))
    (partners : ∀ x ∈ xs, ∃ y ∈ ys, related x y) (lengths : xs.length = ys.length) :
    ∀ y ∈ ys, ∃ x ∈ xs, related x y := by
  intro y among
  by_contra left
  obtain ⟨before, after, rfl⟩ := List.append_of_mem among
  have others : ∀ x ∈ xs, ∃ z ∈ before ++ after, related x z := by
    intro x member
    obtain ⟨z, found, partner⟩ := partners x member
    have differs : z ≠ y := fun same => left ⟨x, member, same ▸ partner⟩
    exact ⟨z, by simpa [differs] using found, partner⟩
  have shorter := length_le_of_partners apart others
  rw [List.length_append] at shorter
  rw [List.length_append, List.length_cons] at lengths
  omega

end Partners

/-! ### Congruent items -/

/-- The item equals itself, and what equals it equals the same items as it does. -/
structure Congruent {α : Type} (same : α → α → Bool) (regular : α → Prop) (a : α) : Prop where
  self : same a a = true
  moves : ∀ b c, regular b → regular c → same a b = true → same a c = same b c

namespace Congruent

variable {α : Type} {same : α → α → Bool} {regular : α → Prop} {a b c : α}

theorem symm (congruent : Congruent same regular a) (here : regular a) (there : regular b)
    (equal : same a b = true) : same b a = true := by
  rw [← congruent.moves b a there here equal]
  exact congruent.self

theorem trans (congruent : Congruent same regular a) (middle : regular b) (last : regular c)
    (first : same a b = true) (second : same b c = true) : same a c = true := by
  rw [congruent.moves b c middle last first]
  exact second

/-- Items are equal if one item equals both. -/
theorem join (left : Congruent same regular a) (right : Congruent same regular b)
    (there : regular b) (middle : regular c) (first : same a c = true)
    (second : same b c = true) : same a b = true :=
  left.trans middle there first (right.symm there middle second)

/-- What one side of a matching finds in a list the other side finds there as well. -/
theorem matched_iff {as bs cs : List α} (congruent : ∀ a ∈ as, Congruent same regular a)
    (apart : as.Pairwise (fun a b => ∀ c, regular c ∧ same a c = true →
      ¬ (regular c ∧ same b c = true)))
    (middle : ∀ b ∈ bs, regular b) (last : ∀ c ∈ cs, regular c)
    (lengths : as.length = bs.length) (partners : ∀ a ∈ as, ∃ b ∈ bs, same a b = true) :
    (∀ a ∈ as, ∃ c ∈ cs, same a c = true) ↔ ∀ b ∈ bs, ∃ c ∈ cs, same b c = true := by
  constructor
  · intro found b among
    have regularly : ∀ a ∈ as, ∃ b ∈ bs, regular b ∧ same a b = true := by
      intro a member
      obtain ⟨b, among, equal⟩ := partners a member
      exact ⟨b, among, middle b among, equal⟩
    obtain ⟨a, member, -, equal⟩ := exists_item_of_partners apart regularly lengths b among
    obtain ⟨c, inside, equals⟩ := found a member
    rw [(congruent a member).moves b c (middle b among) (last c inside) equal] at equals
    exact ⟨c, inside, equals⟩
  · intro found a member
    obtain ⟨b, among, equal⟩ := partners a member
    obtain ⟨c, inside, equals⟩ := found b among
    exact ⟨c, inside, (congruent a member).trans (middle b among) (last c inside) equal equals⟩

end Congruent

/-! ### Values without repetition -/

mutual
/-- No key of a mapping and no member of a set within the value stands there twice, be
sequences of two kinds told apart or not. -/
def Value.Regular : Value → Prop
  | .list items => itemsRegular items
  | .tuple items => itemsRegular items
  | .set _ members =>
      (∀ loose, members.Pairwise (fun a b => a.same loose b = false)) ∧ itemsRegular members
  | .map _ entries =>
      entries.Pairwise (fun a b => a.1.eqv b.1 = false) ∧ entriesRegular entries
  | .descriptor node => node.Regular
  | .field ⟨_, descriptor, _, _⟩ => descriptor.Regular
  | _ => True
termination_by structural value => value

def itemsRegular : List Value → Prop
  | [] => True
  | item :: items => item.Regular ∧ itemsRegular items
termination_by structural items => items

def entriesRegular : List (Value × Value) → Prop
  | [] => True
  | (key, value) :: rest => (key.Regular ∧ value.Regular) ∧ entriesRegular rest
termination_by structural entries => entries

def Descriptor.Regular : Descriptor → Prop
  | .primitive _ => True
  | .mapping fields _ => fieldsRegular fields
  | .array element _ => element.Regular
  | .ref provider options =>
      provider.Regular ∧ options.Pairwise (fun a b => a.1.eqv b.1 = false) ∧
        entriesRegular options
  | .foreign value => value.Regular
termination_by structural node => node

def fieldsRegular : List Field → Prop
  | [] => True
  | ⟨_, descriptor, _, _⟩ :: rest => descriptor.Regular ∧ fieldsRegular rest
termination_by structural fields => fields
end

theorem itemsRegular_iff {items : List Value} :
    itemsRegular items ↔ ∀ item ∈ items, item.Regular :=
  forall_mem_of_clauses itemsRegular trivial (fun _ _ => .rfl)

theorem entriesRegular_iff {entries : Entries} :
    entriesRegular entries ↔ ∀ entry ∈ entries, entry.1.Regular ∧ entry.2.Regular :=
  forall_mem_of_clauses entriesRegular trivial (fun _ _ => .rfl)

/-- Equality says of the value what it says of its equals. -/
def Value.Congruent (a : Value) : Prop :=
  ∀ loose, RecordSchema.Congruent (Value.same loose) Value.Regular a

def Descriptor.Congruent (node : Descriptor) : Prop :=
  RecordSchema.Congruent Descriptor.same Descriptor.Regular node

/-! ### Numbers and options -/

namespace Value

theorem same_of_number? {a : Value} {x : Number} (number : a.number? = some x) (loose : Bool)
    (b : Value) : a.same loose b = (match b.number? with
      | some y => x.same y
      | none => false) := by
  cases a with
  | bool truth =>
      cases number
      cases b <;> rfl
  | number value =>
      cases number
      cases b <;> rfl
  | _ => exact nomatch number

theorem congruent_of_number? {a : Value} {x : Number} (number : a.number? = some x) :
    a.Congruent := by
  intro loose
  constructor
  · rw [same_of_number? number, number]
    exact x.same_self
  · intro b c _ _ equal
    rw [same_of_number? number] at equal ⊢
    cases other : b.number? with
    | none => simp [other] at equal
    | some y =>
        rw [other] at equal
        rw [same_of_number? other]
        cases c.number? with
        | none => rfl
        | some z => exact Number.same_congr equal z

end Value

theorem SameBound.self (bound : Option Number) : SameBound bound bound := by
  cases bound with
  | none => trivial
  | some value => exact value.same_self

theorem SameBound.congr {first second : Option Number} (same : SameBound first second)
    (third : Option Number) : SameBound first third ↔ SameBound second third := by
  cases first <;> cases second <;> cases third <;> try exact same.elim
  all_goals try rfl
  exact Bool.eq_iff_iff.mp (Number.same_congr same _)

namespace Primitive

theorem same_self (options : Primitive) : options.same options = true := by
  cases options with
  | number options => exact same_number_iff.mpr ⟨rfl, .self _, .self _⟩
  | _ => simp [same]

theorem same_congr {first second : Primitive} (same : first.same second = true)
    (third : Primitive) : first.same third = second.same third := by
  obtain rfl | ⟨a, b, rfl, rfl⟩ := eq_or_numbers_of_same same
  · rfl
  obtain ⟨nullable, minimum, maximum⟩ := same_number_iff.mp same
  cases third with
  | number c =>
      rw [Bool.eq_iff_iff, same_number_iff, same_number_iff, nullable, minimum.congr,
        maximum.congr]
  | _ => rfl

end Primitive

namespace OptionRecord

theorem same_self (record : OptionRecord) : record.same record = true := by
  cases record with
  | primitive options => exact options.same_self
  | _ => simp [same]

theorem same_congr {first second : OptionRecord} (same : first.same second = true)
    (third : OptionRecord) : first.same third = second.same third := by
  cases first with
  | primitive a =>
      cases second with
      | primitive b =>
          cases third with
          | primitive c => exact Primitive.same_congr same c
          | _ => rfl
      | _ => exact absurd same Bool.false_ne_true
  | _ => rw [of_decide_eq_true same]

end OptionRecord

/-! ### Sequences and sets -/

section Items

variable {loose : Bool} {as bs cs : List Value}

theorem sameItems_self (congruent : ∀ a ∈ as, a.Congruent) : sameItems loose as as = true := by
  induction as with
  | nil => rfl
  | cons a rest induction =>
      obtain ⟨first, rest⟩ := List.forall_mem_cons.mp congruent
      rw [sameItems, (first loose).self, induction rest]
      rfl

theorem sameItems_congr (congruent : ∀ a ∈ as, a.Congruent) (middle : itemsRegular bs)
    (last : itemsRegular cs) (same : sameItems loose as bs = true) :
    sameItems loose as cs = sameItems loose bs cs := by
  induction as generalizing bs cs with
  | nil =>
      cases bs with
      | nil => rfl
      | cons b bs => exact absurd same Bool.false_ne_true
  | cons a rest induction =>
      cases bs with
      | nil => exact absurd same Bool.false_ne_true
      | cons b bs =>
          obtain ⟨first, rest⟩ := List.forall_mem_cons.mp congruent
          rw [sameItems, Bool.and_eq_true] at same
          cases cs with
          | nil => rfl
          | cons c cs =>
              rw [sameItems, sameItems, (first loose).moves b c middle.1 last.1 same.1,
                induction rest middle.2 last.2 same.2]

theorem membersWithin_iff :
    membersWithin loose as bs = true ↔ ∀ a ∈ as, ∃ b ∈ bs, a.same loose b = true := by
  induction as with
  | nil => simp [membersWithin]
  | cons a rest induction => simp [membersWithin, induction]

theorem membersWithin_congr (congruent : ∀ a ∈ as, a.Congruent) (here : itemsRegular as)
    (distinct : as.Pairwise (fun a b => a.same loose b = false)) (middle : itemsRegular bs)
    (last : itemsRegular cs) (lengths : as.length = bs.length)
    (within : membersWithin loose as bs = true) :
    membersWithin loose as cs = membersWithin loose bs cs := by
  rw [itemsRegular_iff] at here middle last
  have apart : as.Pairwise (fun a b => ∀ c : Value, c.Regular ∧ a.same loose c = true →
      ¬ (c.Regular ∧ b.same loose c = true)) := by
    refine distinct.imp_of_mem ?_
    intro a b first second differ c ⟨regular, left⟩ ⟨_, right⟩
    rw [(congruent a first loose).join (congruent b second loose) (here b second) regular left
      right] at differ
    exact nomatch differ
  rw [Bool.eq_iff_iff, membersWithin_iff, membersWithin_iff]
  exact Congruent.matched_iff (fun a among => congruent a among loose) apart middle last lengths
    (membersWithin_iff.mp within)

end Items

namespace Value

variable {items members : List Value}

theorem congruent_list (inside : ∀ item ∈ items, item.Congruent) : (list items).Congruent := by
  intro loose
  refine ⟨sameItems_self inside, fun b c middle last equal => ?_⟩
  cases b with
  | list bs =>
      cases c with
      | list cs => exact sameItems_congr inside middle last equal
      | tuple cs => exact congrArg (loose && ·) (sameItems_congr inside middle last equal)
      | _ => rfl
  | tuple bs =>
      obtain ⟨rfl, equal⟩ : loose = true ∧ sameItems loose items bs = true :=
        Bool.and_eq_true_iff.mp equal
      cases c with
      | list cs => exact sameItems_congr inside middle last equal
      | tuple cs => exact sameItems_congr inside middle last equal
      | _ => rfl
  | _ => exact absurd equal Bool.false_ne_true

theorem congruent_tuple (inside : ∀ item ∈ items, item.Congruent) : (tuple items).Congruent := by
  intro loose
  refine ⟨sameItems_self inside, fun b c middle last equal => ?_⟩
  cases b with
  | tuple bs =>
      cases c with
      | list cs => exact congrArg (loose && ·) (sameItems_congr inside middle last equal)
      | tuple cs => exact sameItems_congr inside middle last equal
      | _ => rfl
  | list bs =>
      obtain ⟨rfl, equal⟩ : loose = true ∧ sameItems loose items bs = true :=
        Bool.and_eq_true_iff.mp equal
      cases c with
      | list cs => exact sameItems_congr inside middle last equal
      | tuple cs => exact sameItems_congr inside middle last equal
      | _ => rfl
  | _ => exact absurd equal Bool.false_ne_true

theorem congruent_set {frozen : Bool} (inside : ∀ member ∈ members, member.Congruent)
    (regular : (set frozen members).Regular) : (set frozen members).Congruent := by
  intro loose
  constructor
  · refine Bool.and_eq_true_iff.mpr ⟨decide_eq_true rfl, membersWithin_iff.mpr ?_⟩
    exact fun member among => ⟨member, among, (inside member among loose).self⟩
  · intro b c middle last equal
    cases b with
    | set frozen' bs =>
        obtain ⟨lengths, within⟩ := Bool.and_eq_true_iff.mp equal
        have lengths : members.length = bs.length := of_decide_eq_true lengths
        cases c with
        | set frozen'' cs =>
            have found := membersWithin_congr inside regular.2 (regular.1 loose) middle.2 last.2
              lengths within
            change (decide (members.length = cs.length) && membersWithin loose members cs) =
              (decide (bs.length = cs.length) && membersWithin loose bs cs)
            rw [lengths, found]
        | _ => rfl
    | _ => exact absurd equal Bool.false_ne_true

end Value

/-! ### Entries -/

section Entries

variable {loose : Bool} {as bs cs : Entries}

def sameEntry (loose : Bool) (a b : Value × Value) : Bool :=
  a.1.eqv b.1 && a.2.same loose b.2

theorem congruent_entry {entry : Value × Value} (key : entry.1.Congruent)
    (value : entry.2.Congruent) :
    Congruent (sameEntry loose) (fun entry => entry.1.Regular ∧ entry.2.Regular) entry where
  self := Bool.and_eq_true_iff.mpr ⟨(key false).self, (value loose).self⟩
  moves b c middle last equal := by
    obtain ⟨keys, values⟩ := Bool.and_eq_true_iff.mp equal
    unfold sameEntry Value.eqv
    rw [(key false).moves b.1 c.1 middle.1 last.1 keys,
      (value loose).moves b.2 c.2 middle.2 last.2 values]

/-- No two keys are equal. -/
abbrev Entries.KeysDiffer (entries : Entries) : Prop :=
  entries.Pairwise (fun a b => a.1.eqv b.1 = false)

theorem find?_eq_some_of_alone {keeps : Value × Value → Bool} {entry : Value × Value}
    (among : entry ∈ bs) (kept : keeps entry = true)
    (alone : bs.Pairwise (fun a b => keeps a = true → ¬ keeps b = true)) :
    List.find? keeps bs = some entry := by
  induction bs with
  | nil => exact nomatch among
  | cons first rest induction =>
      obtain ⟨single, alone⟩ := List.pairwise_cons.mp alone
      rcases List.mem_cons.mp among with rfl | among
      · exact List.find?_cons_of_pos kept
      · rw [List.find?_cons_of_neg (fun here => single entry among here kept)]
        exact induction among alone

/-- The key equals no two keys of the entries that differ. -/
def Entries.Discerns (entries : Entries) (key : Value) : Prop :=
  ∀ a ∈ entries, ∀ b ∈ entries, key.eqv a.1 = true → key.eqv b.1 = true → a.1.eqv b.1 = true

theorem entriesWithin_iff (differ : bs.KeysDiffer) (discerns : ∀ a ∈ as, bs.Discerns a.1) :
    entriesWithin loose as bs = true ↔ ∀ a ∈ as, ∃ b ∈ bs, sameEntry loose a b = true := by
  induction as with
  | nil => simp [entriesWithin]
  | cons entry rest induction =>
      obtain ⟨key, value⟩ := entry
      obtain ⟨first, others⟩ := List.forall_mem_cons.mp discerns
      rw [entriesWithin, Bool.and_eq_true, induction others, List.forall_mem_cons]
      refine and_congr_left' ?_
      constructor
      · intro within
        cases found : List.find? (fun other => key.eqv other.1) bs with
        | none =>
            rw [found] at within
            exact absurd within Bool.false_ne_true
        | some other =>
            rw [found] at within
            have keys := List.find?_some found
            exact ⟨other, List.mem_of_find?_eq_some found, Bool.and_eq_true_iff.mpr ⟨keys, within⟩⟩
      · rintro ⟨other, among, equal⟩
        obtain ⟨keys, values⟩ := Bool.and_eq_true_iff.mp equal
        have alone : bs.Pairwise (fun a b => key.eqv a.1 = true → ¬ key.eqv b.1 = true) := by
          refine List.Pairwise.imp_of_mem ?_ differ
          intro a b left right apart first' second
          rw [first a left b right first' second] at apart
          exact nomatch apart
        rw [find?_eq_some_of_alone among keys alone]
        exact values

variable (congruent : ∀ a ∈ as, a.1.Congruent ∧ a.2.Congruent)
include congruent

theorem discerns_of_congruent (regular : entriesRegular bs) : ∀ a ∈ as, bs.Discerns a.1 := by
  rw [entriesRegular_iff] at regular
  intro a among b first c second left right
  have moved := ((congruent a among).1 false).moves b.1 c.1 (regular b first).1
    (regular c second).1 left
  exact moved.symm.trans right

theorem entriesWithin_self (regular : entriesRegular as) (differ : as.KeysDiffer) :
    entriesWithin loose as as = true := by
  refine (entriesWithin_iff differ (discerns_of_congruent congruent regular)).mpr ?_
  exact fun a among => ⟨a, among,
    (congruent_entry (congruent a among).1 (congruent a among).2).self⟩

theorem entriesWithin_congr (here : entriesRegular as) (differ : as.KeysDiffer)
    (middle : entriesRegular bs) (differ' : bs.KeysDiffer) (last : entriesRegular cs)
    (differ'' : cs.KeysDiffer) (lengths : as.length = bs.length)
    (within : entriesWithin loose as bs = true) :
    entriesWithin loose as cs = entriesWithin loose bs cs := by
  have partners :=
    (entriesWithin_iff differ' (discerns_of_congruent congruent middle)).mp within
  have congruentEntry (a : Value × Value) (among : a ∈ as) :
      Congruent (sameEntry loose) (fun entry => entry.1.Regular ∧ entry.2.Regular) a :=
    congruent_entry (congruent a among).1 (congruent a among).2
  have discerns := discerns_of_congruent congruent last
  rw [entriesRegular_iff] at here middle last
  have apart : as.Pairwise (fun a b => ∀ c : Value × Value,
      (c.1.Regular ∧ c.2.Regular) ∧ sameEntry loose a c = true →
        ¬ ((c.1.Regular ∧ c.2.Regular) ∧ sameEntry loose b c = true)) := by
    refine List.Pairwise.imp_of_mem ?_ differ
    intro a b first second unequal c ⟨regular, left⟩ ⟨_, right⟩
    have joined := (congruentEntry a first).join (congruentEntry b second) (here b second)
      regular left right
    rw [(Bool.and_eq_true_iff.mp joined).1] at unequal
    exact nomatch unequal
  have discerns' : ∀ b ∈ bs, cs.Discerns b.1 := by
    intro b among c first c' second left right
    have regularly : ∀ a ∈ as, ∃ b ∈ bs,
        (b.1.Regular ∧ b.2.Regular) ∧ sameEntry loose a b = true := by
      intro a member
      obtain ⟨b, among, equal⟩ := partners a member
      exact ⟨b, among, middle b among, equal⟩
    obtain ⟨a, member, -, equal⟩ := exists_item_of_partners apart regularly lengths b among
    have keys := (Bool.and_eq_true_iff.mp equal).1
    have key := (congruent a member).1 false
    have moved (c : Value × Value) (inside : c ∈ cs) : a.1.eqv c.1 = b.1.eqv c.1 :=
      key.moves b.1 c.1 (middle b among).1 (last c inside).1 keys
    exact discerns a member c first c' second ((moved c first).trans left)
      ((moved c' second).trans right)
  rw [Bool.eq_iff_iff, entriesWithin_iff differ'' discerns, entriesWithin_iff differ'' discerns']
  exact Congruent.matched_iff congruentEntry apart middle last lengths partners

end Entries

/-! ### Trees -/

theorem Value.congruent_map {kind : MapKind} {entries : Entries}
    (inside : ∀ entry ∈ entries, entry.1.Congruent ∧ entry.2.Congruent)
    (regular : (Value.map kind entries).Regular) : (Value.map kind entries).Congruent := by
  intro loose
  constructor
  · exact Bool.and_eq_true_iff.mpr
      ⟨decide_eq_true rfl, entriesWithin_self inside regular.2 regular.1⟩
  · intro b c middle last equal
    cases b with
    | map kind' bs =>
        obtain ⟨lengths, within⟩ := Bool.and_eq_true_iff.mp equal
        have lengths : entries.length = bs.length := of_decide_eq_true lengths
        cases c with
        | map kind'' cs =>
            have found := entriesWithin_congr inside regular.2 regular.1 middle.2 middle.1 last.2
              last.1 lengths within
            change (decide (entries.length = cs.length) && entriesWithin loose entries cs) =
              (decide (bs.length = cs.length) && entriesWithin loose bs cs)
            rw [lengths, found]
        | _ => rfl
    | _ => exact absurd equal Bool.false_ne_true

theorem Descriptor.congruent_ref {provider : Value} {options : Entries}
    (object : provider.Congruent)
    (inside : ∀ entry ∈ options, entry.1.Congruent ∧ entry.2.Congruent)
    (regular : (Descriptor.ref provider options).Regular) :
    (Descriptor.ref provider options).Congruent := by
  constructor
  · exact Bool.and_eq_true_iff.mpr ⟨(object false).self, Bool.and_eq_true_iff.mpr
      ⟨decide_eq_true rfl, entriesWithin_self inside regular.2.2 regular.2.1⟩⟩
  · intro b c middle last equal
    cases b with
    | ref q bs =>
        obtain ⟨providers, equal⟩ := Bool.and_eq_true_iff.mp equal
        obtain ⟨lengths, within⟩ := Bool.and_eq_true_iff.mp equal
        have lengths : options.length = bs.length := of_decide_eq_true lengths
        cases c with
        | ref o cs =>
            have found := entriesWithin_congr inside regular.2.2 regular.2.1 middle.2.2 middle.2.1
              last.2.2 last.2.1 lengths within
            rw [Descriptor.same, Descriptor.same,
              (object false).moves q o middle.1 last.1 providers, lengths, found]
        | _ => rfl
    | _ => exact absurd equal Bool.false_ne_true

section Fields

variable {as bs cs : List Field}

theorem sameFields_self (congruent : ∀ a ∈ as, a.descriptor.Congruent) :
    sameFields as as = true := by
  induction as with
  | nil => rfl
  | cons a rest induction =>
      obtain ⟨first, rest⟩ := List.forall_mem_cons.mp congruent
      obtain ⟨name, descriptor, optional, key⟩ := a
      simp [sameFields, first.self, induction rest]

theorem sameFields_congr (congruent : ∀ a ∈ as, a.descriptor.Congruent)
    (middle : fieldsRegular bs) (last : fieldsRegular cs) (same : sameFields as bs = true) :
    sameFields as cs = sameFields bs cs := by
  induction as generalizing bs cs with
  | nil =>
      cases bs with
      | nil => rfl
      | cons b bs => exact absurd same Bool.false_ne_true
  | cons a rest induction =>
      obtain ⟨first, others⟩ := List.forall_mem_cons.mp congruent
      obtain ⟨name, descriptor, optional, key⟩ := a
      cases bs with
      | nil => exact absurd same Bool.false_ne_true
      | cons b bs =>
          obtain ⟨name', descriptor', optional', key'⟩ := b
          simp only [sameFields, Bool.and_eq_true, decide_eq_true_eq] at same
          obtain ⟨⟨⟨⟨rfl, rfl⟩, rfl⟩, inner⟩, tail⟩ := same
          cases cs with
          | nil => rfl
          | cons c cs =>
              obtain ⟨name'', descriptor'', optional'', key''⟩ := c
              simp only [sameFields]
              rw [first.moves descriptor' descriptor'' middle.1 last.1 inner,
                induction others middle.2 last.2 tail]

end Fields

mutual
theorem Value.congruent : (a : Value) → a.Regular → a.Congruent
  | .bool _, _ | .number _, _ => Value.congruent_of_number? rfl
  | .list items, regular => Value.congruent_list (items_congruent items regular)
  | .tuple items, regular => Value.congruent_tuple (items_congruent items regular)
  | .set _ members, regular => Value.congruent_set (items_congruent members regular.2) regular
  | .map _ entries, regular => Value.congruent_map (entries_congruent entries regular.2) regular
  | .descriptor node, regular => by
      intro loose
      refine ⟨(node.congruent regular).self, fun b c middle last equal => ?_⟩
      cases b with
      | descriptor other =>
          cases c with
          | descriptor third => exact (node.congruent regular).moves other third middle last equal
          | _ => rfl
      | _ => exact absurd equal Bool.false_ne_true
  | .field ⟨name, descriptor, optional, key⟩, regular => by
      have congruent := descriptor.congruent regular
      intro loose
      refine ⟨by simp [Value.same, congruent.self], fun b c middle last equal => ?_⟩
      cases b with
      | field other =>
          obtain ⟨name', descriptor', optional', key'⟩ := other
          simp only [Value.same, Bool.and_eq_true, decide_eq_true_eq] at equal
          obtain ⟨⟨⟨rfl, rfl⟩, rfl⟩, inner⟩ := equal
          cases c with
          | field third =>
              obtain ⟨name'', descriptor'', optional'', key''⟩ := third
              simp only [Value.same]
              rw [congruent.moves descriptor' descriptor'' middle last inner]
          | _ => rfl
      | _ => exact absurd equal Bool.false_ne_true
  | .options record, _ => by
      intro loose
      refine ⟨record.same_self, fun b c _ _ equal => ?_⟩
      cases b with
      | options other =>
          cases c with
          | options third => exact OptionRecord.same_congr equal third
          | _ => rfl
      | _ => exact absurd equal Bool.false_ne_true
  | .null, _ | .text _, _ | .bytes _ _, _ | .date _ _ _, _ | .moment _, _ | .providerClass _, _
  | .provider _ _, _ | .other _, _ => by
      intro loose
      refine ⟨by simp [Value.same], fun b c _ _ equal => ?_⟩
      cases b <;> simp [Value.same] at equal
      all_goals cases c <;> simp [Value.same, equal]
termination_by structural a => a

theorem items_congruent : (items : List Value) → itemsRegular items →
    ∀ item ∈ items, item.Congruent
  | [], _ => List.forall_mem_nil _
  | item :: items, regular => List.forall_mem_cons.mpr
      ⟨item.congruent regular.1, items_congruent items regular.2⟩
termination_by structural items => items

theorem entries_congruent : (entries : List (Value × Value)) → entriesRegular entries →
    ∀ entry ∈ entries, entry.1.Congruent ∧ entry.2.Congruent
  | [], _ => List.forall_mem_nil _
  | (key, value) :: rest, regular => List.forall_mem_cons.mpr
      ⟨⟨key.congruent regular.1.1, value.congruent regular.1.2⟩,
        entries_congruent rest regular.2⟩
termination_by structural entries => entries

theorem Descriptor.congruent : (node : Descriptor) → node.Regular → node.Congruent
  | .primitive options, _ => by
      refine ⟨options.same_self, fun b c _ _ equal => ?_⟩
      cases b with
      | primitive other =>
          cases c with
          | primitive third => exact Primitive.same_congr equal third
          | _ => rfl
      | _ => exact absurd equal Bool.false_ne_true
  | .mapping fields nullable, regular => by
      have inside := fields_congruent fields regular
      refine ⟨by simp [Descriptor.same, sameFields_self inside], fun b c middle last equal => ?_⟩
      cases b with
      | mapping others nullable' =>
          simp only [Descriptor.same, Bool.and_eq_true, decide_eq_true_eq] at equal
          obtain ⟨rfl, parts⟩ := equal
          cases c with
          | mapping further nullable'' =>
              rw [Descriptor.same, Descriptor.same, sameFields_congr inside middle last parts]
          | _ => rfl
      | _ => exact absurd equal Bool.false_ne_true
  | .array element options, regular => by
      have inside := element.congruent regular
      refine ⟨by simp [Descriptor.same, inside.self], fun b c middle last equal => ?_⟩
      cases b with
      | array other options' =>
          simp only [Descriptor.same, Bool.and_eq_true, decide_eq_true_eq] at equal
          obtain ⟨rfl, part⟩ := equal
          cases c with
          | array third options'' =>
              rw [Descriptor.same, Descriptor.same, inside.moves other third middle last part]
          | _ => rfl
      | _ => exact absurd equal Bool.false_ne_true
  | .ref provider options, regular =>
      Descriptor.congruent_ref (provider.congruent regular.1)
        (entries_congruent options regular.2.2) regular
  | .foreign value, regular => by
      have inside := value.congruent regular false
      refine ⟨inside.self, fun b c middle last equal => ?_⟩
      cases b with
      | foreign other =>
          cases c with
          | foreign third => exact inside.moves other third middle last equal
          | _ => rfl
      | _ => exact absurd equal Bool.false_ne_true
termination_by structural node => node

theorem fields_congruent : (fields : List Field) → fieldsRegular fields →
    ∀ field ∈ fields, field.descriptor.Congruent
  | [], _ => List.forall_mem_nil _
  | ⟨_, descriptor, _, _⟩ :: rest, regular => List.forall_mem_cons.mpr
      ⟨descriptor.congruent regular.1, fields_congruent rest regular.2⟩
termination_by structural fields => fields
end

/-! ### Equality of regular nodes -/

namespace Descriptor

variable {a b c : Descriptor}

theorem Regular.self (regular : a.Regular) : a.same a = true :=
  (a.congruent regular).self

theorem Regular.symm (here : a.Regular) (there : b.Regular) (equal : a.same b = true) :
    b.same a = true :=
  (a.congruent here).symm here there equal

theorem Regular.same_comm (here : a.Regular) (there : b.Regular) : a.same b = b.same a :=
  Bool.eq_iff_iff.mpr ⟨here.symm there, there.symm here⟩

/-- Equal nodes equal the same nodes. -/
theorem Regular.same_left (here : a.Regular) (there : b.Regular) (third : c.Regular)
    (equal : a.same b = true) : a.same c = b.same c :=
  (a.congruent here).moves b c there third equal

theorem Regular.same_right (here : a.Regular) (there : b.Regular) (third : c.Regular)
    (equal : a.same b = true) : c.same a = c.same b := by
  rw [third.same_comm here, third.same_comm there]
  exact here.same_left there third equal

theorem Regular.join (here : a.Regular) (there : b.Regular) (middle : c.Regular)
    (first : a.same c = true) (second : b.same c = true) : a.same b = true :=
  (a.congruent here).join (b.congruent there) there middle first second

end Descriptor

end RecordSchema
