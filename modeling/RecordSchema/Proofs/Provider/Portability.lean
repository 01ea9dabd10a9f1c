import RecordSchema.Proofs.Provider.Snapshot
import RecordSchema.Proofs.Session.Conduct
import RecordSchema.Proofs.Value.Parts

namespace RecordSchema

/-! Data that comes back from a snapshot as it was, and entries of such data among others. -/

def Value.PortableHere : Value → Prop
  | .null | .bool _ | .number _ | .text _ | .bytes _ _ | .providerClass _ | .list _
  | .map .plain _ => True
  | _ => False

/-- Data of plain containers and of classes: it is handed over as it was given. -/
def Value.Portable : Value → Prop :=
  Every PortableHere

mutual
theorem Value.thaw?_freeze : (value : Value) → value.Portable → value.freeze.thaw? = some value
  | .null, _ | .bool _, _ | .number _, _ | .text _, _ | .bytes _ _, _ | .providerClass _, _ => rfl
  | .list items, portable => congrArg (Option.map _) (thawItems?_freeze items portable.2)
  | .map .plain entries, portable =>
      congrArg (Option.map _) (thawEntries?_freeze entries portable.2)
termination_by structural value => value

theorem thawItems?_freeze : (items : List Value) → itemsEvery Value.PortableHere items →
    thawItems? (freezeItems items) = some items
  | [], _ => rfl
  | item :: items, portable => by
      rw [freezeItems, thawItems?, item.thaw?_freeze portable.1, Option.bind_some,
        thawItems?_freeze items portable.2, Option.map_some]
termination_by structural items => items

theorem thawEntries?_freeze : (entries : List (Value × Value)) →
    entriesEvery Value.PortableHere entries → thawEntries? (freezeEntries entries) = some entries
  | [], _ => rfl
  | (_, value) :: rest, portable => by
      rw [freezeEntries, thawEntries?, value.thaw?_freeze portable.1, Option.bind_some,
        thawEntries?_freeze rest portable.2, Option.map_some]
termination_by structural entries => entries
end

theorem Value.copy_portable (value : Value) (portable : value.Portable) :
    value.copy = pure value ∧ value.freeze.copy = pure value.freeze := by
  have still (value : Value) (here : value.PortableHere) : value.Still ∧ value.freeze.Still := by
    cases value with
    | list => exact ⟨nofun, nofun⟩
    | map => exact ⟨fun _ => nofun, fun _ => nofun⟩
    | null | bool | number | text | bytes | providerClass =>
        exact ⟨fun _ _ => rfl, fun _ _ => rfl⟩
    | _ => exact here.elim
  have frozen : value.freeze.Every Still :=
    value.every_freeze (fun part here => (still part here).2) portable
  exact ⟨value.copy_of_every (fun part here => (still part here).1) portable,
    value.freeze.copy_of_every (fun _ => id) frozen⟩

theorem Value.listable_of_portable (value : Value) (portable : value.Portable) :
    value.listable = true := by
  refine listable_of_every (fun value here => ?_) value portable
  cases value with
  | map kind entries =>
      cases kind with
      | plain => rfl
      | _ => exact here.elim
  | null | bool | number | text | bytes | providerClass | list => trivial
  | _ => exact here.elim

/-! ### Copies have the keys -/

def Copying.Gives (step : Copying α) (sort : α → Prop) : Prop :=
  ∀ instances value, (step.run.run instances).1 = .ok value → sort value

namespace Copying.Gives

protected theorem pure {value : α} {sort : α → Prop} (given : sort value) :
    (pure value : Copying α).Gives sort := by
  rintro _ _ ⟨⟩
  exact given

protected theorem anything (step : Copying α) : step.Gives (fun _ => True) :=
  fun _ _ _ => trivial

protected theorem bind {step : Copying α} {next : α → Copying β} {middle : α → Prop}
    {sort : β → Prop} (first : step.Gives middle)
    (second : ∀ value, middle value → (next value).Gives sort) : (step >>= next).Gives sort := by
  intro instances final
  change (ExceptT.bindCont next (step.run.run instances).1 (step.run.run instances).2).1 =
    .ok final → sort final
  cases result : (step.run.run instances).1 with
  | ok value => exact second value (first instances value result) _ final
  | error fault => exact nofun

end Copying.Gives

/-- A copy changes nothing but the objects. -/
theorem Action.copying_yields_within {holds : Session → Prop}
    (makes : ∀ {session}, holds session → ∀ instances,
      holds { session with instances := instances })
    {step : Copying α} {sort : α → Prop} (gives : step.Gives sort) :
    (Action.copying step).Yields holds sort where
  keeps session kept := by
    rw [after_copying]
    exact makes kept _
  gives session value _ given := by
    rw [outcome_copying] at given
    cases result : (step.run.run session.instances).1 with
    | ok other =>
        rw [result] at given
        cases given
        exact gives _ _ result
    | error fault =>
        rw [result] at given
        exact nomatch given

theorem Action.copying_yields {step : Copying α} {sort : α → Prop} (gives : step.Gives sort) :
    (Action.copying step).Yields (fun _ => True) sort :=
  copying_yields_within (fun _ _ => trivial) gives

/-- The entries have the keys, in their order. -/
def Entries.Keyed (keys : List Value) (entries : Entries) : Prop :=
  entries.map Prod.fst = keys

theorem Entries.Keyed.length {entries others : Entries}
    (keyed : Keyed (others.map Prod.fst) entries) : List.length entries = List.length others := by
  have same := congrArg List.length keyed
  rwa [List.length_map, List.length_map] at same

theorem copyEntries_keyed (entries : List (Value × Value)) :
    (copyEntries entries).Gives (Entries.Keyed (entries.map Prod.fst)) := by
  induction entries with
  | nil => exact .pure rfl
  | cons entry rest induction =>
      exact .bind (.anything _) (fun _ _ =>
        .bind induction (fun _ keyed => .pure (congrArg (entry.1 :: ·) keyed)))

theorem freezeEntries_keyed (entries : List (Value × Value)) :
    Entries.Keyed (entries.map Prod.fst) (freezeEntries entries) := by
  induction entries with
  | nil => rfl
  | cons entry rest induction => exact congrArg (entry.1 :: ·) induction

theorem thawEntries?_keyed {entries thawed : List (Value × Value)}
    (given : thawEntries? entries = some thawed) :
    Entries.Keyed (entries.map Prod.fst) thawed := by
  induction entries generalizing thawed with
  | nil =>
      cases given
      rfl
  | cons entry rest induction =>
      obtain ⟨first, _, last⟩ := Option.bind_eq_some_iff.mp given
      obtain ⟨others, tail, rfl⟩ := Option.map_eq_some_iff.mp last
      exact congrArg (entry.1 :: ·) (induction tail)

namespace Entries

/-- A snapshot is a copy of the read-only form, if there is one. -/
theorem snapshot_gives {entries : Entries} {sort : Entries → Prop}
    (copies : (copyEntries (freezeEntries entries)).Gives sort) (kind : MapKind) :
    (entries.snapshot kind).Gives sort := by
  unfold snapshot
  split
  · exact copies
  · exact fun _ _ => nofun

theorem snapshot_keyed (entries : Entries) (kind : MapKind) :
    (entries.snapshot kind).Gives (Keyed (entries.map Prod.fst)) := by
  have keyed := copyEntries_keyed (freezeEntries entries)
  rw [freezeEntries_keyed entries] at keyed
  exact snapshot_gives keyed kind

theorem delivery_keyed (entries : Entries) :
    entries.delivery.Gives (Keyed (entries.map Prod.fst)) := by
  unfold delivery
  cases given : thawEntries? entries with
  | none => exact fun _ _ => nofun
  | some thawed =>
      rw [← thawEntries?_keyed given]
      exact copyEntries_keyed thawed

/-! ### One entry among others -/

/-- The entry comes after as many others. -/
def putAt (count : Nat) (key value : Value) (entries : Entries) : Entries :=
  entries.take count ++ (key, value) :: entries.drop count

theorem Keyed.get?_take {before after kept : Entries} {name : String}
    (keyed : Keyed ((before ++ after).map Prod.fst) kept) (first : before.get? name = none) :
    Entries.get? (kept.take before.length) name = none := by
  rw [get?_eq_none, List.map_take, show kept.map Prod.fst = _ from keyed, List.map_append,
    List.take_left' (List.length_map _)]
  exact get?_eq_none.mp first

end Entries

theorem copyEntries_hole {value result : Value} (copied : value.copy = pure result)
    (before after : Entries) (key : Value) :
    copyEntries (before ++ (key, value) :: after) =
      (do return Entries.putAt before.length key result (← copyEntries (before ++ after))) := by
  induction before with
  | nil =>
      rw [List.nil_append, copyEntries, copied, pure_bind]
      rfl
  | cons entry rest induction =>
      rw [List.cons_append, List.cons_append, copyEntries, copyEntries, induction]
      simp only [bind_assoc, pure_bind, List.length_cons]
      rfl

theorem freezeEntries_append (before after : Entries) :
    freezeEntries (before ++ after) = freezeEntries before ++ freezeEntries after := by
  induction before with
  | nil => rfl
  | cons entry rest induction => exact congrArg (_ :: ·) induction

theorem thawEntries?_append (before after : Entries) :
    thawEntries? (before ++ after) =
      (thawEntries? before).bind (fun first => (thawEntries? after).map (first ++ ·)) := by
  induction before with
  | nil => simp [thawEntries?]
  | cons entry rest induction =>
      rw [List.cons_append, thawEntries?, thawEntries?, induction]
      cases entry.2.thaw? with
      | none => rfl
      | some thawed =>
          rw [Option.bind_some, Option.bind_some]
          cases thawEntries? rest <;> cases thawEntries? after <;> rfl

/-- An entry that can be listed does not decide whether all can. -/
theorem entriesListable_hole {value : Value} (listable : value.listable = true)
    (before after : Entries) (key : Value) :
    entriesListable (before ++ (key, value) :: after) = entriesListable (before ++ after) := by
  rw [Bool.eq_iff_iff, entriesListable_iff, entriesListable_iff]
  simp only [List.forall_mem_append, List.forall_mem_cons, listable, true_and]

namespace Entries

theorem snapshot_hole {value : Value} (portable : value.Portable) (before after : Entries)
    (key : Value) :
    snapshot (before ++ (key, value) :: after) =
      (do return putAt before.length key value.freeze (← snapshot (before ++ after))) := by
  have listable := entriesListable_hole (value.listable_of_portable portable) before after key
  unfold snapshot
  rw [Value.listable_map_plain, Value.listable_map_plain, listable]
  split
  · rw [freezeEntries_append, freezeEntries, copyEntries_hole (value.copy_portable portable).2,
      (freezeEntries_keyed before).length, freezeEntries_append]
  · rfl

theorem delivery_hole {value : Value} (portable : value.Portable) (before after : Entries)
    (key : Value) :
    delivery (before ++ (key, value.freeze) :: after) =
      (do return putAt before.length key value (← delivery (before ++ after))) := by
  rw [delivery, delivery, thawEntries?_append, thawEntries?_append, thawEntries?,
    value.thaw?_freeze portable, Option.bind_some]
  cases given : thawEntries? before with
  | none => rfl
  | some first =>
      cases thawEntries? after with
      | none => rfl
      | some second =>
          dsimp only [Option.bind_some, Option.map_some]
          rw [copyEntries_hole (value.copy_portable portable).1, (thawEntries?_keyed given).length]

end Entries

end RecordSchema
