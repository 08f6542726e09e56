import JobShell.Job.Run
import Mathlib.Data.List.Basic

/-!
# Slots that are filled in order

Nothing but a name frees a slot, so in a table that only takes jobs the entries stand one
behind the other, the oldest in the first slot. A job that finds the table full leaves it as
it is, and a group that is recorded later belongs to the entry that was made last.
-/

namespace JobShell

open Unix

set_option autoImplicit false

namespace JobTable

/-- A table that holds the entries in its first slots, as far as it has slots for them. -/
def filled (capacity : Nat) (entries : List JobEntry) : JobTable :=
  ⟨(entries.map some).take capacity ++ List.replicate (capacity - entries.length) none⟩

variable {capacity : Nat} {entries : List JobEntry} {entry : JobEntry}

theorem filled_nil (capacity : Nat) : filled capacity [] = empty capacity := by
  simp [filled, empty]

theorem capacity_filled : (filled capacity entries).capacity = capacity := by
  simp [filled, JobTable.capacity]
  omega

theorem get_filled (index : Nat) :
    (filled capacity entries).get? (index + 1) =
      if index < capacity then entries[index]? else none := by
  simp only [get?, filled]
  by_cases held : index < ((entries.map some).take capacity).length
  · rw [List.getElem?_append_left held]
    simp only [List.length_take, List.length_map] at held
    have within : index < entries.length := by omega
    rw [List.getElem?_take_of_lt (by omega), if_pos (by omega)]
    simp [List.getElem?_eq_getElem within]
  · rw [List.getElem?_append_right (Nat.le_of_not_lt held), List.getElem?_replicate]
    simp only [List.length_take, List.length_map] at held
    by_cases isSlot : index < capacity
    · rw [if_pos isSlot, List.getElem?_eq_none (by omega)]
      split <;> rfl
    · rw [if_neg isSlot]
      split <;> rfl

theorem get_filled_append {slot : Nat} {later : List JobEntry}
    (held : (filled capacity entries).get? slot = some entry) :
    (filled capacity (entries ++ later)).get? slot = some entry := by
  cases slot with
  | zero => simp [get?] at held
  | succ index =>
      rw [get_filled] at held ⊢
      split at held
      · rename_i isSlot
        rw [if_pos isSlot, List.getElem?_append_left (List.getElem?_eq_some_iff.mp held).1, held]
      · cases held

theorem filled_of_room (room : entries.length < capacity) :
    filled capacity entries =
      ⟨entries.map some ++ none :: List.replicate (capacity - entries.length - 1) none⟩ := by
  have short : (entries.map some).take capacity = entries.map some :=
    List.take_of_length_le (by simpa using Nat.le_of_lt room)
  obtain ⟨left, isLeft⟩ : ∃ left, capacity - entries.length = left + 1 :=
    ⟨capacity - entries.length - 1, by omega⟩
  rw [filled, short, isLeft, List.replicate_succ, Nat.add_sub_cancel]

theorem filled_snoc_of_room (room : entries.length < capacity) :
    filled capacity (entries ++ [entry]) =
      ⟨entries.map some ++ some entry ::
        List.replicate (capacity - entries.length - 1) none⟩ := by
  have short : ((entries ++ [entry]).map some).take capacity = (entries ++ [entry]).map some :=
    List.take_of_length_le (by simp; omega)
  rw [filled, short, List.length_append, List.length_singleton, Nat.sub_add_eq]
  simp

theorem filled_of_full (full : capacity ≤ entries.length) :
    filled capacity entries = ⟨(entries.map some).take capacity⟩ := by
  have noneLeft : capacity - entries.length = 0 := by omega
  simp [filled, noneLeft]

theorem filled_snoc_of_full (full : capacity ≤ entries.length) :
    filled capacity (entries ++ [entry]) = filled capacity entries := by
  have longer : capacity ≤ (entries ++ [entry]).length := by
    simp
    omega
  have within : capacity ≤ (entries.map some).length := by simpa using full
  rw [filled_of_full full, filled_of_full longer, List.map_append,
    List.take_append_of_le_length within]

theorem no_free_entry (entries : List JobEntry) :
    (entries.map some).findIdx? Option.isNone = none := by
  simp [List.findIdx?_eq_none_iff]

theorem lowest_free_filled :
    (filled capacity entries).lowestFree? =
      if entries.length < capacity then some (entries.length + 1) else none := by
  by_cases room : entries.length < capacity
  · rw [if_pos room, filled_of_room room, lowestFree?, List.findIdx?_append, no_free_entry]
    simp [List.findIdx?_cons]
  · have full : capacity ≤ entries.length := Nat.le_of_not_lt room
    rw [if_neg room, filled_of_full full, lowestFree?, ← List.map_take, no_free_entry]
    rfl

theorem modify_between {α : Type} (front rest : List α) (element : α) (change : α → α) :
    (front ++ element :: rest).modify front.length change = front ++ change element :: rest := by
  simp [List.modify_eq_take_cons_drop]

theorem modify_filled (room : entries.length < capacity)
    (change : Option JobEntry → Option JobEntry)
    (taken : change none = some entry) :
    (filled capacity entries).modify (entries.length + 1) change =
      filled capacity (entries ++ [entry]) := by
  rw [filled_of_room room, filled_snoc_of_room room]
  have between := modify_between (entries.map some)
    (List.replicate (capacity - entries.length - 1) none) none change
  rw [List.length_map, taken] at between
  rw [modify, between]

theorem register_filled (command : String) :
    (filled capacity entries).register command =
      (if entries.length < capacity then some (entries.length + 1) else none,
        filled capacity (entries ++ [⟨command, none⟩])) := by
  rw [register, insert, lowest_free_filled]
  by_cases room : entries.length < capacity
  · rw [if_pos room]
    exact congrArg (Prod.mk _) (modify_filled room _ rfl)
  · rw [if_neg room, filled_snoc_of_full (Nat.le_of_not_lt room)]

theorem set_group_filled (room : entries.length < capacity) (command : String)
    (group : Option Pid) :
    (filled capacity (entries ++ [⟨command, none⟩])).setGroup (entries.length + 1) group =
      filled capacity (entries ++ [⟨command, group⟩]) := by
  rw [filled_snoc_of_room room, filled_snoc_of_room room, setGroup]
  have between := modify_between (entries.map some)
    (List.replicate (capacity - entries.length - 1) none) (some ⟨command, none⟩)
    (Option.map fun entry : JobEntry => { entry with group := group })
  rw [List.length_map] at between
  rw [modify, between]
  rfl

end JobTable

theorem record_group_filled {capacity : Nat} {entries : List JobEntry} {job : Job}
    (inBackground : job.mode = .background) (group : Option Pid) :
    recordGroup (takeSlot job (.filled capacity entries)).2
        (takeSlot job (.filled capacity entries)).1 group =
      .filled capacity (entries ++ [⟨job.text, group⟩]) := by
  rw [takeSlot, inBackground]
  simp only [JobTable.register_filled]
  by_cases room : entries.length < capacity
  · rw [if_pos room]
    exact JobTable.set_group_filled room job.text group
  · rw [if_neg room, JobTable.filled_snoc_of_full (Nat.le_of_not_lt room),
      ← JobTable.filled_snoc_of_full (Nat.le_of_not_lt room)]
    rfl

end JobShell
