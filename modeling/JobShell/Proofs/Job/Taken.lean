import JobShell.Job.Run
import Mathlib.Data.List.Basic

/-!
# Taking a slot of any table

A background job takes the lowest free slot, whatever the other slots hold, and only that slot
changes. In a full table it takes none, and the table stays as it is.
-/

namespace JobShell

open Unix

set_option autoImplicit false

namespace JobTable

structure IsLowestFree (table : JobTable) (slot : Nat) : Prop where
  isSlot : 1 ≤ slot ∧ slot ≤ table.capacity
  free : table.get? slot = none
  lowest : ∀ earlier, 1 ≤ earlier → earlier < slot → (table.get? earlier).isSome = true

def IsFull (table : JobTable) : Prop :=
  ∀ slot, 1 ≤ slot → slot ≤ table.capacity → (table.get? slot).isSome = true

/-- An entry is put into the lowest free slot, or nowhere because there is none. -/
inductive Takes (table : JobTable) (entry : JobEntry) : Option Nat → JobTable → Prop where
  | slot {slot : Nat} {after : JobTable} (lowest : table.IsLowestFree slot)
      (held : after.get? slot = some entry)
      (others : ∀ other, other ≠ slot → after.get? other = table.get? other)
      (sameSize : after.capacity = table.capacity) : Takes table entry (some slot) after
  | full (full : table.IsFull) : Takes table entry none table

variable {table : JobTable} {slot : Nat} {change : Option JobEntry → Option JobEntry}

theorem capacity_modify : (table.modify slot change).capacity = table.capacity := by
  cases slot with
  | zero => rfl
  | succ index => simp [modify, capacity]

theorem get_modify_same (isSlot : 1 ≤ slot ∧ slot ≤ table.capacity) :
    (table.modify slot change).get? slot = change (table.get? slot) := by
  obtain ⟨index, rfl⟩ : ∃ index, slot = index + 1 := ⟨slot - 1, by omega⟩
  have within : index < table.slots.length := isSlot.2
  simp [modify, get?, List.getElem?_eq_getElem within]

theorem get_modify_other {other : Nat} (different : other ≠ slot) :
    (table.modify slot change).get? other = table.get? other := by
  cases slot with
  | zero => rfl
  | succ index =>
      cases other with
      | zero => rfl
      | succ place =>
          have apart : index ≠ place := fun same => different (congrArg (· + 1) same.symm)
          simp [modify, get?, apart]

theorem lowest_free_is_lowest (found : table.lowestFree? = some slot) :
    table.IsLowestFree slot := by
  obtain ⟨index, first, rfl⟩ := Option.map_eq_some_iff.mp found
  obtain ⟨within, isNone, earlierTaken⟩ := List.findIdx?_eq_some_iff_getElem.mp first
  constructor
  · exact ⟨Nat.le_add_left 1 index, within⟩
  · simpa [get?, List.getElem?_eq_getElem within] using isNone
  · intro earlier positive before
    obtain ⟨place, rfl⟩ : ∃ place, earlier = place + 1 := ⟨earlier - 1, by omega⟩
    have lower : place < index := by omega
    have taken := earlierTaken place lower
    simpa [get?, List.getElem?_eq_getElem (Nat.lt_trans lower within),
      Option.isSome_iff_ne_none] using taken

theorem full_of_no_free (notFound : table.lowestFree? = none) : table.IsFull := by
  have allTaken := List.findIdx?_eq_none_iff.mp (Option.map_eq_none_iff.mp notFound)
  intro slot positive isSlot
  obtain ⟨index, rfl⟩ : ∃ index, slot = index + 1 := ⟨slot - 1, by omega⟩
  have within : index < table.slots.length := isSlot
  have taken := allTaken _ (List.getElem_mem within)
  simpa [get?, List.getElem?_eq_getElem within] using taken

end JobTable

theorem record_group_takes {job : Job} (background : job.mode = .background) (table : JobTable)
    (group : Option Pid) :
    table.Takes ⟨job.text, group⟩ (takeSlot job table).1
      (recordGroup (takeSlot job table).2 (takeSlot job table).1 group) := by
  simp only [takeSlot, background, JobTable.register, JobTable.insert]
  cases found : table.lowestFree? with
  | none => exact .full (JobTable.full_of_no_free found)
  | some slot =>
      have lowest := JobTable.lowest_free_is_lowest found
      simp only [recordGroup, JobTable.setGroup]
      apply JobTable.Takes.slot lowest
      · have isSlot := lowest.isSlot
        rw [← JobTable.capacity_modify] at isSlot
        rw [JobTable.get_modify_same isSlot, JobTable.get_modify_same lowest.isSlot]
        rfl
      · intro other different
        rw [JobTable.get_modify_other different, JobTable.get_modify_other different]
      · rw [JobTable.capacity_modify, JobTable.capacity_modify]

end JobShell
