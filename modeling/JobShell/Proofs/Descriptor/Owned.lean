import JobShell.Proofs.Descriptor.Holdings
import Mathlib.Data.List.Perm.Basic
import Mathlib.Data.List.Nodup

/-!
# The files that a process opened itself

Since some moment a process has opened files, closed some of them and still holds the
others. What it held at that moment lies untouched under what it has opened since. Every
file opened since is either still held by one descriptor or has been let go by exactly
one close, and no other file has been let go.
-/

namespace JobShell.Unix

set_option autoImplicit false

def Holdings.opened (start : Holdings) (trace : Trace) : List Nat :=
  List.range' start.files.length ((start.along trace).files.length - start.files.length)

/-- What a process has opened since the start of a trace and still holds. -/
structure Owns (start : Holdings) (trace : Trace) (owned : DescriptorTable) : Prop where
  table : ∃ exact : DescriptorTable,
    exact.Perm owned ∧ (start.along trace).table = exact ++ start.table
  free : ∀ entry ∈ owned, start.table.lookup entry.1 = none
  distinct : (owned.map Prod.fst).Nodup
  flagged : ∀ entry ∈ owned, entry.2.closeOnExecute = true
  accounted : (start.closed trace ++ owned.map fun entry => some entry.2.file).Perm
    ((start.opened trace).map some)

namespace Owns

variable {start : Holdings} {trace : Trace} {owned : DescriptorTable}

theorem nothing (start : Holdings) : Owns start [] [] where
  table := ⟨[], List.Perm.refl _, rfl⟩
  free := by simp
  distinct := List.nodup_nil
  flagged := by simp
  accounted := by simp [Holdings.closed, Holdings.opened]

theorem perm {other : DescriptorTable} (owns : Owns start trace owned)
    (same : owned.Perm other) : Owns start trace other where
  table := by
    obtain ⟨exact, permuted, table⟩ := owns.table
    exact ⟨exact, permuted.trans same, table⟩
  free := fun entry member => owns.free entry (same.mem_iff.mpr member)
  distinct := (same.map Prod.fst).nodup_iff.mp owns.distinct
  flagged := fun entry member => owns.flagged entry (same.mem_iff.mpr member)
  accounted := ((same.map _).append_left _).symm.trans owns.accounted

theorem unchanged {exchange : Exchange} (owns : Owns start trace owned)
    (same : (start.along trace).after exchange = start.along trace)
    (kept : (start.along trace).letGo exchange = []) :
    Owns start (trace ++ [exchange]) owned where
  table := by
    rw [Holdings.along_snoc, same]
    exact owns.table
  free := owns.free
  distinct := owns.distinct
  flagged := owns.flagged
  accounted := by
    rw [Holdings.closed_snoc, kept, List.append_nil, Holdings.opened, Holdings.along_snoc, same]
    exact owns.accounted

theorem quiet {exchange : Exchange} (owns : Owns start trace owned)
    (isQuiet : Holdings.isQuiet exchange.request = true) :
    Owns start (trace ++ [exchange]) owned :=
  owns.unchanged (Holdings.after_quiet _ isQuiet) (Holdings.let_go_quiet _ isQuiet)

theorem lookup_own (owns : Owns start trace owned) {descriptor : Descriptor} {slot : Slot}
    (member : (descriptor, slot) ∈ owned) :
    (start.along trace).table.lookup descriptor = some slot := by
  obtain ⟨exact, permuted, table⟩ := owns.table
  have found : exact.lookup descriptor = some slot :=
    DescriptorTable.lookup_of_mem ((permuted.map Prod.fst).nodup_iff.mpr owns.distinct)
      (permuted.mem_iff.mpr member)
  rw [table, List.lookup_append, found, Option.some_or]

theorem lookup_start (owns : Owns start trace owned) {descriptor : Descriptor} {slot : Slot}
    (found : start.table.lookup descriptor = some slot) :
    (start.along trace).table.lookup descriptor = some slot := by
  obtain ⟨exact, permuted, table⟩ := owns.table
  have absent : exact.lookup descriptor = none := by
    rw [DescriptorTable.lookup_none_iff]
    intro entry member same
    have free := owns.free entry (permuted.mem_iff.mp member)
    rw [same, found] at free
    cases free
  rw [table, List.lookup_append, absent, Option.none_or, found]

theorem free_now (owns : Owns start trace owned) {descriptor : Descriptor}
    (free : (start.along trace).table.lookup descriptor = none) :
    start.table.lookup descriptor = none ∧ ∀ entry ∈ owned, entry.1 ≠ descriptor := by
  obtain ⟨exact, permuted, table⟩ := owns.table
  rw [table, List.lookup_append, Option.or_eq_none_iff] at free
  refine ⟨free.2, fun entry member => ?_⟩
  exact DescriptorTable.lookup_none_iff.mp free.1 entry (permuted.mem_iff.mpr member)

theorem mem_opened (owns : Owns start trace owned) {entry : Descriptor × Slot}
    (member : entry ∈ owned) : entry.2.file ∈ start.opened trace := by
  have counted : some entry.2.file ∈ (start.opened trace).map some :=
    owns.accounted.mem_iff.mp
      (List.mem_append_right _ (List.mem_map_of_mem (f := fun entry => some entry.2.file) member))
  simpa using counted

theorem extend {exchange : Exchange} (added : DescriptorTable) (owns : Owns start trace owned)
    (free : ∀ entry ∈ added, (start.along trace).table.lookup entry.1 = none)
    (distinct : (added.map Prod.fst).Nodup)
    (flagged : ∀ entry ∈ added, entry.2.closeOnExecute = true)
    (numbers : (added.map fun entry => entry.2.file).Perm
      (List.range' (start.along trace).files.length added.length))
    (table : ((start.along trace).after exchange).table = added ++ (start.along trace).table)
    (files : ((start.along trace).after exchange).files.length =
      (start.along trace).files.length + added.length)
    (kept : (start.along trace).letGo exchange = []) :
    Owns start (trace ++ [exchange]) (added ++ owned) where
  table := by
    obtain ⟨exact, permuted, before⟩ := owns.table
    refine ⟨added ++ exact, permuted.append_left _, ?_⟩
    rw [Holdings.along_snoc, table, before, List.append_assoc]
  free := by
    intro entry member
    rcases List.mem_append.mp member with isNew | isOld
    · exact (owns.free_now (free entry isNew)).1
    · exact owns.free entry isOld
  distinct := by
    rw [List.map_append, List.nodup_append]
    refine ⟨distinct, owns.distinct, fun number isNew other isOld => ?_⟩
    obtain ⟨newEntry, newMember, rfl⟩ := List.mem_map.mp isNew
    obtain ⟨oldEntry, oldMember, rfl⟩ := List.mem_map.mp isOld
    exact ((owns.free_now (free newEntry newMember)).2 oldEntry oldMember).symm
  flagged := by
    intro entry member
    rcases List.mem_append.mp member with isNew | isOld
    · exact flagged entry isNew
    · exact owns.flagged entry isOld
  accounted := by
    have grown := (Holdings.files_prefix_along start trace).length_le
    have opened : start.opened (trace ++ [exchange]) =
        start.opened trace ++ List.range' (start.along trace).files.length added.length := by
      rw [Holdings.opened, Holdings.opened, Holdings.along_snoc, files,
        show (start.along trace).files.length + added.length - start.files.length =
          (start.along trace).files.length - start.files.length + added.length by omega,
        ← List.range'_append_1, Nat.add_sub_cancel' grown]
    rw [Holdings.closed_snoc, kept, List.append_nil, opened, List.map_append, List.map_append]
    have addedNumbers := numbers.map some
    rw [List.map_map] at addedNumbers
    have swapped : (start.closed trace ++ (added.map (fun entry => some entry.2.file) ++
          owned.map fun entry => some entry.2.file)).Perm
        ((start.closed trace ++ owned.map fun entry => some entry.2.file) ++
          added.map fun entry => some entry.2.file) := by
      rw [List.append_assoc]
      exact List.perm_append_comm.append_left _
    exact swapped.trans (owns.accounted.append addedNumbers)

theorem pipe {reader writer : Descriptor} (owns : Owns start trace owned)
    (expected : (start.along trace).Expects ⟨.pipe, .ok (reader, writer)⟩) :
    Owns start (trace ++ [⟨.pipe, .ok (reader, writer)⟩])
      ((writer, ⟨(start.along trace).files.length + 1, true⟩) ::
        (reader, ⟨(start.along trace).files.length, true⟩) :: owned) := by
  obtain ⟨readerFree, writerFree, different⟩ := expected
  have writerFreeThen : ((start.along trace).table.put reader
      ⟨(start.along trace).files.length, true⟩).lookup writer = none := by
    rw [DescriptorTable.lookup_put_other (Ne.symm different)]
    exact writerFree
  refine extend [(writer, ⟨(start.along trace).files.length + 1, true⟩),
    (reader, ⟨(start.along trace).files.length, true⟩)] owns ?_ ?_ ?_ ?_ ?_ ?_ rfl
  · intro entry member
    rcases List.mem_pair.mp member with rfl | rfl
    · exact writerFree
    · exact readerFree
  · simp [Ne.symm different]
  · simp
  · exact List.Perm.swap _ _ []
  · change ((start.along trace).table.put reader _).put writer _ = _
    rw [DescriptorTable.put_of_free writerFreeThen, DescriptorTable.put_of_free readerFree]
    rfl
  · simp [Holdings.after]

theorem openFile {path : PathName} {access : Access} {descriptor : Descriptor}
    (owns : Owns start trace owned)
    (expected : (start.along trace).Expects ⟨.openFile path access, .ok descriptor⟩) :
    Owns start (trace ++ [⟨.openFile path access, .ok descriptor⟩])
      ((descriptor, ⟨(start.along trace).files.length, true⟩) :: owned) := by
  have free : (start.along trace).table.lookup descriptor = none := expected
  refine extend [(descriptor, ⟨(start.along trace).files.length, true⟩)] owns
    ?_ ?_ ?_ ?_ ?_ ?_ rfl
  · intro entry member
    rw [List.mem_singleton.mp member]
    exact free
  · simp
  · simp
  · exact List.Perm.refl _
  · exact DescriptorTable.put_of_free free
  · simp [Holdings.after]

theorem close {descriptor : Descriptor} {slot : Slot} {reply : Except Errno Unit}
    (owns : Owns start trace ((descriptor, slot) :: owned)) :
    Owns start (trace ++ [⟨.close descriptor, reply⟩]) owned where
  table := by
    obtain ⟨exact, permuted, before⟩ := owns.table
    have startKept : (start.table.filter fun entry => entry.1 != descriptor) = start.table := by
      rw [List.filter_eq_self]
      intro entry member
      have free := owns.free _ List.mem_cons_self
      simpa using DescriptorTable.lookup_none_iff.mp free entry member
    have ownedKept : (((descriptor, slot) :: owned).filter fun entry => entry.1 != descriptor) =
        owned := by
      have distinct := owns.distinct
      rw [List.map_cons, List.nodup_cons] at distinct
      rw [List.filter_cons, if_neg (by simp), List.filter_eq_self]
      intro entry member
      have different : entry.1 ≠ descriptor := by
        intro same
        exact distinct.1 (List.mem_map.mpr ⟨entry, member, same⟩)
      simpa using different
    refine ⟨exact.filter fun entry => entry.1 != descriptor, ?_, ?_⟩
    · rw [← ownedKept]
      exact permuted.filter _
    · rw [Holdings.along_snoc]
      change ((start.along trace).table.drop descriptor) = _
      rw [before, DescriptorTable.drop, List.filter_append, startKept]
  free := fun entry member => owns.free entry (List.mem_cons_of_mem _ member)
  distinct := by
    have distinct := owns.distinct
    rw [List.map_cons, List.nodup_cons] at distinct
    exact distinct.2
  flagged := fun entry member => owns.flagged entry (List.mem_cons_of_mem _ member)
  accounted := by
    have found := owns.lookup_own List.mem_cons_self
    have letGo : (start.along trace).letGo ⟨.close descriptor, reply⟩ = [some slot.file] := by
      change [((start.along trace).table.lookup descriptor).map Slot.file] = _
      rw [found, Option.map_some]
    rw [Holdings.closed_snoc, letGo, List.append_assoc, Holdings.opened, Holdings.along_snoc]
    exact owns.accounted

theorem closed_nodup (owns : Owns start trace owned) :
    (start.closed trace).Nodup := by
  have counted := owns.accounted.nodup_iff.mpr
    (List.Nodup.map (fun _ _ => Option.some.inj) List.nodup_range')
  exact (List.nodup_append.mp counted).1

theorem mem_closed (owns : Owns start trace owned)
    {file : Option Nat} (member : file ∈ start.closed trace) :
    ∃ number ∈ start.opened trace, file = some number := by
  have counted := owns.accounted.mem_iff.mp (List.mem_append_left _ member)
  obtain ⟨number, opened, same⟩ := List.mem_map.mp counted
  exact ⟨number, opened, same.symm⟩

end Owns

end JobShell.Unix
