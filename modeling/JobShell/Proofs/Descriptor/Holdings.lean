import JobShell.Proofs.Program.Trace
import JobShell.Unix.Process

/-!
# What a process holds open

The files that a process holds open are determined by what it held at first and by the
trace of its calls: a pipe and an opened file get descriptors that were free and that are
closed when a program is executed, a copy stays open then, and a close lets go. Files
are numbered in the order of their opening, and a pipe is two files, its reading end and
its writing end.

A fork copies the descriptors. As a child has the trace of its parent up to the fork as
the beginning of its own, nothing has to be done for that.
-/

namespace JobShell.Unix

set_option autoImplicit false

namespace DescriptorTable

theorem lookup_none_iff {table : DescriptorTable} {descriptor : Descriptor} :
    table.lookup descriptor = none ↔ ∀ entry ∈ table, entry.1 ≠ descriptor := by
  rw [List.lookup_eq_none_iff]
  constructor
  · intro free entry member
    exact fun same => by simpa [same] using free entry member
  · intro free entry member
    simpa using (free entry member).symm

theorem lookup_filter_ne {table : DescriptorTable} {descriptor other : Descriptor}
    (different : other ≠ descriptor) :
    (table.filter fun entry => entry.1 != descriptor).lookup other = table.lookup other := by
  induction table with
  | nil => rfl
  | cons entry table ih =>
      obtain ⟨number, slot⟩ := entry
      by_cases same : number = descriptor
      · have notOther : (other == number) = false := by
          rw [same]
          exact beq_false_of_ne different
        rw [List.filter_cons, if_neg (by simp [same]), List.lookup_cons, notOther]
        exact ih
      · rw [List.filter_cons, if_pos (by simp [same]), List.lookup_cons, List.lookup_cons, ih]

@[simp]
theorem lookup_put_same (table : DescriptorTable) (descriptor : Descriptor) (slot : Slot) :
    (table.put descriptor slot).lookup descriptor = some slot := by
  simp [put]

@[simp]
theorem lookup_put_other {table : DescriptorTable} {descriptor other : Descriptor} {slot : Slot}
    (different : other ≠ descriptor) :
    (table.put descriptor slot).lookup other = table.lookup other := by
  rw [put, List.lookup_cons, beq_false_of_ne different]
  exact lookup_filter_ne different

@[simp]
theorem lookup_drop_other {table : DescriptorTable} {descriptor other : Descriptor}
    (different : other ≠ descriptor) :
    (table.drop descriptor).lookup other = table.lookup other :=
  lookup_filter_ne different

theorem put_of_free {table : DescriptorTable} {descriptor : Descriptor} {slot : Slot}
    (free : table.lookup descriptor = none) :
    table.put descriptor slot = (descriptor, slot) :: table := by
  have unchanged : (table.filter fun entry => entry.1 != descriptor) = table := by
    rw [List.filter_eq_self]
    intro entry member
    simpa using lookup_none_iff.mp free entry member
  rw [put, unchanged]

theorem lookup_of_mem {table : DescriptorTable} {entry : Descriptor × Slot}
    (distinct : (table.map Prod.fst).Nodup) (member : entry ∈ table) :
    table.lookup entry.1 = some entry.2 := by
  induction table with
  | nil => cases member
  | cons head table ih =>
      rw [List.map_cons, List.nodup_cons] at distinct
      rcases List.mem_cons.mp member with rfl | member
      · rw [List.lookup_cons, beq_self_eq_true]
      · have different : entry.1 ≠ head.1 := by
          intro same
          exact distinct.1 (same ▸ List.mem_map_of_mem member)
        rw [List.lookup_cons, beq_false_of_ne different]
        exact ih distinct.2 member

theorem mem_of_mem_put {table : DescriptorTable} {entry : Descriptor × Slot}
    {descriptor : Descriptor} {slot : Slot} (member : entry ∈ table.put descriptor slot) :
    entry = (descriptor, slot) ∨ entry ∈ table := by
  rcases List.mem_cons.mp member with same | member
  · exact .inl same
  · exact .inr ((List.mem_filter.mp member).1)

theorem mem_of_mem_drop {table : DescriptorTable} {entry : Descriptor × Slot}
    {descriptor : Descriptor} (member : entry ∈ table.drop descriptor) : entry ∈ table :=
  (List.mem_filter.mp member).1

theorem mem_of_lookup {table : DescriptorTable} {descriptor : Descriptor} {slot : Slot}
    (found : table.lookup descriptor = some slot) : (descriptor, slot) ∈ table := by
  obtain ⟨before, after, rfl, _⟩ := List.lookup_eq_some_iff.mp found
  exact List.mem_append_right _ List.mem_cons_self

end DescriptorTable

/-- Where an open file comes from: it was open before, it is an end of the pipe whose
reading end has the given number, or it was opened at a path. -/
inductive Origin where
  | earlier
  | pipeEnd (reader : Nat) (writing : Bool)
  | path (path : PathName) (access : Access)
  deriving DecidableEq, Repr

structure Holdings where
  files : List Origin
  table : DescriptorTable

namespace Holdings

/-- What is held after a call. A close lets go whatever it answers, and copying a
descriptor onto itself does nothing. -/
def after (holdings : Holdings) : Exchange → Holdings
  | ⟨.pipe, .ok (reader, writer)⟩ =>
    let number := holdings.files.length
    { files := holdings.files ++ [.pipeEnd number false, .pipeEnd number true]
      table := (holdings.table.put reader ⟨number, true⟩).put writer ⟨number + 1, true⟩ }
  | ⟨.openFile path access, .ok descriptor⟩ =>
    { files := holdings.files ++ [.path path access]
      table := holdings.table.put descriptor ⟨holdings.files.length, true⟩ }
  | ⟨.close descriptor, _⟩ => { holdings with table := holdings.table.drop descriptor }
  | ⟨.duplicate source target, .ok _⟩ =>
    match holdings.table.lookup source with
    | none => holdings
    | some slot =>
      if source = target then holdings
      else
        { holdings with
          table := holdings.table.put target { slot with closeOnExecute := false } }
  | _ => holdings

/-- Whether a reply is one that the system gives: new descriptors were free, and only an
open descriptor is copied. -/
def Expects (holdings : Holdings) : Exchange → Prop
  | ⟨.pipe, .ok (reader, writer)⟩ =>
    holdings.table.lookup reader = none ∧ holdings.table.lookup writer = none ∧ reader ≠ writer
  | ⟨.openFile _ _, .ok descriptor⟩ => holdings.table.lookup descriptor = none
  | ⟨.duplicate source _, .ok _⟩ => (holdings.table.lookup source).isSome
  | _ => True

def originAt (holdings : Holdings) (descriptor : Descriptor) : Option Origin :=
  (holdings.table.lookup descriptor).bind fun slot => holdings.files[slot.file]?

def along (start : Holdings) (trace : Trace) : Holdings :=
  trace.foldl after start

def Admits (start : Holdings) : Trace → Prop
  | [] => True
  | exchange :: later => start.Expects exchange ∧ (start.after exchange).Admits later

/-- The files that a call lets go: the one that a close finds, or none when the
descriptor is not open. -/
def letGo (holdings : Holdings) : Exchange → List (Option Nat)
  | ⟨.close descriptor, _⟩ => [(holdings.table.lookup descriptor).map Slot.file]
  | _ => []

def closed (start : Holdings) : Trace → List (Option Nat)
  | [] => []
  | exchange :: later => start.letGo exchange ++ (start.after exchange).closed later

@[simp]
theorem along_nil (start : Holdings) : start.along [] = start :=
  rfl

@[simp]
theorem along_append (start : Holdings) (first second : Trace) :
    start.along (first ++ second) = (start.along first).along second :=
  List.foldl_append

theorem along_snoc (start : Holdings) (trace : Trace) (exchange : Exchange) :
    start.along (trace ++ [exchange]) = (start.along trace).after exchange := by
  rw [along_append]
  rfl

theorem closed_append (start : Holdings) (first second : Trace) :
    start.closed (first ++ second) = start.closed first ++ (start.along first).closed second := by
  induction first generalizing start with
  | nil => rfl
  | cons exchange first ih =>
      rw [List.cons_append, closed, closed, ih, List.append_assoc]
      rfl

theorem closed_snoc (start : Holdings) (trace : Trace) (exchange : Exchange) :
    start.closed (trace ++ [exchange]) =
      start.closed trace ++ (start.along trace).letGo exchange := by
  rw [closed_append, closed, closed, List.append_nil]

theorem admits_append_iff (start : Holdings) (first second : Trace) :
    start.Admits (first ++ second) ↔ start.Admits first ∧ (start.along first).Admits second := by
  induction first generalizing start with
  | nil => simp [Admits]
  | cons exchange first ih =>
      rw [List.cons_append, Admits, Admits, ih, and_assoc]
      rfl

def isQuiet : Call → Bool
  | .pipe | .openFile _ _ | .close _ | .duplicate _ _ | .fork => false
  | _ => true

theorem after_quiet (holdings : Holdings) {exchange : Exchange}
    (quiet : isQuiet exchange.request = true) : holdings.after exchange = holdings := by
  obtain ⟨request, reply⟩ := exchange
  cases request <;> first | rfl | cases quiet

theorem along_quiet {holdings : Holdings} {trace : Trace}
    (quiet : ∀ exchange ∈ trace, isQuiet exchange.request = true) :
    holdings.along trace = holdings := by
  induction trace with
  | nil => rfl
  | cons exchange trace ih =>
      rw [List.forall_mem_cons] at quiet
      change (holdings.after exchange).along trace = holdings
      rw [after_quiet holdings quiet.1, ih quiet.2]

theorem let_go_quiet (holdings : Holdings) {exchange : Exchange}
    (quiet : isQuiet exchange.request = true) : holdings.letGo exchange = [] := by
  obtain ⟨request, reply⟩ := exchange
  cases request <;> first | rfl | cases quiet

theorem after_fork (holdings : Holdings) (reply : Call.fork.Reply) :
    holdings.after ⟨.fork, reply⟩ = holdings :=
  rfl

theorem quiet_of_keeps_process {call : Call} (keeps : call.keepsProcess = true) :
    isQuiet call = true := by
  cases call <;> first | rfl | cases keeps

theorem files_prefix_after (holdings : Holdings) (exchange : Exchange) :
    holdings.files <+: (holdings.after exchange).files := by
  unfold after
  split
  · exact List.prefix_append _ _
  · exact List.prefix_append _ _
  · exact List.prefix_rfl
  · split
    · exact List.prefix_rfl
    · split <;> exact List.prefix_rfl
  · exact List.prefix_rfl

def Known (holdings : Holdings) : Prop :=
  ∀ entry ∈ holdings.table, entry.2.file < holdings.files.length

theorem Known.after {holdings : Holdings} (known : holdings.Known) (exchange : Exchange) :
    (holdings.after exchange).Known := by
  intro entry member
  unfold Holdings.after at member ⊢
  split at member
  · rcases DescriptorTable.mem_of_mem_put member with rfl | member
    · simp
    · rcases DescriptorTable.mem_of_mem_put member with rfl | member
      · simp
      · exact Nat.lt_of_lt_of_le (known entry member) (by simp)
  · rcases DescriptorTable.mem_of_mem_put member with rfl | member
    · simp
    · exact Nat.lt_of_lt_of_le (known entry member) (by simp)
  · exact known entry (DescriptorTable.mem_of_mem_drop member)
  · split at member
    · exact known entry member
    · rename_i slot found
      split at member
      · rename_i same
        rw [if_pos same]
        exact known entry member
      · rename_i different
        rw [if_neg different]
        rcases DescriptorTable.mem_of_mem_put member with rfl | member
        · have opened := known _ (DescriptorTable.mem_of_lookup found)
          exact opened
        · exact known entry member
  · exact known entry member

theorem Known.along {start : Holdings} (known : start.Known) (trace : Trace) :
    (start.along trace).Known := by
  induction trace generalizing start with
  | nil => exact known
  | cons exchange trace ih => exact ih (known.after exchange)

theorem files_prefix_along (start : Holdings) (trace : Trace) :
    start.files <+: (start.along trace).files := by
  induction trace generalizing start with
  | nil => exact List.prefix_rfl
  | cons exchange trace ih => exact (files_prefix_after start exchange).trans (ih _)

end Holdings

end JobShell.Unix
