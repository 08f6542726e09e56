import JobShell.Proofs.Job.Taken
import Mathlib.Logic.Function.Basic
import Mathlib.Order.Bounds.Basic

/-!
# The table as a map of slots

Whatever calls a table is given, it goes on as a map from its slots to entries. A new entry
takes the lowest free slot, only a removal frees a slot, and a call that names no occupied
slot does nothing.
-/

namespace JobShell

open Unix

set_option autoImplicit false

namespace JobTable

inductive Request where
  | insert (entry : JobEntry)
  | setGroup (slot : Nat) (group : Option Pid)
  | get (slot : Nat)
  | remove (slot : Nat)
  deriving DecidableEq

/-- What a call answers: the slot that was taken, or the entry of the slot that was named. -/
@[reducible] def Request.Answer : Request → Type
  | .insert _ => Option Nat
  | .setGroup _ _ => Unit
  | .get _ => Option JobEntry
  | .remove _ => Option JobEntry

structure Served where
  request : Request
  answer : request.Answer

def serve (table : JobTable) : (request : Request) → request.Answer × JobTable
  | .insert entry => table.insert entry
  | .setGroup slot group => ((), table.setGroup slot group)
  | .get slot => (table.get? slot, table)
  | .remove slot => table.remove slot

def serveAll (table : JobTable) : List Request → List Served × JobTable
  | [] => ([], table)
  | request :: later =>
    let first := table.serve request
    let rest := first.2.serveAll later
    (⟨request, first.1⟩ :: rest.1, rest.2)

abbrev SlotMap := Nat → Option JobEntry

namespace SlotMap

/-- How a map with slots from one to the capacity answers a call, and the map after it. -/
inductive Step (capacity : Nat) (held : SlotMap) :
    (request : Request) → request.Answer → SlotMap → Prop where
  | stored {entry : JobEntry} {slot : Nat}
      (lowest : IsLeast {free | 1 ≤ free ∧ free ≤ capacity ∧ held free = none} slot) :
      Step capacity held (.insert entry) (some slot) (Function.update held slot (some entry))
  | full {entry : JobEntry} (full : ∀ slot, 1 ≤ slot → slot ≤ capacity → held slot ≠ none) :
      Step capacity held (.insert entry) none held
  | grouped {slot : Nat} {group : Option Pid} {entry : JobEntry} (named : held slot = some entry) :
      Step capacity held (.setGroup slot group) ()
        (Function.update held slot (some { entry with group := group }))
  | ungrouped {slot : Nat} {group : Option Pid} (unnamed : held slot = none) :
      Step capacity held (.setGroup slot group) () held
  | shown (slot : Nat) : Step capacity held (.get slot) (held slot) held
  | freed (slot : Nat) :
      Step capacity held (.remove slot) (held slot) (Function.update held slot none)

inductive Runs (capacity : Nat) : SlotMap → List Served → SlotMap → Prop where
  | nothing (held : SlotMap) : Runs capacity held [] held
  | next {held between final : SlotMap} {request : Request} {answer : request.Answer}
      {later : List Served} (step : Step capacity held request answer between)
      (runs : Runs capacity between later final) :
      Runs capacity held (⟨request, answer⟩ :: later) final

variable {capacity slot : Nat} {held after final : SlotMap} {request : Request}
  {answer : request.Answer} {first second served : List Served}

theorem runs_append_iff :
    Runs capacity held (first ++ second) final ↔
      ∃ between, Runs capacity held first between ∧ Runs capacity between second final := by
  constructor
  · intro runs
    induction first generalizing held with
    | nil => exact ⟨held, .nothing held, runs⟩
    | cons exchange first ih =>
        cases runs with
        | next step runs =>
            obtain ⟨between, before, behind⟩ := ih runs
            exact ⟨between, .next step before, behind⟩
  · rintro ⟨between, before, behind⟩
    induction before with
    | nothing held => exact behind
    | next step _ ih => exact .next step (ih behind)

theorem Step.occupied (step : Step capacity held request answer after)
    (occupied : held slot ≠ none) (notRemoved : request ≠ .remove slot) : after slot ≠ none := by
  cases step with
  | @stored entry other lowest =>
      by_cases same : slot = other
      · simp [same]
      · simpa [same] using occupied
  | @grouped other group entry named =>
      by_cases same : slot = other
      · simp [same]
      · simpa [same] using occupied
  | freed other =>
      have different : slot ≠ other := by
        rintro rfl
        exact notRemoved rfl
      simpa [different] using occupied
  | full _ | ungrouped _ | shown _ => exact occupied

theorem Step.free (step : Step capacity held request answer after) (free : held slot = none)
    (notTaken : ∀ entry, (⟨request, answer⟩ : Served) ≠ ⟨.insert entry, some slot⟩) :
    after slot = none := by
  cases step with
  | @stored entry other lowest =>
      have different : slot ≠ other := by
        rintro rfl
        exact notTaken entry rfl
      simpa [different] using free
  | @grouped other group entry named =>
      have different : slot ≠ other := by
        rintro rfl
        simp [free] at named
      simpa [different] using free
  | freed other =>
      by_cases same : slot = other
      · simp [same]
      · simpa [same] using free
  | full _ | ungrouped _ | shown _ => exact free

theorem Runs.occupied (runs : Runs capacity held served final) (occupied : held slot ≠ none)
    (notRemoved : ∀ exchange ∈ served, exchange.request ≠ .remove slot) : final slot ≠ none := by
  induction runs with
  | nothing held => exact occupied
  | next step _ ih =>
      rw [List.forall_mem_cons] at notRemoved
      exact ih (step.occupied occupied notRemoved.1) notRemoved.2

theorem Runs.free (runs : Runs capacity held served final) (free : held slot = none)
    (notTaken : ∀ exchange ∈ served, ∀ entry, exchange ≠ ⟨.insert entry, some slot⟩) :
    final slot = none := by
  induction runs with
  | nothing held => exact free
  | next step _ ih =>
      rw [List.forall_mem_cons] at notTaken
      exact ih (step.free free notTaken.1) notTaken.2

theorem Runs.freed_between {before between later : List Served} {entry other : JobEntry}
    (runs : Runs capacity held
      (before ++ ⟨.insert entry, some slot⟩ :: between ++ ⟨.insert other, some slot⟩ :: later)
      final) :
    ∃ exchange ∈ between, exchange.request = .remove slot := by
  by_contra notRemoved
  push Not at notRemoved
  obtain ⟨second, upToSecond, fromSecond⟩ := runs_append_iff.mp runs
  obtain ⟨first, _, fromFirst⟩ := runs_append_iff.mp upToSecond
  cases fromFirst with
  | next step runsBetween =>
      cases step with
      | stored _ =>
          have occupied : second slot ≠ none := runsBetween.occupied (by simp) notRemoved
          cases fromSecond with
          | next step _ =>
              cases step with
              | stored lowest => exact occupied lowest.1.2.2

/-- An entry goes past a slot that was freed only when another one has taken it since. -/
theorem Runs.taken_between {before between later : List Served} {entry : JobEntry}
    {freed : Option JobEntry} {higher : Nat}
    (runs : Runs capacity held
      (before ++ ⟨.remove slot, freed⟩ :: between ++ ⟨.insert entry, some higher⟩ :: later) final)
    (isSlot : 1 ≤ slot) (lower : slot < higher) :
    ∃ other, ⟨.insert other, some slot⟩ ∈ between := by
  by_contra notTaken
  push Not at notTaken
  have untaken : ∀ exchange ∈ between, ∀ other, exchange ≠ ⟨.insert other, some slot⟩ := by
    rintro exchange member other rfl
    exact notTaken other member
  obtain ⟨second, upToSecond, fromSecond⟩ := runs_append_iff.mp runs
  obtain ⟨first, _, fromFirst⟩ := runs_append_iff.mp upToSecond
  cases fromFirst with
  | next step runsBetween =>
      cases step with
      | freed _ =>
          have free : second slot = none := runsBetween.free (by simp) untaken
          cases fromSecond with
          | next step _ =>
              cases step with
              | stored lowest =>
                  have within : slot ≤ capacity := lower.le.trans lowest.1.2.1
                  exact absurd (lowest.2 ⟨isSlot, within, free⟩) (by omega)

end SlotMap

variable {table : JobTable} {slot : Nat} {change : Option JobEntry → Option JobEntry}

theorem get_beyond (beyond : slot = 0 ∨ table.capacity < slot) : table.get? slot = none := by
  cases slot with
  | zero => rfl
  | succ index =>
      have missing : table.slots.length ≤ index := by
        have beyondEnd := beyond.resolve_left (Nat.succ_ne_zero index)
        exact Nat.le_of_lt_succ beyondEnd
      simp [get?, List.getElem?_eq_none missing]

theorem is_slot_of_get {entry : JobEntry} (held : table.get? slot = some entry) :
    1 ≤ slot ∧ slot ≤ table.capacity := by
  by_contra beyond
  rw [get_beyond (by omega)] at held
  cases held

theorem modify_unchanged (same : change (table.get? slot) = table.get? slot) :
    table.modify slot change = table := by
  cases slot with
  | zero => rfl
  | succ index =>
      have whole : table.slots.modify index change = table.slots := by
        apply List.ext_getElem?
        intro place
        rw [List.getElem?_modify]
        by_cases here : index = place
        · subst here
          cases content : table.slots[index]? with
          | none => rfl
          | some occupant =>
              have kept : change occupant = occupant := by simpa [get?, content] using same
              simp [kept]
        · simp [here]
      rw [modify, whole]

theorem get_modify (isSlot : 1 ≤ slot ∧ slot ≤ table.capacity) :
    (table.modify slot change).get? =
      Function.update table.get? slot (change (table.get? slot)) := by
  funext other
  by_cases same : other = slot
  · subst same
    rw [get_modify_same isSlot, Function.update_self]
  · rw [get_modify_other same, Function.update_of_ne same]

theorem set_group_of_unnamed (unnamed : table.get? slot = none) (group : Option Pid) :
    table.setGroup slot group = table := by
  apply modify_unchanged
  rw [unnamed]
  rfl

theorem remove_of_unnamed (unnamed : table.get? slot = none) :
    table.remove slot = (none, table) := by
  have unchanged : table.modify slot (fun _ => none) = table := modify_unchanged unnamed.symm
  rw [remove, unchanged, unnamed]

theorem insert_of_lowest (found : table.lowestFree? = some slot) (entry : JobEntry) :
    table.insert entry = (some slot, table.modify slot fun _ => some entry) := by
  rw [insert, found]

theorem insert_of_none (notFound : table.lowestFree? = none) (entry : JobEntry) :
    table.insert entry = (none, table) := by
  rw [insert, notFound]

theorem IsFull.ne_none (full : table.IsFull) :
    ∀ slot, 1 ≤ slot → slot ≤ table.capacity → table.get? slot ≠ none := by
  intro slot positive isSlot
  exact Option.isSome_iff_ne_none.mp (full slot positive isSlot)

theorem IsLowestFree.is_least (lowest : table.IsLowestFree slot) :
    IsLeast {free | 1 ≤ free ∧ free ≤ table.capacity ∧ table.get? free = none} slot := by
  refine ⟨⟨lowest.isSlot.1, lowest.isSlot.2, lowest.free⟩, ?_⟩
  rintro free ⟨positive, _, isFree⟩
  by_contra below
  have taken := lowest.lowest free positive (by omega)
  simp [isFree] at taken

theorem insert_nowhere_iff (table : JobTable) (entry : JobEntry) :
    table.insert entry = (none, table) ↔ table.IsFull := by
  cases found : table.lowestFree? with
  | none => simp [insert_of_none found, full_of_no_free found]
  | some slot =>
      have lowest := lowest_free_is_lowest found
      have notFull : ¬ table.IsFull := by
        intro full
        exact full.ne_none slot lowest.isSlot.1 lowest.isSlot.2 lowest.free
      simp [insert_of_lowest found, notFull]

theorem serve_steps (table : JobTable) (request : Request) :
    SlotMap.Step table.capacity table.get? request (table.serve request).1
        (table.serve request).2.get? ∧
      (table.serve request).2.capacity = table.capacity := by
  cases request with
  | insert entry =>
      cases found : table.lowestFree? with
      | none =>
          rw [serve, insert_of_none found]
          exact ⟨.full (full_of_no_free found).ne_none, rfl⟩
      | some slot =>
          have lowest := lowest_free_is_lowest found
          rw [serve, insert_of_lowest found]
          refine ⟨?_, capacity_modify⟩
          rw [get_modify lowest.isSlot]
          exact .stored lowest.is_least
  | setGroup slot group =>
      cases named : table.get? slot with
      | none =>
          rw [serve, set_group_of_unnamed named]
          exact ⟨.ungrouped named, rfl⟩
      | some entry =>
          refine ⟨?_, capacity_modify⟩
          rw [serve, setGroup, get_modify (is_slot_of_get named), named]
          exact .grouped named
  | get slot => exact ⟨.shown slot, rfl⟩
  | remove slot =>
      refine ⟨?_, capacity_modify⟩
      cases named : table.get? slot with
      | none =>
          have unchanged : Function.update table.get? slot none = table.get? := by
            rw [← named, Function.update_eq_self]
          have step : SlotMap.Step table.capacity table.get? (.remove slot) (table.get? slot)
              (Function.update table.get? slot none) := .freed slot
          rw [serve, remove_of_unnamed named]
          rwa [unchanged, named] at step
      | some entry =>
          rw [serve, remove, get_modify (is_slot_of_get named)]
          exact .freed slot

theorem serve_all_runs (table : JobTable) (requests : List Request) :
    SlotMap.Runs table.capacity table.get? (table.serveAll requests).1
        (table.serveAll requests).2.get? ∧
      (table.serveAll requests).2.capacity = table.capacity ∧
      (table.serveAll requests).1.map Served.request = requests := by
  induction requests generalizing table with
  | nil => exact ⟨.nothing _, rfl, rfl⟩
  | cons request later ih =>
      obtain ⟨step, sameSize⟩ := table.serve_steps request
      obtain ⟨runs, stillSame, asked⟩ := ih (table.serve request).2
      rw [sameSize] at runs stillSame
      exact ⟨.next step runs, stillSame, congrArg (request :: ·) asked⟩

theorem get_empty (capacity : Nat) : (empty capacity).get? = fun _ => none := by
  funext slot
  cases slot with
  | zero => rfl
  | succ index =>
      simp only [get?, empty, List.getElem?_replicate]
      split <;> rfl

theorem slots_by_number (table : JobTable) :
    table.slots = (List.range' 1 table.capacity).map table.get? := by
  apply List.ext_getElem
  · simp [capacity]
  · intro index within _
    simp [get?, Nat.add_comm 1, List.getElem?_eq_getElem within]

theorem length_by_number (table : JobTable) :
    table.length =
      (List.range' 1 table.capacity).countP fun slot => (table.get? slot).isSome := by
  rw [length, slots_by_number, List.countP_map]
  rfl

/-- A table that was empty is a map of the slots from one to its capacity through any calls. An
entry takes the lowest free slot, or none exactly when all are occupied, and each other call
concerns the occupied slot that it names and does nothing when there is none. So an entry never
takes a slot that another one has not left, and never goes past a slot that was freed. -/
theorem table_is_lowest_free_slot_map (capacity : Nat) (requests : List Request) :
    ∃ served final, (empty capacity).serveAll requests = (served, final) ∧
      served.map Served.request = requests ∧
      SlotMap.Runs capacity (fun _ => none) served final.get? ∧
      final.capacity = capacity ∧
      final.length = (List.range' 1 capacity).countP (fun slot => (final.get? slot).isSome) ∧
      (∀ entry, final.insert entry = (none, final) ↔
        ∀ slot, 1 ≤ slot → slot ≤ capacity → (final.get? slot).isSome = true) ∧
      (∀ slot, slot = 0 ∨ capacity < slot → final.get? slot = none) ∧
      (∀ slot, final.get? slot = none →
        (∀ group, final.setGroup slot group = final) ∧ final.remove slot = (none, final)) ∧
      (∀ before between later slot entry other,
        served =
          before ++ ⟨.insert entry, some slot⟩ :: between ++ ⟨.insert other, some slot⟩ :: later →
        ∃ exchange ∈ between, exchange.request = .remove slot) ∧
      ∀ before between later slot freed entry higher,
        served =
          before ++ ⟨.remove slot, freed⟩ :: between ++ ⟨.insert entry, some higher⟩ :: later →
        1 ≤ slot → slot < higher → ∃ other, ⟨.insert other, some slot⟩ ∈ between := by
  have startSize : (empty capacity).capacity = capacity := List.length_replicate
  obtain ⟨runs, sameSize, asked⟩ := (empty capacity).serve_all_runs requests
  rw [startSize] at runs sameSize
  rw [get_empty] at runs
  refine ⟨_, _, rfl, asked, runs, sameSize, ?_, ?_, ?_, ?_, ?_, ?_⟩
  · rw [length_by_number, sameSize]
  · intro entry
    rw [insert_nowhere_iff, IsFull, sameSize]
  · intro slot beyond
    exact get_beyond (by rwa [sameSize])
  · intro slot unnamed
    exact ⟨set_group_of_unnamed unnamed, remove_of_unnamed unnamed⟩
  · intro before between later slot entry other made
    rw [made] at runs
    exact runs.freed_between
  · intro before between later slot freed entry higher made isSlot lower
    rw [made] at runs
    exact runs.taken_between isSlot lower

example :
    ((empty 3).serveAll [.insert ⟨"cat &", none⟩, .insert ⟨"wc &", some 7⟩, .remove 1,
      .insert ⟨"sort &", none⟩]).2.slots =
        [some ⟨"sort &", none⟩, some ⟨"wc &", some 7⟩, none] := by
  decide

end JobTable

end JobShell
