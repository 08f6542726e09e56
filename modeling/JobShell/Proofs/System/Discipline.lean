import JobShell.Proofs.System.Session

/-!
# The discipline of groups

A program keeps the discipline of groups when it puts each child, as soon as that is forked,
into the group of its first child, when each child does the same by itself before it starts
another program, and when no child is waited for before all of them are there. A program that
owns the terminal gives it to this group, which each of its children also does, before anything
else but joining the group. What a disciplined program has done so far can be told from its
trace.
-/

namespace JobShell.Unix

set_option autoImplicit false

namespace Trace

def leader (trace : Trace) : Option Pid :=
  trace.children.head?

def AllJoined (trace : Trace) : Prop :=
  ∀ child ∈ trace.children, ∃ group reply, ⟨.joinGroup child group, reply⟩ ∈ trace

def WaitedFor (trace : Trace) (child : Pid) : Prop :=
  ∃ (reportStops : Bool) (answer : WaitAnswer), ¬ answer.LeavesOpen ∧
    ⟨.wait child reportStops, answer⟩ ∈ trace

def HasWaited (trace : Trace) : Prop :=
  ∃ child, trace.WaitedFor child

def HasJoined (trace : Trace) : Prop :=
  ∃ group reply, ⟨.joinGroup 0 group, reply⟩ ∈ trace

def HasGiven (trace : Trace) : Prop :=
  ∃ group reply, ⟨.giveTerminal group, reply⟩ ∈ trace

/-- Every child was waited for, and then a group got the terminal. -/
def Reclaimed (trace : Trace) (group : Pid) : Prop :=
  ∃ (before : Trace) (reply : Except Errno Unit),
    trace = before ++ [⟨.giveTerminal group, reply⟩] ∧
      ∀ child ∈ before.children, before.WaitedFor child

end Trace

def ParentObserves (trace : Trace) : Call → Prop
  | .fork => trace.AllJoined ∧ ¬ trace.HasWaited
  | .joinGroup child group =>
    ∃ before : Trace, trace = before ++ [⟨.fork, .ok (some child)⟩] ∧ before.AllJoined ∧
      ¬ before.HasWaited ∧ trace.leader = some group
  | .wait _ _ => trace.AllJoined
  | .giveTerminal _ => trace.children ≠ []
  | _ => True

/-- What a child may do after its own trace, when its parent had another one at the fork. A
child of a program that owns the terminal has to pass that on before it goes on. -/
def ChildObserves (owns : Bool) (before own : Trace) : Call → Prop
  | .ownPid => owns = true → own = [] ∨ own.HasGiven
  | .joinGroup subject group =>
    subject = 0 ∧ ∃ pid, own = [⟨.ownPid, pid⟩] ∧ group = before.leader.getD pid
  | .giveTerminal group =>
    ∃ pid reply, own = [⟨.ownPid, pid⟩, ⟨.joinGroup 0 (before.leader.getD pid), reply⟩] ∧
      group = before.leader.getD pid
  | .execute _ => own.HasJoined ∧ (owns = true → own.HasGiven)
  | .fork | .wait _ _ => False
  | _ => owns = true → own.HasGiven

/-- Every call of a program and of its children is permitted. -/
def Program.Disciplined {α : Type} (owns : Bool) (whole : Program α) : Prop :=
  ∀ trace request next, whole.Follows trace (.call request next) →
    (trace.inChild = false → ParentObserves trace request) ∧
      ∀ before own, trace.IsForked before own → ChildObserves owns before own request

namespace Trace

theorem leader_append {trace : Trace} {pid : Pid} (isLeader : trace.leader = some pid)
    (more : Trace) :
    (trace ++ more).leader = some pid := by
  rw [leader] at isLeader ⊢
  rw [children_append, List.head?_append, isLeader]
  rfl

theorem leader_of_child {trace : Trace} {child : Pid} (member : child ∈ trace.children) :
    ∃ pid, trace.leader = some pid :=
  Option.isSome_iff_exists.mp (List.isSome_head?.mpr (List.ne_nil_of_mem member))

theorem leader_mem {trace : Trace} {pid : Pid} (isLeader : trace.leader = some pid) :
    pid ∈ trace.children :=
  List.mem_of_mem_head? isLeader

theorem children_fork (trace : Trace) (child : Pid) :
    children (trace ++ [⟨.fork, .ok (some child)⟩]) = trace.children ++ [child] := by
  rw [children_append]
  rfl

theorem children_of_single {trace : Trace} {exchange : Exchange} (single : exchange.forks = false) :
    children (trace ++ [exchange]) = trace.children := by
  rw [children, births_of_not_forks (by simpa using single), children]

theorem leader_of_birth {trace before : Trace} {child : Pid}
    (born : (child, before) ∈ trace.births) :
    trace.leader = some (before.leader.getD child) := by
  induction trace using List.reverseRecOn with
  | nil => cases born
  | append_singleton trace exchange ih =>
      rw [births_snoc] at born
      rcases List.mem_append.mp born with isOld | isNew
      · exact leader_append (ih isOld) _
      · unfold birth at isNew
        split at isNew
        · cases List.mem_singleton.mp isNew
          rw [leader, leader, children_fork, List.head?_append]
          cases before.children <;> rfl
        · cases isNew

theorem IsForked.unique {trace before own other rest : Trace} (forked : trace.IsForked before own)
    (again : trace.IsForked other rest) : other = before ∧ rest = own := by
  have same := forked.split.symm.trans again.split
  obtain rfl := fork_unique forked.isFirst again.isFirst same
  have tails := List.append_cancel_left same
  exact ⟨rfl, (List.cons.inj tails).2.symm⟩

theorem IsForked.snoc {trace before own : Trace} (forked : trace.IsForked before own)
    (exchange : Exchange) : Trace.IsForked (trace ++ [exchange]) before (own ++ [exchange]) :=
  ⟨forked.isFirst, by rw [forked.split, List.append_assoc, List.cons_append]⟩

theorem AllJoined.snoc {trace : Trace} (joined : trace.AllJoined) {exchange : Exchange}
    (single : exchange.forks = false) : Trace.AllJoined (trace ++ [exchange]) := by
  intro child member
  rw [children_of_single single] at member
  obtain ⟨group, reply, isIn⟩ := joined child member
  exact ⟨group, reply, List.mem_append_left _ isIn⟩

theorem HasWaited.snoc {trace : Trace} (waited : trace.HasWaited) (exchange : Exchange) :
    Trace.HasWaited (trace ++ [exchange]) := by
  obtain ⟨child, reportStops, answer, settles, member⟩ := waited
  exact ⟨child, reportStops, answer, settles, List.mem_append_left _ member⟩

theorem HasGiven.snoc {trace : Trace} (given : trace.HasGiven) (exchange : Exchange) :
    Trace.HasGiven (trace ++ [exchange]) := by
  obtain ⟨group, reply, member⟩ := given
  exact ⟨group, reply, List.mem_append_left _ member⟩

theorem not_waited_behind_fork {trace before : Trace} {child : Pid}
    (isTrace : trace = before ++ [⟨.fork, .ok (some child)⟩]) (notWaited : ¬ before.HasWaited) :
    ¬ trace.HasWaited := by
  rintro ⟨other, reportStops, answer, settles, member⟩
  rw [isTrace] at member
  rcases List.mem_append.mp member with isOld | isNew
  · exact notWaited ⟨other, reportStops, answer, settles, isOld⟩
  · cases List.mem_singleton.mp isNew

/-- What is known of the trace of a disciplined program. -/
structure Orderly (trace : Trace) : Prop where
  joinedBefore : ∀ birth ∈ trace.births, birth.2.AllJoined
  joinsChild : ∀ child group reply, ⟨.joinGroup child group, reply⟩ ∈ trace →
    child ∈ trace.children ∧ trace.leader = some group
  waitsForJoined : trace.HasWaited → trace.AllJoined

theorem Orderly.nil : Trace.Orderly [] where
  joinedBefore := nofun
  joinsChild := nofun
  waitsForJoined := by
    rintro ⟨_, _, _, _, member⟩
    cases member

theorem Orderly.snoc {trace : Trace} {exchange : Exchange} (orderly : trace.Orderly)
    (may : ParentObserves trace exchange.request) : Trace.Orderly (trace ++ [exchange]) where
  joinedBefore := by
    rw [births_snoc, List.forall_mem_append]
    refine ⟨orderly.joinedBefore, ?_⟩
    unfold birth
    split
    · rw [List.forall_mem_singleton]
      exact may.1
    · simp
  joinsChild := by
    intro child group reply member
    rcases List.mem_append.mp member with isOld | isNew
    · obtain ⟨isChild, isLeader⟩ := orderly.joinsChild child group reply isOld
      rw [children_append]
      exact ⟨List.mem_append_left _ isChild, leader_append isLeader _⟩
    · obtain rfl := List.mem_singleton.mp isNew
      obtain ⟨before, rfl, -, -, isLeader⟩ := may
      refine ⟨?_, leader_append isLeader _⟩
      rw [children_of_single rfl, children_fork]
      exact List.mem_append_right _ List.mem_cons_self
  waitsForJoined := by
    rintro ⟨child, reportStops, answer, settles, member⟩
    rcases List.mem_append.mp member with isOld | isNew
    · have waited : trace.HasWaited := ⟨child, reportStops, answer, settles, isOld⟩
      refine (orderly.waitsForJoined waited).snoc ?_
      by_contra forks
      obtain ⟨request, reply⟩ := exchange
      cases request <;> first | exact forks rfl | exact may.2 waited
    · obtain rfl := List.mem_singleton.mp isNew
      exact AllJoined.snoc may rfl

end Trace

end JobShell.Unix
