import JobShell.Proofs.System.Groups

/-!
# Who has the terminal

A program that owns the terminal gives it to the group of its children, and each child does
the same by itself. Once a child was waited for, that lies behind it, so a program that has
waited for every child and takes the terminal back keeps it. A child that nobody has waited
for may be late: it has still to give the terminal to its group, and nothing keeps it from
doing so when the program has taken the terminal back already.
-/

namespace JobShell.Unix

set_option autoImplicit false

def Exchange.refuses : Exchange → Bool
  | ⟨.giveTerminal _, .error _⟩ => true
  | _ => false

def Trace.NoneRefused (trace : Trace) : Prop :=
  ∀ exchange ∈ trace, exchange.refuses = false

instance (trace : Trace) : Decidable trace.NoneRefused :=
  inferInstanceAs (Decidable (∀ exchange ∈ trace, exchange.refuses = false))

variable {α : Type}

/-- A child that is still to give the terminal to its group. -/
def Member.IsLate (member : Member α) : Prop :=
  member.IsRunning ∧ ∃ before own, member.trace.IsForked before own ∧ ¬ own.HasGiven

/-- Every child has started another program or has ended. -/
def Session.IsSettled (session : Session α) : Prop :=
  ∀ child ∈ session.world.members.tail, ¬ child.IsRunning

structure Session.Watched (session : Session α) (group : Pid) (first : Member α)
    (children : List (Member α)) : Prop where
  waited : ∀ child ∈ children, first.trace.WaitedFor child.pid → ¬ child.IsLate
  childless : first.trace.children = [] → session.control.foreground = group
  reclaimed : first.trace.Reclaimed group → first.trace.NoneRefused →
    session.control.foreground = group

/-- The first process makes no more calls, the terminal is its own, and no child is late. -/
structure Session.AtHome (session : Session α) (group : Pid) (first : Member α)
    (children : List (Member α)) : Prop where
  noCall : ∀ request next, first.activity ≠ .running (.call request next)
  foreground : session.control.foreground = group
  noneLate : ∀ child ∈ children, ¬ child.IsLate

variable {whole : Program α} {start : Holdings} {capacity : Nat} {session later : Session α}
  {control : Control} {first next child called : Member α} {children others : List (Member α)}
  {group : Pid} {exchange : Exchange}

theorem Trace.WaitedFor.snoc_of {trace : Trace} {pid : Pid}
    (waited : Trace.WaitedFor (trace ++ [exchange]) pid) :
    trace.WaitedFor pid ∨ ∃ (reportStops : Bool) (answer : WaitAnswer), ¬ answer.LeavesOpen ∧
      exchange = ⟨.wait pid reportStops, answer⟩ := by
  obtain ⟨reportStops, answer, settles, member⟩ := waited
  rcases List.mem_append.mp member with isOld | isNew
  · exact .inl ⟨reportStops, answer, settles, isOld⟩
  · exact .inr ⟨reportStops, answer, settles, (List.mem_singleton.mp isNew).symm⟩

theorem Trace.Reclaimed.of_snoc {trace : Trace}
    (reclaimed : Trace.Reclaimed (trace ++ [exchange]) group) :
    ∃ reply, exchange = ⟨.giveTerminal group, reply⟩ := by
  obtain ⟨before, reply, same, -⟩ := reclaimed
  have lasts := congrArg List.getLast? same
  rw [List.getLast?_append, List.getLast?_append] at lasts
  exact ⟨reply, Option.some.inj lasts⟩

theorem Trace.Reclaimed.waited {trace : Trace} (reclaimed : trace.Reclaimed group) {pid : Pid}
    (isChild : pid ∈ trace.children) : trace.WaitedFor pid := by
  obtain ⟨before, reply, rfl, waited⟩ := reclaimed
  rw [Trace.children_of_single rfl] at isChild
  obtain ⟨reportStops, answer, settles, member⟩ := waited pid isChild
  exact ⟨reportStops, answer, settles, List.mem_append_left _ member⟩

theorem Session.foreground_of_other {caller : Member α}
    (other : ∀ target, exchange.request ≠ .giveTerminal target)
    (governed : session.Governs caller exchange control) :
    control.foreground = session.control.foreground := by
  obtain ⟨request, reply⟩ := exchange
  cases request with
  | ownPid => rw [governed.2]
  | fork =>
      rcases reply with errno | (_ | child)
      · rw [governed]
      · rw [governed]
      · rw [governed.2]
  | joinGroup subject target => cases reply <;> rw [governed.2]
  | giveTerminal target => exact absurd rfl (other target)
  | wait pid reportStops => rcases Session.control_of_wait governed with ⟨rfl, -⟩ | ⟨rfl, -⟩ <;> rfl
  | _ => rw [governed]

theorem Member.Ages.late {aged : Member α} (ages : child.Ages aged) (late : aged.IsLate) :
    child.IsLate := by
  obtain ⟨isRunning, before, own, forked, notGiven⟩ := late
  rw [ages.trace] at forked
  rcases ages.activity with same | ⟨-, stopped⟩
  · rw [Member.IsRunning, same] at isRunning
    exact ⟨isRunning, before, own, forked, notGiven⟩
  · exact absurd isRunning stopped

theorem Member.Calls.late (calls : child.Calls called exchange) {before own : Trace}
    (forked : child.trace.IsForked before own) (late : called.IsLate) : child.IsLate := by
  obtain ⟨-, earlier, other, again, notGiven⟩ := late
  have forkedLater := forked.snoc exchange
  rw [← calls.trace] at forkedLater
  obtain ⟨-, rfl⟩ := forkedLater.unique again
  obtain ⟨_, asks, -⟩ := calls.asks
  exact ⟨⟨_, asks⟩, before, own, forked, fun given => notGiven (given.snoc exchange)⟩

/-- A child that has taken its signals back has given the terminal to its group before. -/
theorem Sound.not_late_of_stopped (disciplined : whole.Disciplined true)
    (sound : Sound whole start session.world first children) (among : child ∈ children)
    (canBeStopped : child.CanBeStopped) : ¬ child.IsLate := by
  rintro ⟨⟨program, runs⟩, before, own, forked, notGiven⟩
  rcases canBeStopped with ⟨_, _, hasStarted⟩ | ⟨earlier, other, signals, reply, again, member⟩
  · rw [hasStarted] at runs
    cases runs
  · obtain ⟨rfl, rfl⟩ := forked.unique again
    obtain ⟨own, rest, rfl⟩ := List.append_of_mem member
    have isMember : child ∈ session.world.members := by
      rw [sound.members]
      exact List.mem_cons_of_mem _ among
    have follows := ((sound.traces child isMember).of_running runs).2.1
    rw [forked.split, ← List.cons_append, ← List.append_assoc] at follows
    obtain ⟨middle, upToThere, onwards⟩ := follows.cut
    cases onwards with
    | step =>
        have given := (disciplined _ _ _ upToThere).2 earlier own ⟨forked.isFirst, rfl⟩ rfl
        obtain ⟨target, answer, isOwn⟩ := given
        exact notGiven ⟨target, answer, List.mem_append_left _ isOwn⟩

theorem Sound.keeps_terminal (disciplined : whole.Disciplined true)
    (sound : Sound whole start session.world first children) (among : child ∈ children)
    (calls : child.Calls called exchange) (notLate : ¬ child.IsLate) (target : Pid) :
    exchange.request ≠ .giveTerminal target := by
  intro gives
  obtain ⟨before, own, forked, -⟩ := sound.is_forked among
  have may := sound.child_observes disciplined among calls forked
  rw [gives] at may
  obtain ⟨pid, reply, rfl, -⟩ := may
  obtain ⟨_, asks, -⟩ := calls.asks
  refine notLate ⟨⟨_, asks⟩, before, _, forked, ?_⟩
  rintro ⟨other, answer, member⟩
  simp at member

theorem Session.Watched.initial (start : Holdings) (pid group : Pid) (program : Program α) :
    (Session.initial start pid group program).Watched group
      ⟨pid, [], start.table, .running program⟩ [] where
  waited := nofun
  childless := fun _ => rfl
  reclaimed := fun _ _ => rfl

theorem Session.not_late_of_wait (disciplined : whole.Disciplined true)
    (sound : Sound whole start session.world first children)
    (grouped : session.Grouped group first children) (among : child ∈ children)
    {reportStops : Bool} {answer : WaitAnswer} (settles : ¬ answer.LeavesOpen)
    (governed : session.Governs first ⟨.wait child.pid reportStops, answer⟩ control) :
    ¬ child.IsLate := by
  have isMember : child ∈ session.world.members := by
    rw [sound.members]
    exact List.mem_cons_of_mem _ among
  have old := grouped.children child among
  rcases Session.control_of_wait governed with ⟨-, settled⟩ | ⟨-, -, ended⟩
  · rcases (settled old.isChild).resolve_left settles with isCollected | canBeStopped
    · exact fun late => old.ended isCollected late.1
    · exact sound.not_late_of_stopped disciplined among (canBeStopped child isMember rfl)
  · exact fun late => ended child isMember rfl late.1

theorem Session.Watched.first_calls (disciplined : whole.Disciplined true)
    (sound : Sound whole start session.world first children)
    (grouped : session.Grouped group first children)
    (watched : session.Watched group first children)
    (calls : first.Calls called exchange) (single : exchange.forks = false)
    (governed : session.Governs first exchange later.control) :
    later.Watched group called children := by
  refine ⟨fun child among waited => ?_, fun noChild => ?_, fun reclaimed noneRefused => ?_⟩
  · rw [calls.trace] at waited
    rcases waited.snoc_of with isOld | ⟨reportStops, answer, settles, rfl⟩
    · exact watched.waited child among isOld
    · exact Session.not_late_of_wait disciplined sound grouped among settles governed
  · rw [calls.trace, Trace.children_of_single single] at noChild
    rw [Session.foreground_of_other ?_ governed]
    · exact watched.childless noChild
    · intro target gives
      have may := sound.parent_observes disciplined calls
      rw [gives] at may
      exact may noChild
  · rw [calls.trace] at reclaimed noneRefused
    obtain ⟨reply, rfl⟩ := reclaimed.of_snoc
    cases reply with
    | error errno =>
        have accepted := noneRefused _ (List.mem_append_right _ List.mem_cons_self)
        cases accepted
    | ok => rw [governed]

theorem Session.Watched.forks (disciplined : whole.Disciplined true)
    (sound : Sound whole start session.world first children) {newborn : Member α} {pid : Pid}
    (calls : first.Calls called ⟨.fork, .ok (some pid)⟩) :
    later.Watched group called (children ++ [newborn]) := by
  refine ⟨fun child _ waited => ?_, fun noChild => ?_, fun reclaimed _ => ?_⟩
  · rw [calls.trace] at waited
    rcases waited.snoc_of with isOld | ⟨_, _, _, isWait⟩
    · exact absurd ⟨_, isOld⟩ (sound.parent_observes disciplined calls).2
    · cases isWait
  · rw [calls.trace, Trace.children_fork] at noChild
    simp at noChild
  · rw [calls.trace] at reclaimed
    obtain ⟨_, isGive⟩ := reclaimed.of_snoc
    cases isGive

theorem Session.Watched.child_calls (disciplined : whole.Disciplined true)
    (sound : Sound whole start session.world first children)
    (watched : session.Watched group first children) {between after : List (Member α)}
    (among : children = between ++ child :: after) (calls : child.Calls called exchange)
    (governed : session.Governs child exchange later.control) :
    later.Watched group first (between ++ called :: after) := by
  have isChild : child ∈ children := by simp [among]
  obtain ⟨before, own, forked, -⟩ := sound.is_forked isChild
  refine ⟨fun other isOther waited => ?_, fun noChild => ?_, fun reclaimed noneRefused => ?_⟩
  · rw [List.mem_append, List.mem_cons] at isOther
    rcases isOther with isBetween | rfl | isAfter
    · exact watched.waited other (by simp [among, isBetween]) waited
    · rw [calls.pid] at waited
      exact fun late => watched.waited child isChild waited (calls.late forked late)
    · exact watched.waited other (by simp [among, isAfter]) waited
  · exact absurd (noChild ▸ sound.pid_mem isChild) List.not_mem_nil
  · have notLate := watched.waited child isChild (reclaimed.waited (sound.pid_mem isChild))
    rw [Session.foreground_of_other
      (sound.keeps_terminal disciplined isChild calls notLate) governed]
    exact watched.reclaimed reclaimed noneRefused

theorem Session.Watched.other {aged : Member α} (watched : session.Watched group first children)
    (firstAges : first.Ages aged) (age : List.Forall₂ Member.Ages children others)
    (same : later.control = session.control) : later.Watched group aged others := by
  obtain ⟨waited, childless, reclaimed⟩ := watched
  rw [← firstAges.trace] at waited childless reclaimed
  rw [← same] at childless reclaimed
  refine ⟨fun other isOther wasWaited late => ?_, childless, reclaimed⟩
  obtain ⟨child, isOld, ages⟩ := Member.Ages.exists_of_mem age isOther
  rw [ages.pid] at wasWaited
  exact waited child isOld wasWaited (ages.late late)

theorem Session.Watched.change (disciplined : whole.Disciplined true)
    (sound : Sound whole start session.world first children)
    (grouped : session.Grouped group first children)
    (watched : session.Watched group first children)
    (change : Session.Change session later first children next others) :
    later.Watched group next others := by
  cases change with
  | first calls single governed =>
      exact watched.first_calls disciplined sound grouped calls single governed
  | fork calls pid trace fresh governed => exact .forks disciplined sound calls
  | child among calls single governed =>
      exact watched.child_calls disciplined sound among calls governed
  | other firstAges age same => exact watched.other firstAges age same

theorem Session.Watched.of_run (calm : whole.LeavesFirst start)
    (disciplined : whole.Disciplined true)
    {pid : Pid} (run : Session.Run capacity (.initial start pid group whole) session) :
    ∃ first children, Sound whole start session.world first children ∧
      session.Grouped group first children ∧ session.Watched group first children := by
  induction run with
  | refl =>
      exact ⟨_, _, .initial whole start pid, .initial start pid group whole,
        .initial start pid group whole⟩
  | tail _ step ih =>
      obtain ⟨first, children, sound, grouped, watched⟩ := ih
      obtain ⟨next, others, soundLater, change⟩ := step.change calm sound
      exact ⟨next, others, soundLater, grouped.change disciplined sound change,
        watched.change disciplined sound grouped change⟩

theorem Session.AtHome.change (disciplined : whole.Disciplined true)
    (sound : Sound whole start session.world first children)
    (atHome : session.AtHome group first children)
    (change : Session.Change session later first children next others) :
    later.AtHome group next others := by
  cases change with
  | first calls single governed =>
      obtain ⟨_, asks, -⟩ := calls.asks
      exact absurd asks (atHome.noCall _ _)
  | fork calls pid trace fresh governed =>
      obtain ⟨_, asks, -⟩ := calls.asks
      exact absurd asks (atHome.noCall _ _)
  | @child between after member called exchange among calls single governed =>
      have isChild : member ∈ children := by simp [among]
      have notLate := atHome.noneLate member isChild
      obtain ⟨before, own, forked, -⟩ := sound.is_forked isChild
      refine ⟨atHome.noCall, ?_, fun other isOther => ?_⟩
      · rw [Session.foreground_of_other
          (sound.keeps_terminal disciplined isChild calls notLate) governed]
        exact atHome.foreground
      · rw [List.mem_append, List.mem_cons] at isOther
        rcases isOther with isBetween | rfl | isAfter
        · exact atHome.noneLate other (by simp [among, isBetween])
        · exact fun late => notLate (calls.late forked late)
        · exact atHome.noneLate other (by simp [among, isAfter])
  | other firstAges age same =>
      refine ⟨fun request next asks => ?_, ?_, fun other isOther late => ?_⟩
      · rcases firstAges.activity with sameActivity | ⟨-, stopped⟩
        · exact atHome.noCall request next (sameActivity ▸ asks)
        · exact stopped ⟨_, asks⟩
      · rw [same]
        exact atHome.foreground
      · obtain ⟨child, isOld, ages⟩ := Member.Ages.exists_of_mem age isOther
        exact atHome.noneLate child isOld (ages.late late)

theorem Session.AtHome.run (calm : whole.LeavesFirst start) (disciplined : whole.Disciplined true)
    (sound : Sound whole start session.world first children)
    (atHome : session.AtHome group first children) (goesOn : Session.Run capacity session later) :
    ∃ next others, Sound whole start later.world next others ∧ later.AtHome group next others := by
  induction goesOn with
  | refl => exact ⟨first, children, sound, atHome⟩
  | tail _ step ih =>
      obtain ⟨middle, between, soundMiddle, still⟩ := ih
      obtain ⟨next, others, soundLater, change⟩ := step.change calm soundMiddle
      exact ⟨next, others, soundLater, still.change disciplined soundMiddle change⟩

inductive AsksLate (before : Trace) : Trace → Call → Prop where
  | ownPid : AsksLate before [] .ownPid
  | joinGroup {pid : Pid} :
      AsksLate before [⟨.ownPid, pid⟩] (.joinGroup 0 (before.leader.getD pid))
  | giveTerminal {pid : Pid} {reply : Except Errno Unit} :
      AsksLate before [⟨.ownPid, pid⟩, ⟨.joinGroup 0 (before.leader.getD pid), reply⟩]
        (.giveTerminal (before.leader.getD pid))

theorem Sound.asks_late (disciplined : whole.Disciplined true)
    (returnsFirst : ∀ trace value, whole.Returns trace value → trace.inChild = false)
    (sound : Sound whole start session.world first children) (among : child ∈ children)
    (isRunning : child.IsRunning) {before own : Trace} (forked : child.trace.IsForked before own)
    (notGiven : ¬ own.HasGiven) :
    ∃ request next, child.activity = .running (.call request next) ∧
      AsksLate before own request := by
  obtain ⟨program, runs⟩ := isRunning
  have isMember : child ∈ session.world.members := by
    rw [sound.members]
    exact List.mem_cons_of_mem _ among
  have follows := ((sound.traces child isMember).of_running runs).2.1
  cases program with
  | done value =>
      have inChild := sound.child_in_child among
      rw [returnsFirst _ _ follows] at inChild
      cases inChild
  | call request next =>
      refine ⟨request, next, runs, ?_⟩
      have may := (disciplined _ _ _ follows).2 before own forked
      cases request with
      | ownPid =>
          obtain rfl := (may rfl).resolve_right notGiven
          exact .ownPid
      | joinGroup subject target =>
          obtain ⟨rfl, pid, rfl, rfl⟩ := may
          exact .joinGroup
      | giveTerminal target =>
          obtain ⟨pid, reply, rfl, rfl⟩ := may
          exact .giveTerminal
      | execute arguments => exact absurd (may.2 rfl) notGiven
      | fork => exact may.elim
      | wait => exact may.elim
      | _ => exact absurd (may rfl) notGiven

theorem Session.exists_late_gives (calm : whole.LeavesFirst start)
    (disciplined : whole.Disciplined true)
    (returnsFirst : ∀ trace value, whole.Returns trace value → trace.inChild = false) {pid : Pid}
    {before own : Trace} {between after : List (Member α)}
    (run : Session.Run capacity (.initial start pid group whole) session)
    (members : session.world.members = first :: (between ++ child :: after))
    (isRunning : child.IsRunning) (forked : child.trace.IsForked before own)
    (notGiven : ¬ own.HasGiven) :
    ∃ later others leader, Session.Run capacity session later ∧
      later.world.members = first :: others ∧ first.trace.leader = some leader ∧
      later.control.foreground = leader := by
  -- The calls that the child has still to make become fewer.
  induction left : 3 - own.length using Nat.strongRecOn generalizing session child own with
  | ind size ih =>
    obtain ⟨first', children, sound, grouped⟩ := Session.Grouped.of_run calm disciplined run
    obtain ⟨rfl, rfl⟩ := List.cons.inj (sound.members.symm.trans members)
    have isChild : child ∈ between ++ child :: after := by simp
    obtain ⟨request, next, runs, asks⟩ :=
      sound.asks_late disciplined returnsFirst isChild isRunning forked notGiven
    have goesOn {exchange : Exchange} {table : DescriptorTable} {program : Program α}
        {next : Session α} (step : Session.Step capacity session next)
        (membersNext : next.world.members = first' :: (between ++
          ⟨child.pid, child.trace ++ [exchange], table, .running program⟩ :: after))
        (earlier : own.length < 3) (notGive : ¬ Trace.HasGiven (own ++ [exchange])) :
        ∃ later others leader, Session.Run capacity session later ∧
          later.world.members = first' :: others ∧ first'.trace.leader = some leader ∧
          later.control.foreground = leader := by
      obtain ⟨later, others, leader, runLater, rest⟩ := ih _ (by simp; omega) (run.tail step)
        membersNext ⟨_, rfl⟩ (forked.snoc exchange) notGive rfl
      exact ⟨later, others, leader, .head step runLater, rest⟩
    cases asks with
    | ownPid =>
        refine goesOn (.answer (first' :: between) .ownPid child.pid members runs rfl trivial rfl
          ⟨rfl, rfl⟩) rfl (by simp) ?_
        rintro ⟨_, _, member⟩
        simp at member
    | @joinGroup pid =>
        have notGive (reply : Except Errno Unit) :
            ¬ Trace.HasGiven
              ([⟨.ownPid, pid⟩] ++ [⟨.joinGroup 0 (before.leader.getD pid), reply⟩]) := by
          rintro ⟨_, _, member⟩
          simp at member
        by_cases joins : session.MayJoin child (Control.named child.pid 0)
            (Control.named (Control.named child.pid 0) (before.leader.getD pid))
        · exact goesOn (.answer (first' :: between) (.joinGroup 0 _) (.ok ()) members runs rfl
            trivial rfl ⟨joins, rfl⟩) rfl (by simp) (notGive _)
        · exact goesOn (.answer (first' :: between) (.joinGroup 0 _) (.error .notPermitted) members
            runs rfl trivial rfl ⟨joins, rfl⟩) rfl (by simp) (notGive _)
    | @giveTerminal pid reply =>
        have step : Session.Step capacity session _ :=
          .answer (first' :: between) (.giveTerminal _) (.ok ()) members runs rfl trivial rfl rfl
        refine ⟨_, _, _, .single step, rfl, ?_, rfl⟩
        obtain ⟨earlier, other, again, born⟩ := sound.is_forked isChild
        obtain ⟨rfl, rfl⟩ := forked.unique again
        rw [(grouped.children child isChild).knowsOwn earlier _ pid forked (by simp)]
        exact Trace.leader_of_birth born

theorem Session.exists_settled_behind {ready rest : List (Member α)}
    (members : session.world.members = first :: (ready ++ rest))
    (stopped : ∀ child ∈ ready, ¬ child.IsRunning) :
    ∃ later, Session.Run capacity session later ∧ later.control = session.control ∧
      later.IsSettled := by
  induction rest generalizing session ready with
  | nil =>
      refine ⟨session, .refl, rfl, ?_⟩
      rw [Session.IsSettled, members, List.append_nil]
      exact stopped
  | cons child rest ih =>
      have stoppedWith {other : Member α} (stops : ¬ other.IsRunning) :
          ∀ child ∈ ready ++ [other], ¬ child.IsRunning := by
        rw [List.forall_mem_append, List.forall_mem_singleton]
        exact ⟨stopped, stops⟩
      by_cases isRunning : child.IsRunning
      · obtain ⟨program, runs⟩ := isRunning
        obtain ⟨next, step, membersNext, sameControl⟩ : ∃ next, Session.Step capacity session next ∧
            next.world.members =
              first :: ((ready ++ [⟨child.pid, child.trace, [], .ended⟩]) ++ rest) ∧
            next.control = session.control := by
          refine ⟨_, .other (@Step.finish _ _ _ (first :: ready) rest child program members runs
            (.inl (List.cons_ne_nil _ _))) (by simp [members]), by simp, rfl⟩
        obtain ⟨later, run, same, settled⟩ := ih membersNext (stoppedWith (by
          rintro ⟨_, runs⟩
          cases runs))
        exact ⟨later, .head step run, same.trans sameControl, settled⟩
      · have membersAlike : session.world.members = first :: ((ready ++ [child]) ++ rest) := by
          rw [members, List.append_assoc, List.singleton_append]
        exact ih membersAlike (stoppedWith isRunning)

/-- Children can end at any time, and then no one gives the terminal to anyone. -/
theorem Session.exists_settled (capacity : Nat)
    (members : session.world.members = first :: children) :
    ∃ later, Session.Run capacity session later ∧ later.control = session.control ∧
      later.IsSettled := by
  have noneReady : ∀ child ∈ ([] : List (Member α)), ¬ child.IsRunning := nofun
  exact Session.exists_settled_behind members noneReady

end JobShell.Unix
