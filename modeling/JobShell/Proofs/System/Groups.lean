import JobShell.Proofs.System.Discipline

/-!
# One group for all children

The processes of a program that keeps the discipline of groups are in two groups: the one of
the program itself, and the one of its first child. Whatever the order of the steps is, there
is only this one group beside the program's own, and a child that has started another program
is in it.
-/

namespace JobShell.Unix

set_option autoImplicit false

variable {α : Type} {whole : Program α} {start : Holdings} {capacity : Nat} {owns : Bool}
  {session later : Session α} {control : Control} {first child : Member α}
  {children : List (Member α)} {group : Pid}

/-- A wait that settles anything collects a child that has ended, or it tells that one can be
stopped. -/
theorem Session.control_of_wait {caller : Member α} {pid : Pid} {reportStops : Bool}
    {answer : WaitAnswer}
    (governed : session.Governs caller ⟨.wait pid reportStops, answer⟩ control) :
    (control = session.control ∧ (session.control.parent pid = some caller.pid →
      answer.LeavesOpen ∨ pid ∈ session.control.collected ∨
        ∀ member ∈ session.world.members, member.pid = pid → member.CanBeStopped)) ∨
    control = { session.control with collected := pid :: session.control.collected } ∧
      ¬ answer.LeavesOpen ∧
      ∀ member ∈ session.world.members, member.pid = pid → ¬ member.IsRunning := by
  simp only [Session.Governs] at governed
  split at governed
  · cases answer with
    | exited code => exact .inr ⟨governed.2, (fun leavesOpen => by cases leavesOpen), governed.1⟩
    | killed number => exact .inr ⟨governed.2, (fun leavesOpen => by cases leavesOpen), governed.1⟩
    | stopped signal => exact .inl ⟨governed.2, fun _ => .inr (.inr governed.1)⟩
    | resumed => exact .inl ⟨governed, fun _ => .inl .resumed⟩
    | failed errno =>
        cases errno <;> first | exact .inl ⟨governed, fun _ => .inl .interrupted⟩ | cases governed
  · rename_i noChild
    refine .inl ⟨governed, fun isChild => .inr (.inl ?_)⟩
    by_contra waiting
    exact noChild ⟨isChild, waiting⟩

theorem Session.control_of_single {caller : Member α} {exchange : Exchange}
    (single : exchange.forks = false) (governed : session.Governs caller exchange control) :
    control.parent = session.control.parent ∧
      ((∀ subject group, exchange.request ≠ .joinGroup subject group) →
        control.group = session.control.group) ∧
      ((∀ child reportStops, exchange.request ≠ .wait child reportStops) →
        control.collected = session.control.collected) := by
  obtain ⟨request, reply⟩ := exchange
  cases request with
  | ownPid => obtain ⟨-, rfl⟩ := governed; exact ⟨rfl, fun _ => rfl, fun _ => rfl⟩
  | fork =>
      rcases reply with errno | (_ | child)
      · obtain rfl := governed; exact ⟨rfl, fun _ => rfl, fun _ => rfl⟩
      · cases single
      · cases single
  | joinGroup subject group =>
      cases reply with
      | error errno => obtain ⟨-, rfl⟩ := governed; exact ⟨rfl, fun _ => rfl, fun _ => rfl⟩
      | ok => obtain ⟨-, rfl⟩ := governed; exact ⟨rfl, fun no => absurd rfl (no _ _), fun _ => rfl⟩
  | giveTerminal group =>
      cases reply with
      | error errno => obtain rfl := governed; exact ⟨rfl, fun _ => rfl, fun _ => rfl⟩
      | ok => obtain rfl := governed; exact ⟨rfl, fun _ => rfl, fun _ => rfl⟩
  | wait pid reportStops =>
      rcases Session.control_of_wait governed with ⟨rfl, -⟩ | ⟨rfl, -⟩
      · exact ⟨rfl, fun _ => rfl, fun _ => rfl⟩
      · exact ⟨rfl, fun _ => rfl, fun no => absurd rfl (no _ _)⟩
  | _ => obtain rfl := governed; exact ⟨rfl, fun _ => rfl, fun _ => rfl⟩

def Member.WasJoined (trace : Trace) (child : Member α) : Prop :=
  (∃ before own, child.trace.IsForked before own ∧ own.HasJoined) ∨
    ∃ group reply, ⟨.joinGroup child.pid group, reply⟩ ∈ trace

/-- What holds of each child: it is where its parent left it or in the group of the first
child, and there as soon as it was put there. -/
structure Member.Grouped (child : Member α) (group : Pid) (control : Control)
    (parent : Member α) : Prop where
  isChild : control.parent child.pid = some parent.pid
  positive : 0 < child.pid
  knowsOwn : ∀ before own pid, child.trace.IsForked before own → ⟨.ownPid, pid⟩ ∈ own →
    pid = child.pid
  ended : child.pid ∈ control.collected → ¬ child.IsRunning
  inGroup : control.group child.pid = group ∨
    parent.trace.leader = some (control.group child.pid)
  joined : child.WasJoined parent.trace → parent.trace.leader = some (control.group child.pid)
  joins : ∀ subject target reply, ⟨.joinGroup subject target, reply⟩ ∈ child.trace →
    parent.trace.leader = some target

structure Session.Grouped (session : Session α) (group : Pid) (first : Member α)
    (children : List (Member α)) : Prop where
  orderly : first.trace.Orderly
  stays : session.control.group first.pid = group
  waited : ∀ pid ∈ session.control.collected, first.trace.HasWaited
  children : ∀ child ∈ children, child.Grouped group session.control first

theorem Session.Grouped.initial (start : Holdings) (pid group : Pid) (program : Program α) :
    (Session.initial start pid group program).Grouped group
      ⟨pid, [], start.table, .running program⟩ [] where
  orderly := .nil
  stays := rfl
  waited := nofun
  children := nofun

theorem Member.Ages.grouped {aged parent agedParent : Member α} (ages : child.Ages aged)
    (parentAges : parent.Ages agedParent) (grouped : child.Grouped group control parent) :
    aged.Grouped group control agedParent := by
  obtain ⟨isChild, positive, knowsOwn, ended, inGroup, joined, joins⟩ := grouped
  rw [← ages.pid, ← parentAges.pid] at isChild
  rw [← ages.pid] at positive knowsOwn ended inGroup joined
  rw [← ages.trace] at knowsOwn joins
  rw [← parentAges.trace] at inGroup joined joins
  refine ⟨isChild, positive, knowsOwn, fun isCollected isRunning => ?_, inGroup, fun was => ?_,
    joins⟩
  · rcases ages.activity with same | ⟨-, stopped⟩
    · rw [Member.IsRunning, same] at isRunning
      exact ended isCollected isRunning
    · exact stopped isRunning
  · refine joined ?_
    rwa [Member.WasJoined, ages.trace, ages.pid] at was

theorem Member.Ages.exists_of_mem {others : List (Member α)}
    (age : List.Forall₂ Member.Ages children others) {aged : Member α} (among : aged ∈ others) :
    ∃ child ∈ children, child.Ages aged := by
  induction age with
  | nil => cases among
  | cons ages _ ih =>
      rcases List.mem_cons.mp among with rfl | isLater
      · exact ⟨_, List.mem_cons_self, ages⟩
      · obtain ⟨child, isOld, ages⟩ := ih isLater
        exact ⟨child, List.mem_cons_of_mem _ isOld, ages⟩

theorem Session.Grouped.other {aged : Member α} {others : List (Member α)}
    (grouped : session.Grouped group first children) (firstAges : first.Ages aged)
    (age : List.Forall₂ Member.Ages children others) (same : later.control = session.control) :
    later.Grouped group aged others := by
  refine ⟨?_, ?_, ?_, ?_⟩
  · rw [firstAges.trace]
    exact grouped.orderly
  · rw [same, firstAges.pid]
    exact grouped.stays
  · rw [same, firstAges.trace]
    exact grouped.waited
  · intro other among
    obtain ⟨child, isOld, ages⟩ := Member.Ages.exists_of_mem age among
    rw [same]
    exact ages.grouped firstAges (grouped.children child isOld)

section

variable {next : Member α} {others : List (Member α)}

theorem Sound.pid_ne_first (sound : Sound whole start session.world first children)
    (among : child ∈ children) : child.pid ≠ first.pid := by
  have distinct := sound.distinct
  rw [sound.members, List.map_cons, List.nodup_cons] at distinct
  intro same
  exact distinct.1 (same ▸ List.mem_map_of_mem among)

theorem Sound.same_child (sound : Sound whole start session.world first children)
    {other : Member α} (among : child ∈ children) (otherAmong : other ∈ children)
    (same : child.pid = other.pid) : child = other := by
  have distinct := sound.distinct
  rw [sound.members, List.map_cons, List.nodup_cons] at distinct
  exact List.inj_on_of_nodup_map distinct.2 among otherAmong same

theorem Sound.pid_mem (sound : Sound whole start session.world first children)
    (among : child ∈ children) : child.pid ∈ first.trace.children := by
  rw [← sound.pids]
  exact List.mem_map_of_mem among

theorem Sound.child_of_pid (sound : Sound whole start session.world first children) {pid : Pid}
    (member : pid ∈ first.trace.children) : ∃ child ∈ children, child.pid = pid := by
  rw [← sound.pids] at member
  exact List.mem_map.mp member

theorem Sound.is_forked (sound : Sound whole start session.world first children)
    (among : child ∈ children) : ∃ before own, child.trace.IsForked before own ∧
      (child.pid, before) ∈ first.trace.births := by
  obtain ⟨before, own, split, born, -⟩ := sound.forked child among
  have isFirst := Trace.in_child_of_longer_not (Trace.longer_of_birth born) sound.isFirst
  exact ⟨before, own, ⟨isFirst, split⟩, born⟩

theorem Sound.parent_observes (disciplined : whole.Disciplined owns)
    (sound : Sound whole start session.world first children) {exchange : Exchange}
    (calls : first.Calls next exchange) :
    ParentObserves first.trace exchange.request := by
  obtain ⟨_, asks, -⟩ := calls.asks
  have among : first ∈ session.world.members := by
    rw [sound.members]
    exact List.mem_cons_self
  have follows := ((sound.traces first among).of_running asks).2.1
  exact (disciplined _ _ _ follows).1 sound.isFirst

theorem Sound.child_observes (disciplined : whole.Disciplined owns)
    (sound : Sound whole start session.world first children) {called : Member α}
    {exchange : Exchange} (among : child ∈ children) (calls : child.Calls called exchange)
    {before own : Trace} (forked : child.trace.IsForked before own) :
    ChildObserves owns before own exchange.request := by
  obtain ⟨_, asks, -⟩ := calls.asks
  have isMember : child ∈ session.world.members := by
    rw [sound.members]
    exact List.mem_cons_of_mem _ among
  have follows := ((sound.traces child isMember).of_running asks).2.1
  exact (disciplined _ _ _ follows).2 before own forked

theorem Member.Grouped.parent_calls {parent called : Member α} {exchange : Exchange}
    (grouped : child.Grouped group session.control parent) (calls : parent.Calls called exchange)
    (isLeader : ∃ pid, parent.trace.leader = some pid)
    (sameParent : control.parent child.pid = session.control.parent child.pid)
    (sameGroup : control.group child.pid = session.control.group child.pid)
    (collects : child.pid ∈ control.collected → ¬ child.IsRunning)
    (noJoin : ∀ group, exchange.request ≠ .joinGroup child.pid group) :
    child.Grouped group control called := by
  obtain ⟨pid, isLeader⟩ := isLeader
  have sameLeader : called.trace.leader = parent.trace.leader := by
    rw [isLeader, calls.trace]
    exact Trace.leader_append isLeader _
  refine ⟨?_, grouped.positive, grouped.knowsOwn, collects, ?_, ?_, ?_⟩
  · rw [sameParent, calls.pid]
    exact grouped.isChild
  · rw [sameGroup, sameLeader]
    exact grouped.inGroup
  · rw [sameGroup, sameLeader]
    refine fun was => grouped.joined ?_
    rcases was with byItself | ⟨other, reply, member⟩
    · exact .inl byItself
    · rw [calls.trace] at member
      rcases List.mem_append.mp member with isOld | isNew
      · exact .inr ⟨other, reply, isOld⟩
      · exact absurd (congrArg Exchange.request (List.mem_singleton.mp isNew)).symm (noJoin other)
  · rw [sameLeader]
    exact grouped.joins

theorem Session.Grouped.none_collected (grouped : session.Grouped group first children)
    (notWaited : ¬ first.trace.HasWaited) (pid : Pid) : pid ∉ session.control.collected :=
  fun isCollected => notWaited (grouped.waited pid isCollected)

/-- As long as nobody is collected, the first child keeps its group open for the others. -/
theorem Session.Grouped.has_member (sound : Sound whole start session.world first children)
    (grouped : session.Grouped group first children) (notWaited : ¬ first.trace.HasWaited)
    {before : Trace} (earlier : before <+: first.trace) (joined : before.AllJoined) {pid : Pid}
    (leads : before.leader = some pid) : session.HasMember pid := by
  obtain ⟨more, isTrace⟩ := earlier
  obtain ⟨target, reply, member⟩ := joined pid (Trace.leader_mem leads)
  have isLeader : first.trace.leader = some pid := by
    rw [← isTrace]
    exact Trace.leader_append leads more
  obtain ⟨child, among, rfl⟩ := sound.child_of_pid (Trace.leader_mem isLeader)
  have wasJoined : child.WasJoined first.trace := by
    refine .inr ⟨target, reply, ?_⟩
    rw [← isTrace]
    exact List.mem_append_left _ member
  refine ⟨child, ?_, grouped.none_collected notWaited _, ?_⟩
  · rw [sound.members]
    exact List.mem_cons_of_mem _ among
  · have inGroup := (grouped.children child among).joined wasJoined
    rw [isLeader] at inGroup
    exact (Option.some.inj inGroup).symm

theorem Sound.joined_of_started (disciplined : whole.Disciplined owns)
    (sound : Sound whole start session.world first children) (among : child ∈ children)
    (hasStarted : child.HasStarted) : child.WasJoined first.trace := by
  obtain ⟨before, own, forked, -⟩ := sound.is_forked among
  obtain ⟨arguments, received, runs⟩ := hasStarted
  have isMember : child ∈ session.world.members := by
    rw [sound.members]
    exact List.mem_cons_of_mem _ among
  obtain ⟨-, ⟨_, follows⟩, -⟩ := (sound.traces child isMember).of_started runs
  exact .inl ⟨before, own, forked, ((disciplined _ _ _ follows).2 before own forked).1⟩

theorem Control.named_of_pos {other number : Pid} (positive : 0 < number) :
    Control.named other number = number :=
  if_neg (Int.ne_of_gt positive)

theorem Session.Grouped.leader_positive (sound : Sound whole start session.world first children)
    (grouped : session.Grouped group first children) {pid : Pid}
    (isLeader : first.trace.leader = some pid) : 0 < pid := by
  obtain ⟨child, among, rfl⟩ := sound.child_of_pid (Trace.leader_mem isLeader)
  exact (grouped.children child among).positive

theorem Session.Grouped.parent_moves (sound : Sound whole start session.world first children)
    (grouped : session.Grouped group first children) (among : child ∈ children)
    {called : Member α} {target : Pid} {reply : Except Errno Unit}
    (calls : first.Calls called ⟨.joinGroup child.pid target, reply⟩)
    (may : ParentObserves first.trace (.joinGroup child.pid target))
    (isLeader : first.trace.leader = some target)
    (sameParent : later.control.parent = session.control.parent)
    (sameCollected : later.control.collected = session.control.collected)
    (isIn : later.control.group child.pid = target)
    (sameGroup : ∀ pid, pid ≠ child.pid → later.control.group pid = session.control.group pid) :
    later.Grouped group called children := by
  have leaderLater : called.trace.leader = some target := by
    rw [calls.trace]
    exact Trace.leader_append isLeader _
  refine ⟨?_, ?_, fun pid isCollected => ?_, fun other isOther => ?_⟩
  · rw [calls.trace]
    exact grouped.orderly.snoc may
  · rw [calls.pid, sameGroup _ (sound.pid_ne_first among).symm]
    exact grouped.stays
  · rw [sameCollected] at isCollected
    rw [calls.trace]
    exact (grouped.waited pid isCollected).snoc _
  · have old := grouped.children other isOther
    by_cases same : other = child
    · subst same
      refine ⟨?_, old.positive, old.knowsOwn, ?_, .inr ?_, fun _ => ?_,
        fun subject given answer member => ?_⟩
      · rw [sameParent, calls.pid]
        exact old.isChild
      · rw [sameCollected]
        exact old.ended
      · rw [isIn, leaderLater]
      · rw [isIn, leaderLater]
      · rw [leaderLater, ← isLeader]
        exact old.joins subject given answer member
    · have different : other.pid ≠ child.pid :=
        fun samePid => same (sound.same_child isOther among samePid)
      refine old.parent_calls calls ⟨target, isLeader⟩ (by rw [sameParent])
        (sameGroup _ different) (by rw [sameCollected]; exact old.ended) fun given asked => ?_
      exact different (Call.joinGroup.inj asked).1.symm

/-- A parent that may put a child into the group is refused only when the child was put there
before. -/
theorem Session.Grouped.joined_of_refused (disciplined : whole.Disciplined owns)
    (sound : Sound whole start session.world first children)
    (grouped : session.Grouped group first children) (among : child ∈ children) {target : Pid}
    (may : ParentObserves first.trace (.joinGroup child.pid target))
    (refused : ¬ session.MayJoin first child.pid target) : child.WasJoined first.trace := by
  obtain ⟨before, isTrace, allJoined, notWaited, isLeader⟩ := may
  have notWaitedYet := Trace.not_waited_behind_fork isTrace notWaited
  have isOpen : target = child.pid ∨ session.HasMember target := by
    cases leads : before.leader with
    | none =>
        have own := isLeader
        rw [isTrace, Trace.leader, Trace.children_fork, List.head?_append] at own
        rw [Trace.leader] at leads
        rw [leads] at own
        exact .inl (Option.some.inj own).symm
    | some pid =>
        have same := Trace.leader_append leads [⟨.fork, .ok (some child.pid)⟩]
        rw [← isTrace, isLeader] at same
        cases same
        refine .inr (grouped.has_member sound notWaitedYet ?_ allJoined leads)
        rw [isTrace]
        exact List.prefix_append _ _
  -- A parent is refused only for a started program, and that has joined by itself.
  by_contra notJoined
  refine refused ⟨grouped.none_collected notWaitedYet _,
    .inr ⟨(grouped.children child among).isChild, ?_⟩, isOpen⟩
  intro member isMember samePid hasStarted
  rw [sound.members] at isMember
  rcases List.mem_cons.mp isMember with rfl | isMember
  · exact sound.pid_ne_first among samePid.symm
  · obtain rfl := sound.same_child isMember among samePid
    exact notJoined (sound.joined_of_started disciplined among hasStarted)

theorem Session.Grouped.parent_joins (disciplined : whole.Disciplined owns)
    (sound : Sound whole start session.world first children)
    (grouped : session.Grouped group first children) {called : Member α} {subject target : Pid}
    {reply : Except Errno Unit} (calls : first.Calls called ⟨.joinGroup subject target, reply⟩)
    (governed : session.Governs first ⟨.joinGroup subject target, reply⟩ later.control) :
    later.Grouped group called children := by
  have may := sound.parent_observes disciplined calls
  obtain ⟨before, isTrace, -, -, isLeader⟩ := id may
  have isChild : subject ∈ first.trace.children := by
    rw [isTrace, Trace.children_fork]
    exact List.mem_append_right _ List.mem_cons_self
  obtain ⟨child, among, rfl⟩ := sound.child_of_pid isChild
  have isSubject : Control.named first.pid child.pid = child.pid :=
    Control.named_of_pos (grouped.children child among).positive
  have isTarget : Control.named child.pid target = target :=
    Control.named_of_pos (grouped.leader_positive sound isLeader)
  cases reply with
  | ok =>
      simp only [Session.Governs, isSubject, isTarget] at governed
      refine grouped.parent_moves sound among calls may isLeader (by rw [governed.2])
        (by rw [governed.2]) ?_ fun pid different => ?_
      · rw [governed.2]
        exact Function.update_self ..
      · rw [governed.2]
        exact Function.update_of_ne different ..
  | error errno =>
      simp only [Session.Governs, isSubject, isTarget] at governed
      have wasJoined := grouped.joined_of_refused disciplined sound among may governed.1
      have isIn := (grouped.children child among).joined wasJoined
      rw [isLeader] at isIn
      refine grouped.parent_moves sound among calls may isLeader (by rw [governed.2])
        (by rw [governed.2]) ?_ fun pid _ => by rw [governed.2]
      rw [governed.2]
      exact (Option.some.inj isIn).symm

theorem Session.Grouped.collects (sound : Sound whole start session.world first children)
    (grouped : session.Grouped group first children) {called : Member α} {exchange : Exchange}
    (calls : first.Calls called exchange) (single : exchange.forks = false)
    (governed : session.Governs first exchange control) {pid : Pid}
    (isCollected : pid ∈ control.collected) :
    called.trace.HasWaited ∧ ∀ child ∈ children, child.pid = pid → ¬ child.IsRunning := by
  have before (isOld : pid ∈ session.control.collected) : called.trace.HasWaited ∧
      ∀ child ∈ children, child.pid = pid → ¬ child.IsRunning := by
    rw [calls.trace]
    refine ⟨(grouped.waited pid isOld).snoc exchange, ?_⟩
    rintro child among rfl
    exact (grouped.children child among).ended isOld
  obtain ⟨-, -, sameCollected⟩ := Session.control_of_single single governed
  by_cases isWait : ∃ target reportStops, exchange.request = .wait target reportStops
  · obtain ⟨request, reply⟩ := exchange
    obtain ⟨target, reportStops, rfl⟩ := isWait
    rcases Session.control_of_wait governed with ⟨rfl, -⟩ | ⟨rfl, settles, ended⟩
    · exact before isCollected
    · rcases List.mem_cons.mp isCollected with rfl | isOld
      · refine ⟨⟨pid, reportStops, reply, settles, ?_⟩, fun child among => ended child ?_⟩
        · rw [calls.trace]
          exact List.mem_append_right _ List.mem_cons_self
        · rw [sound.members]
          exact List.mem_cons_of_mem _ among
      · exact before isOld
  · rw [sameCollected fun target reportStops same => isWait ⟨target, reportStops, same⟩]
      at isCollected
    exact before isCollected

theorem Session.Grouped.parent_calls (disciplined : whole.Disciplined owns)
    (sound : Sound whole start session.world first children)
    (grouped : session.Grouped group first children) {called : Member α} {exchange : Exchange}
    (calls : first.Calls called exchange) (single : exchange.forks = false)
    (governed : session.Governs first exchange later.control) :
    later.Grouped group called children := by
  by_cases isJoin : ∃ subject target, exchange.request = .joinGroup subject target
  · obtain ⟨request, reply⟩ := exchange
    obtain ⟨subject, target, rfl⟩ := isJoin
    exact grouped.parent_joins disciplined sound calls governed
  have noJoin : ∀ subject target, exchange.request ≠ .joinGroup subject target :=
    fun subject target same => isJoin ⟨subject, target, same⟩
  have may := sound.parent_observes disciplined calls
  obtain ⟨sameParent, sameGroup, -⟩ := Session.control_of_single single governed
  refine ⟨?_, ?_, fun pid isCollected => ?_, fun child among => ?_⟩
  · rw [calls.trace]
    exact grouped.orderly.snoc may
  · rw [sameGroup noJoin, calls.pid]
    exact grouped.stays
  · exact (grouped.collects sound calls single governed isCollected).1
  · refine (grouped.children child among).parent_calls calls
      (Trace.leader_of_child (sound.pid_mem among)) (by rw [sameParent])
        (by rw [sameGroup noJoin]) ?_
      fun target => noJoin _ target
    exact fun isCollected =>
      (grouped.collects sound calls single governed isCollected).2 child among rfl

theorem Session.Grouped.forks (disciplined : whole.Disciplined owns)
    (sound : Sound whole start session.world first children)
    (grouped : session.Grouped group first children) {called newborn : Member α} {pid : Pid}
    (calls : first.Calls called ⟨.fork, .ok (some pid)⟩) (isPid : newborn.pid = pid)
    (isTrace : newborn.trace = first.trace ++ [⟨.fork, .ok none⟩])
    (fresh : ∀ other ∈ first :: children, other.pid ≠ pid)
    (governed : session.Governs first ⟨.fork, .ok (some pid)⟩ later.control) :
    later.Grouped group called (children ++ [newborn]) := by
  have may := sound.parent_observes disciplined calls
  obtain ⟨positive, changed⟩ := governed
  rw [List.forall_mem_cons] at fresh
  refine ⟨?_, ?_, ?_, ?_⟩
  · rw [calls.trace]
    exact grouped.orderly.snoc may
  · rw [changed, calls.pid]
    exact (Function.update_of_ne fresh.1 ..).trans grouped.stays
  · rw [changed]
    exact fun other isCollected => absurd isCollected (grouped.none_collected may.2 other)
  · rw [List.forall_mem_append, List.forall_mem_singleton]
    refine ⟨fun child among => ?_, ?_⟩
    · have different := fresh.2 child among
      refine (grouped.children child among).parent_calls calls
        (Trace.leader_of_child (sound.pid_mem among)) ?_ ?_ ?_ nofun
      · rw [changed]
        exact Function.update_of_ne different ..
      · rw [changed]
        exact Function.update_of_ne different ..
      · rw [changed]
        exact (grouped.children child among).ended
    · have forked : newborn.trace.IsForked first.trace [] := ⟨sound.isFirst, isTrace⟩
      rw [← isPid] at positive
      refine ⟨?_, positive, ?_, ?_, .inl ?_, ?_, ?_⟩
      · rw [changed, isPid, calls.pid]
        exact Function.update_self ..
      · intro before own other again member
        obtain ⟨-, rfl⟩ := forked.unique again
        cases member
      · rw [changed]
        exact fun isCollected => absurd isCollected (grouped.none_collected may.2 _)
      · rw [changed, isPid]
        exact (Function.update_self ..).trans grouped.stays
      · rintro (⟨before, own, again, _, _, member⟩ | ⟨target, reply, member⟩)
        · obtain ⟨-, rfl⟩ := forked.unique again
          cases member
        · rw [calls.trace] at member
          rcases List.mem_append.mp member with isOld | isNew
          · obtain ⟨child, among, samePid⟩ :=
              sound.child_of_pid (grouped.orderly.joinsChild _ _ _ isOld).1
            exact absurd (samePid.trans isPid) (fresh.2 child among)
          · cases List.mem_singleton.mp isNew
      · intro subject target reply member
        rw [isTrace] at member
        rcases List.mem_append.mp member with isOld | isNew
        · rw [calls.trace]
          exact Trace.leader_append (grouped.orderly.joinsChild _ _ _ isOld).2 _
        · cases List.mem_singleton.mp isNew

theorem Member.Grouped.calls {parent called : Member α} {exchange : Exchange} {before own : Trace}
    (grouped : child.Grouped group session.control parent) (calls : child.Calls called exchange)
    (forked : child.trace.IsForked before own)
    (sameParent : control.parent = session.control.parent)
    (sameCollected : control.collected = session.control.collected)
    (tellsOwn : ∀ pid, exchange = ⟨.ownPid, pid⟩ → pid = child.pid)
    (isIn : control.group child.pid = session.control.group child.pid ∧
        (∀ subject target, exchange.request ≠ .joinGroup subject target) ∨
      parent.trace.leader = some (control.group child.pid) ∧
        ∀ subject target, exchange.request = .joinGroup subject target →
          parent.trace.leader = some target) :
    called.Grouped group control parent := by
  have forkedLater := forked.snoc exchange
  rw [← calls.trace] at forkedLater
  refine ⟨?_, ?_, ?_, ?_, ?_, ?_, ?_⟩
  · rw [calls.pid, sameParent]
    exact grouped.isChild
  · rw [calls.pid]
    exact grouped.positive
  · intro earlier other pid again member
    obtain ⟨-, rfl⟩ := forkedLater.unique again
    rw [calls.pid]
    rcases List.mem_append.mp member with isOld | isNew
    · exact grouped.knowsOwn before own pid forked isOld
    · exact tellsOwn pid (List.mem_singleton.mp isNew).symm
  · rw [calls.pid, sameCollected]
    intro isCollected
    obtain ⟨_, asks, -⟩ := calls.asks
    exact absurd ⟨_, asks⟩ (grouped.ended isCollected)
  · rw [calls.pid]
    rcases isIn with ⟨sameGroup, -⟩ | ⟨isLeader, -⟩
    · rw [sameGroup]
      exact grouped.inGroup
    · exact .inr isLeader
  · rw [calls.pid]
    rcases isIn with ⟨sameGroup, noJoin⟩ | ⟨isLeader, -⟩
    · rw [sameGroup]
      refine fun was => grouped.joined ?_
      rcases was with ⟨earlier, other, again, target, reply, member⟩ | byParent
      · obtain ⟨-, rfl⟩ := forkedLater.unique again
        rcases List.mem_append.mp member with isOld | isNew
        · exact .inl ⟨before, own, forked, target, reply, isOld⟩
        · exact absurd (congrArg Exchange.request (List.mem_singleton.mp isNew)).symm
            (noJoin 0 target)
      · rw [calls.pid] at byParent
        exact .inr byParent
    · exact fun _ => isLeader
  · intro subject target reply member
    rw [calls.trace] at member
    rcases List.mem_append.mp member with isOld | isNew
    · exact grouped.joins subject target reply isOld
    · have asked := (congrArg Exchange.request (List.mem_singleton.mp isNew)).symm
      rcases isIn with ⟨-, noJoin⟩ | ⟨-, joins⟩
      · exact absurd asked (noJoin subject target)
      · exact joins subject target asked

theorem Member.Grouped.unchanged {parent : Member α}
    (grouped : child.Grouped group session.control parent)
    (sameParent : control.parent = session.control.parent)
    (sameCollected : control.collected = session.control.collected)
    (sameGroup : control.group child.pid = session.control.group child.pid) :
    child.Grouped group control parent := by
  refine ⟨?_, grouped.positive, grouped.knowsOwn, ?_, ?_, ?_, grouped.joins⟩
  · rw [sameParent]
    exact grouped.isChild
  · rw [sameCollected]
    exact grouped.ended
  · rw [sameGroup]
    exact grouped.inGroup
  · rw [sameGroup]
    exact grouped.joined

theorem Session.Grouped.child_joins (disciplined : whole.Disciplined owns)
    (sound : Sound whole start session.world first children)
    (grouped : session.Grouped group first children) (among : child ∈ children)
    {called : Member α} {subject target : Pid} {reply : Except Errno Unit}
    (calls : child.Calls called ⟨.joinGroup subject target, reply⟩)
    (governed : session.Governs child ⟨.joinGroup subject target, reply⟩ control) :
    first.trace.leader = some target ∧
      control = { session.control with
        group := Function.update session.control.group child.pid target } := by
  obtain ⟨before, own, forked, born⟩ := sound.is_forked among
  obtain ⟨rfl, pid, isOwn, isTarget⟩ := sound.child_observes disciplined among calls forked
  have old := grouped.children child among
  have samePid : pid = child.pid := old.knowsOwn before own pid forked (by simp [isOwn])
  have isLeader : first.trace.leader = some target := by
    rw [isTarget, samePid]
    exact Trace.leader_of_birth born
  have isSelf : Control.named child.pid 0 = child.pid := rfl
  have isGroup : Control.named child.pid target = target :=
    Control.named_of_pos (grouped.leader_positive sound isLeader)
  obtain ⟨_, asks, -⟩ := calls.asks
  have waiting : child.pid ∉ session.control.collected :=
    fun isCollected => old.ended isCollected ⟨_, asks⟩
  have isOpen : target = child.pid ∨ session.HasMember target := by
    by_cases waited : first.trace.HasWaited
    · -- The parent waits only when it has put every child into the group.
      obtain ⟨joinedTo, joinReply, joined⟩ :=
        grouped.orderly.waitsForJoined waited child.pid (sound.pid_mem among)
      have inGroup := old.joined (.inr ⟨joinedTo, joinReply, joined⟩)
      rw [isLeader] at inGroup
      refine .inr ⟨child, ?_, waiting, (Option.some.inj inGroup).symm⟩
      rw [sound.members]
      exact List.mem_cons_of_mem _ among
    · cases leads : before.leader with
      | none =>
          rw [leads] at isTarget
          exact .inl (isTarget.trans samePid)
      | some leader =>
          rw [leads] at isTarget
          rw [isTarget]
          exact .inr (grouped.has_member sound waited (Trace.longer_of_birth born)
            (grouped.orderly.joinedBefore _ born) leads)
  cases reply with
  | ok =>
      simp only [Session.Governs, isSelf, isGroup] at governed
      exact ⟨isLeader, governed.2⟩
  | error errno =>
      simp only [Session.Governs, isSelf, isGroup] at governed
      exact absurd ⟨waiting, .inl rfl, isOpen⟩ governed.1

theorem Session.Grouped.child_calls (disciplined : whole.Disciplined owns)
    (sound : Sound whole start session.world first children)
    (grouped : session.Grouped group first children) {between after : List (Member α)}
    {called : Member α} {exchange : Exchange} (among : children = between ++ child :: after)
    (calls : child.Calls called exchange) (single : exchange.forks = false)
    (governed : session.Governs child exchange later.control) :
    later.Grouped group first (between ++ called :: after) := by
  have isChild : child ∈ children := by simp [among]
  have old := grouped.children child isChild
  obtain ⟨before, own, forked, -⟩ := sound.is_forked isChild
  have may := sound.child_observes disciplined isChild calls forked
  obtain ⟨sameParent, sameGroup, sameCollected⟩ := Session.control_of_single single governed
  have noWait : ∀ pid reportStops, exchange.request ≠ .wait pid reportStops := by
    intro pid reportStops same
    rw [same] at may
    exact may
  have changed : (∀ pid, pid ≠ child.pid → later.control.group pid = session.control.group pid) ∧
      called.Grouped group later.control first := by
    have tellsOwn : ∀ pid, exchange = ⟨.ownPid, pid⟩ → pid = child.pid := by
      rintro pid rfl
      exact governed.1
    have goesOn := old.calls calls forked sameParent
      (sameCollected noWait) tellsOwn
    -- Only a join can change a group, and the group that a child joins is the one that its
    -- parent puts it in.
    by_cases isJoin : ∃ subject target, exchange.request = .joinGroup subject target
    · obtain ⟨request, reply⟩ := exchange
      obtain ⟨subject, target, rfl⟩ := isJoin
      obtain ⟨isLeader, same⟩ := grouped.child_joins disciplined sound isChild calls governed
      have isIn : later.control.group child.pid = target := by
        rw [same]
        exact Function.update_self ..
      refine ⟨fun pid different => ?_, goesOn (.inr ⟨by rw [isIn, isLeader], ?_⟩)⟩
      · rw [same]
        exact Function.update_of_ne different ..
      · rintro _ _ ⟨⟩
        exact isLeader
    · have noJoin : ∀ subject target, exchange.request ≠ .joinGroup subject target :=
        fun subject target same => isJoin ⟨subject, target, same⟩
      exact ⟨fun pid _ => by rw [sameGroup noJoin],
        goesOn (.inl ⟨by rw [sameGroup noJoin], noJoin⟩)⟩
  have distinct : ∀ other ∈ between ++ after, other.pid ≠ child.pid := by
    have all := sound.distinct
    rw [sound.members, List.map_cons, List.nodup_cons, among, List.map_append, List.map_cons,
      List.nodup_middle, ← List.map_append, List.nodup_cons] at all
    intro other isOther samePid
    exact all.2.1 (samePid ▸ List.mem_map_of_mem isOther)
  refine ⟨grouped.orderly, ?_, ?_, ?_⟩
  · rw [changed.1 _ (sound.pid_ne_first isChild).symm]
    exact grouped.stays
  · rw [sameCollected noWait]
    exact grouped.waited
  · intro other isOther
    rw [List.mem_append, List.mem_cons, ← or_assoc, or_right_comm, ← List.mem_append] at isOther
    rcases isOther with isOld | rfl
    · have isMember : other ∈ children := by
        rw [among, List.mem_append, List.mem_cons]
        rcases List.mem_append.mp isOld with isBetween | isAfter
        · exact .inl isBetween
        · exact .inr (.inr isAfter)
      exact (grouped.children other isMember).unchanged sameParent (sameCollected noWait)
        (changed.1 _ (distinct other isOld))
    · exact changed.2

theorem Session.Grouped.change (disciplined : whole.Disciplined owns)
    (sound : Sound whole start session.world first children)
    (grouped : session.Grouped group first children)
    (change : Session.Change session later first children next others) :
    later.Grouped group next others := by
  cases change with
  | first calls single governed =>
      exact grouped.parent_calls disciplined sound calls single governed
  | fork calls pid trace fresh governed =>
      exact grouped.forks disciplined sound calls pid trace fresh governed
  | child among calls single governed =>
      exact grouped.child_calls disciplined sound among calls single governed
  | other firstAges age same => exact grouped.other firstAges age same

theorem Session.Grouped.of_run (calm : whole.LeavesFirst start)
    (disciplined : whole.Disciplined owns)
    {pid : Pid} (run : Session.Run capacity (.initial start pid group whole) session) :
    ∃ first children, Sound whole start session.world first children ∧
      session.Grouped group first children := by
  induction run with
  | refl => exact ⟨_, _, .initial whole start pid, .initial start pid group whole⟩
  | tail _ step ih =>
      obtain ⟨first, children, sound, grouped⟩ := ih
      obtain ⟨next, others, soundLater, change⟩ := step.change calm sound
      exact ⟨next, others, soundLater, grouped.change disciplined sound change⟩

end

end JobShell.Unix
