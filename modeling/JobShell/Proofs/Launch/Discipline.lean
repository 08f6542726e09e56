import JobShell.Proofs.Program.Contract
import JobShell.Proofs.System.Groups
import JobShell.Proofs.Launch.Failure
import JobShell.Proofs.Launch.Settle

/-!
# The discipline of a launch

A job keeps the discipline of groups. The group of the job is the first child that was
forked so far, which is also what the job calls it, and the job ends with all children
waited for and the terminal taken back, unless its launch has failed.
-/

namespace JobShell

open Unix

set_option autoImplicit false

def Unix.Call.concernsChildren : Call → Bool
  | .fork | .joinGroup _ _ | .wait _ _ | .giveTerminal _ => true
  | _ => false

def discipline (owns : Bool) : Contract where
  allows := fun _ _ => True
  demands := fun trace _ request _ =>
    (trace.inChild = false → ParentObserves trace request) ∧
      ∀ before own, trace.IsForked before own → ChildObserves owns before own request
  demands_bind := fun _ permitted => permitted

theorem discipline_admits (owns : Bool) (before trace : Trace) :
    (discipline owns).Admits before trace := by
  induction trace generalizing before with
  | nil => exact trivial
  | cons exchange trace ih => exact ⟨trivial, ih _⟩

theorem disciplined_of_meets {α : Type} {owns : Bool} {program : Program α}
    {goal : Trace → α → Prop} (meets : program.Meets (discipline owns) goal []) :
    program.Disciplined owns := fun trace _ _ follows =>
  (meets.along follows (discipline_admits owns [] trace)).1

theorem goal_of_meets {α : Type} {owns : Bool} {program : Program α} {goal : Trace → α → Prop}
    (meets : program.Meets (discipline owns) goal []) {trace : Trace} {value : α}
    (returns : program.Returns trace value) : goal trace value :=
  meets.along returns (discipline_admits owns [] trace)

/-- A launch under way: all children are in the group, and none was waited for. -/
structure Launching (trace : Trace) (children : List Pid) : Prop where
  isFirst : trace.inChild = false
  allJoined : trace.AllJoined
  notWaited : ¬ trace.HasWaited
  children : trace.children = children

/-- A child that may start a program: it is in the group and has passed on the terminal. -/
structure Prepared (owns : Bool) (trace : Trace) : Prop where
  inGroup : ∃ before own, trace.IsForked before own ∧ own.HasJoined ∧
    (owns = true → own.HasGiven)

section

variable {α : Type} {owns : Bool} {trace : Trace} {children : List Pid}

theorem permits_parent {request : Call} {next : request.Reply → Program α}
    (isFirst : trace.inChild = false) (may : ParentObserves trace request) :
    (discipline owns).demands trace request next := by
  refine ⟨fun _ => may, fun before own forked => ?_⟩
  rw [forked.split, Trace.in_child_behind_fork] at isFirst
  cases isFirst

theorem permits_child {before own : Trace} {request : Call} {next : request.Reply → Program α}
    (forked : trace.IsForked before own) (may : ChildObserves owns before own request) :
    (discipline owns).demands trace request next := by
  refine ⟨fun isFirst => ?_, fun other rest again => ?_⟩
  · rw [forked.split, Trace.in_child_behind_fork] at isFirst
    cases isFirst
  · obtain ⟨rfl, rfl⟩ := forked.unique again
    exact may

theorem single_of_calm {exchange : Exchange} (calm : exchange.request.concernsChildren = false) :
    exchange.forks = false := by
  obtain ⟨request, reply⟩ := exchange
  cases request <;> first | rfl | cases calm

theorem parent_observes_of_calm {request : Call} (calm : request.concernsChildren = false) :
    ParentObserves trace request := by
  cases request <;> first | exact trivial | cases calm

theorem Launching.snoc {exchange : Exchange} (launching : Launching trace children)
    (single : exchange.forks = false)
    (noWait : ∀ child reportStops, exchange.request ≠ .wait child reportStops) :
    Launching (trace ++ [exchange]) children := by
  refine ⟨?_, launching.allJoined.snoc single, ?_, ?_⟩
  · rw [Trace.in_child_of_not_forks (by simpa using single), launching.isFirst]
  · rintro ⟨child, reportStops, answer, settles, member⟩
    rcases List.mem_append.mp member with isOld | isNew
    · exact launching.notWaited ⟨child, reportStops, answer, settles, isOld⟩
    · exact noWait child reportStops (congrArg Exchange.request (List.mem_singleton.mp isNew)).symm
  · rw [Trace.children_of_single single, launching.children]

theorem Launching.calm {exchange : Exchange} (launching : Launching trace children)
    (calm : exchange.request.concernsChildren = false) :
    Launching (trace ++ [exchange]) children := by
  refine launching.snoc (single_of_calm calm) fun child reportStops same => ?_
  rw [same] at calm
  cases calm

theorem Launching.meets_calm (launching : Launching trace children) {program : Program α}
    (only : program.OnlyCalls fun call => !call.concernsChildren) :
    program.Meets (discipline owns) (fun later _ => Launching later children) trace := by
  refine Program.meets_mono ?_
    (Program.meets_own_trace (discipline owns)
      (fun later => Launching later children) only launching
      ?_ ?_)
  · rintro later value ⟨own, rfl, -, still⟩
    exact still
  · intro own call next still calm _
    exact permits_parent still.isFirst (parent_observes_of_calm (by simpa using calm))
  · intro own exchange still calm
    exact still.calm (by simpa using calm)

theorem Prepared.snoc (prepared : Prepared owns trace) (exchange : Exchange) :
    Prepared owns (trace ++ [exchange]) := by
  obtain ⟨before, own, forked, ⟨group, reply, joined⟩, given⟩ := prepared.inGroup
  refine ⟨before, own ++ [exchange], forked.snoc exchange,
    ⟨group, reply, List.mem_append_left _ joined⟩, fun owned => ?_⟩
  obtain ⟨target, answer, member⟩ := given owned
  exact ⟨target, answer, List.mem_append_left _ member⟩

theorem Prepared.meets_calm (prepared : Prepared owns trace) {program : Program α}
    (only : program.OnlyCalls fun call => !call.concernsChildren) (goal : Trace → α → Prop)
    (never : ∀ own value, ¬ program.Returns own value) :
    program.Meets (discipline owns) goal trace := by
  refine Program.meets_mono ?_
    (Program.meets_own_trace (discipline owns)
      (fun later => Prepared owns later) only prepared ?_ ?_)
  · rintro later value ⟨own, -, returns, -⟩
    exact absurd returns (never own value)
  · intro own call next still calm _
    obtain ⟨before, rest, forked, joined, given⟩ := still.inGroup
    refine permits_child forked ?_
    cases call <;> first
      | exact given
      | exact ⟨joined, given⟩
      | exact fun owned => .inr (given owned)
      | cases calm
  · intro own exchange still _
    exact still.snoc exchange

abbrev Unix.Call.isCalm (call : Call) : Bool :=
  !call.concernsChildren

theorem release_calm (endpoint : Endpoint) : endpoint.release.OnlyCalls Call.isCalm := by
  cases endpoint with
  | inherited => exact trivial
  | owned descriptor => exact ⟨rfl, fun _ => trivial⟩

theorem redirection_release_calm (redirection : Redirection) :
    redirection.release.OnlyCalls Call.isCalm :=
  Program.only_calls_bind (release_calm _) fun _ => release_calm _

theorem open_side_calm (path : Option String) (access : Access) :
    (Redirection.openSide path access).OnlyCalls Call.isCalm := by
  cases path with
  | none => exact trivial
  | some path =>
      refine Program.only_calls_bind ?_ fun opened => ?_
      · unfold openPath
        split
        · exact trivial
        · refine ⟨rfl, fun reply => ?_⟩
          cases reply <;> exact trivial
      · cases opened <;> exact trivial

theorem open_for_calm (stage : Stage) : (Redirection.openFor stage).OnlyCalls Call.isCalm := by
  refine Program.only_calls_bind (open_side_calm _ _) fun input => ?_
  cases input with
  | error failure => exact trivial
  | ok input =>
      refine Program.only_calls_bind (open_side_calm _ _) fun output => ?_
      cases output with
      | error failure => exact Program.only_calls_bind (release_calm input) fun _ => trivial
      | ok output => exact trivial

theorem connect_calm (isLast : Bool) : (connect isLast).OnlyCalls Call.isCalm := by
  cases isLast with
  | true => exact trivial
  | false =>
      refine ⟨rfl, fun reply => ?_⟩
      cases reply <;> exact trivial

theorem move_onto_calm (source target : Descriptor) :
    (moveOnto source target).OnlyCalls Call.isCalm := by
  unfold moveOnto
  split
  · exact trivial
  · refine ⟨rfl, fun copied => ?_⟩
    cases copied with
    | error errno => exact trivial
    | ok =>
        refine ⟨rfl, fun closed => ?_⟩
        cases closed <;> exact trivial

theorem give_up_calm {α : Type} (message : String) :
    (giveUp message : Program α).OnlyCalls Call.isCalm :=
  Program.only_calls_bind (Program.print_only_calls (fun _ => rfl) rfl _)
    fun _ => ⟨rfl, fun never => nomatch never⟩

theorem start_program_calm {α : Type} (arguments : List String) (input output : Descriptor) :
    (startProgram arguments input output : Program α).OnlyCalls Call.isCalm := by
  refine Program.only_calls_bind (move_onto_calm _ _) fun moved => ?_
  cases moved with
  | error failure => exact give_up_calm _
  | ok =>
      refine Program.only_calls_bind (move_onto_calm _ _) fun moved => ?_
      cases moved with
      | error failure => exact give_up_calm _
      | ok => exact ⟨rfl, fun errno => give_up_calm _⟩

theorem builtin_calm {launcher : Launcher} (command : Builtin) (context : Context)
    (arguments : List String) :
    (launcher.invoke command context arguments).OnlyCalls Call.isCalm := by
  refine Program.only_calls_mono ?_ (launcher.keepsProcess command context arguments)
  intro call keeps
  cases call <;> first | rfl | cases keeps

theorem become_stage_disciplined {α : Type} {before : Trace} {context : Context}
    {arguments : List String} {input output : Descriptor} (goal : Trace → α → Prop)
    (isFirst : before.inChild = false) :
    (becomeStage context before.leader arguments input output : Program α).Meets
      (discipline context.ownsTerminal) goal (before ++ [⟨.fork, .ok none⟩]) := by
  have forked : Trace.IsForked (before ++ [⟨.fork, .ok none⟩]) before [] := ⟨isFirst, rfl⟩
  unfold becomeStage
  refine ⟨permits_child forked fun _ => .inl rfl, fun own _ => ?_⟩
  have forkedOwn := forked.snoc ⟨.ownPid, own⟩
  refine ⟨permits_child forkedOwn ⟨rfl, own, rfl, rfl⟩, fun joined _ => ?_⟩
  have forkedJoined := forkedOwn.snoc ⟨.joinGroup 0 (before.leader.getD own), joined⟩
  have startsWhen (later : Trace) (prepared : Prepared context.ownsTerminal later) :
      (startProgram arguments input output : Program α).Meets (discipline context.ownsTerminal) goal
        later :=
    prepared.meets_calm (start_program_calm _ _ _) goal fun _ _ => start_program_never_returns
  have setsWhen (later own : Trace) (again : later.IsForked before own) (hasJoined : own.HasJoined)
      (given : context.ownsTerminal = true → own.HasGiven) :
      (Program.call (.setSignals (jobControlSignals ++ [.pipe]) .default) fun _ =>
        (startProgram arguments input output : Program α)).Meets (discipline context.ownsTerminal)
        goal later :=
    ⟨permits_child again given, fun reply _ =>
      startsWhen _ (Prepared.snoc ⟨before, own, again, hasJoined, given⟩ _)⟩
  cases owned : context.ownsTerminal with
  | false =>
      rw [owned] at setsWhen
      exact setsWhen _ _ forkedJoined ⟨_, joined, by simp⟩ nofun
  | true =>
      rw [owned] at setsWhen
      refine ⟨permits_child forkedJoined ⟨own, joined, rfl, rfl⟩, fun given _ => ?_⟩
      exact setsWhen _ _ (forkedJoined.snoc ⟨.giveTerminal (before.leader.getD own), given⟩)
        ⟨_, joined, by simp⟩ fun _ => ⟨_, given, by simp⟩

theorem start_child_disciplined {context : Context} {trace : Trace} {children : List Pid}
    {arguments : List String} {input output : Descriptor} (launching : Launching trace children) :
    (startChild context children.head? arguments input output).Meets
      (discipline context.ownsTerminal)
      (fun later result =>
        match result with
        | .error _ => Launching later children
        | .ok child => ∃ before, Launching before children ∧
            later = before ++ [⟨.fork, .ok (some child)⟩]) trace := by
  unfold startChild
  cases checkArguments arguments with
  | error failure => exact launching
  | ok =>
      refine ⟨permits_parent launching.isFirst trivial, fun flushed _ => ?_⟩
      have still : Launching (trace ++ [⟨.flushOutput, flushed⟩]) children := launching.calm rfl
      cases flushed with
      | error errno => exact still
      | ok =>
          refine ⟨permits_parent still.isFirst ⟨still.allJoined, still.notWaited⟩,
            fun reply _ => ?_⟩
          rcases reply with errno | (_ | child)
          · exact still.snoc rfl fun _ _ same => by cases same
          · have isGroup : children.head? = Trace.leader (trace ++ [⟨.flushOutput, .ok ()⟩]) := by
              rw [Trace.leader, still.children]
            rw [isGroup]
            exact become_stage_disciplined _ still.isFirst
          · exact ⟨_, still, rfl⟩

/-- What a launched stage leaves behind: its child is one more, and the group is the first
of them all. -/
def Leaves (children : List Pid) (later : Trace) : Except ShellError Launched → Prop
  | .error _ => Launching later children
  | .ok launched => Launching later (children ++ launched.run.pid.toList) ∧
      launched.group = (children ++ launched.run.pid.toList).head?

theorem Launching.joined {before : Trace} (launching : Launching before children)
    (child target : Pid) (reply : Except Errno Unit) :
    Launching (before ++ [⟨.fork, .ok (some child)⟩] ++ [⟨.joinGroup child target, reply⟩])
      (children ++ [child]) := by
  refine ⟨?_, ?_, ?_, ?_⟩
  · rw [Trace.in_child_append, Trace.in_child_append, launching.isFirst]
    rfl
  · intro other member
    rw [Trace.children_of_single rfl, Trace.children_fork] at member
    rcases List.mem_append.mp member with isOld | isNew
    · obtain ⟨group, answer, isIn⟩ := launching.allJoined other isOld
      exact ⟨group, answer, List.mem_append_left _ (List.mem_append_left _ isIn)⟩
    · rw [List.mem_singleton.mp isNew]
      exact ⟨target, reply, List.mem_append_right _ List.mem_cons_self⟩
  · rintro ⟨other, reportStops, answer, settles, member⟩
    rcases List.mem_append.mp member with isOld | isNew
    · rcases List.mem_append.mp isOld with isOlder | isFork
      · exact launching.notWaited ⟨other, reportStops, answer, settles, isOlder⟩
      · cases List.mem_singleton.mp isFork
    · cases List.mem_singleton.mp isNew
  · rw [Trace.children_of_single rfl, Trace.children_fork, launching.children]

theorem launch_on_disciplined {launcher : Launcher} {stage : Stage} {input output : Descriptor}
    (launching : Launching trace children) :
    (launchOn launcher children.head? stage input output).Meets
      (discipline launcher.context.ownsTerminal) (Leaves children) trace := by
  unfold launchOn
  cases stage.kind with
  | builtin command =>
      refine Program.meets_bind_of (launching.meets_calm (builtin_calm _ _ _)) ?_
      intro later result still
      exact ⟨by simpa using still, by simp⟩
  | external =>
      refine Program.meets_bind_of (start_child_disciplined launching) ?_
      rintro later (failure | child) reached
      · exact reached
      · obtain ⟨before, still, rfl⟩ := reached
        have isLeader : Trace.leader (before ++ [⟨.fork, .ok (some child)⟩]) =
            some (children.head?.getD child) := by
          rw [Trace.leader, Trace.children_fork, still.children]
          cases children <;> rfl
        have isFirst : Trace.inChild (before ++ [⟨.fork, .ok (some child)⟩]) = false := by
          rw [Trace.in_child_append, still.isFirst]
          rfl
        have isHead : some (children.head?.getD child) = (children ++ [child]).head? := by
          cases children <;> rfl
        refine ⟨permits_parent isFirst ⟨before, rfl, still.allJoined, still.notWaited, isLeader⟩,
          fun joined _ => ?_⟩
        have inGroup := still.joined child (children.head?.getD child) joined
        split
        · refine ⟨permits_parent inGroup.isFirst ?_, fun given _ =>
            ⟨inGroup.snoc rfl (fun _ _ same => by cases same), isHead⟩⟩
          rw [ParentObserves, inGroup.children]
          simp
        · exact ⟨inGroup, isHead⟩

theorem launch_stage_disciplined {launcher : Launcher} {stage : Stage} {input output : Endpoint}
    (launching : Launching trace children) :
    (launchStage launcher children.head? stage input output).Meets
      (discipline launcher.context.ownsTerminal) (Leaves children) trace := by
  unfold launchStage
  refine Program.meets_bind_of (launching.meets_calm (open_for_calm stage)) ?_
  rintro later (failure | redirection) still
  · exact still
  · refine Program.meets_bind_of (launch_on_disciplined still) ?_
    rintro last (failure | launched) reached
    · exact Program.meets_bind_of (reached.meets_calm (redirection_release_calm _))
        fun _ _ released => released
    · obtain ⟨inGroup, isHead⟩ := reached
      exact Program.meets_bind_of (inGroup.meets_calm (redirection_release_calm _))
        fun _ _ released => ⟨released, isHead⟩

def LaunchLeaves (children : List Pid) (later : Trace) (launch : Launch) : Prop :=
  Launching later (children ++ launch.stages.filterMap StageRun.pid) ∧
    launch.group = (children ++ launch.stages.filterMap StageRun.pid).head?

theorem stopped_leaves (launching : Launching trace children) (failure : Option ShellError)
    (left : List Stage) : LaunchLeaves children trace (.stopped failure children.head? left) := by
  have noPid : (left.map StageRun.ofStage).filterMap StageRun.pid = [] := by
    rw [List.filterMap_eq_nil_iff]
    rintro run member
    obtain ⟨stage, -, rfl⟩ := List.mem_map.mp member
    rfl
  rw [LaunchLeaves, Launch.stopped, noPid, List.append_nil]
  exact ⟨launching, rfl⟩

theorem launch_stages_disciplined {launcher : Launcher} {input : Endpoint} {stages : List Stage}
    (launching : Launching trace children) :
    (launchStages launcher input children.head? stages).Meets
      (discipline launcher.context.ownsTerminal) (LaunchLeaves children) trace := by
  induction stages generalizing input trace children with
  | nil =>
      refine Program.meets_bind_of (launching.meets_calm (release_calm _)) fun later _ still => ?_
      exact stopped_leaves still none []
  | cons stage rest ih =>
      unfold launchStages
      refine Program.meets_bind_of (launching.meets_calm (connect_calm _)) ?_
      rintro later (failure | ⟨output, next⟩) still
      · refine Program.meets_bind_of (still.meets_calm (release_calm _)) fun last _ released => ?_
        exact stopped_leaves released _ _
      · refine Program.meets_bind_of (launch_stage_disciplined still) ?_
        rintro last (failure | launched) reached
        · refine Program.meets_bind_of (reached.meets_calm (release_calm _)) fun _ _ one => ?_
          refine Program.meets_bind_of (one.meets_calm (release_calm _)) fun _ _ two => ?_
          refine Program.meets_bind_of (two.meets_calm (release_calm _)) fun _ _ three => ?_
          exact stopped_leaves three _ _
        · obtain ⟨inGroup, isHead⟩ := reached
          refine Program.meets_bind_of (inGroup.meets_calm (release_calm _)) fun _ _ one => ?_
          refine Program.meets_bind_of (one.meets_calm (release_calm _)) fun _ _ two => ?_
          rw [isHead]
          refine Program.meets_bind_of (ih two) fun final later reached => ?_
          have pids : (later.after launched).stages.filterMap StageRun.pid =
              launched.run.pid.toList ++ later.stages.filterMap StageRun.pid := by
            rw [Launch.after, List.filterMap_cons]
            cases launched.run.pid <;> rfl
          change LaunchLeaves children final (later.after launched)
          rw [LaunchLeaves, pids, ← List.append_assoc]
          exact reached

end

structure Gathered (trace : Trace) (children : List Pid) : Prop where
  isFirst : trace.inChild = false
  allJoined : trace.AllJoined
  children : trace.children = children

section

variable {owns : Bool} {trace : Trace} {children : List Pid}

theorem Launching.gathered (launching : Launching trace children) : Gathered trace children :=
  ⟨launching.isFirst, launching.allJoined, launching.children⟩

theorem Gathered.snoc {exchange : Exchange} (gathered : Gathered trace children)
    (single : exchange.forks = false) : Gathered (trace ++ [exchange]) children := by
  refine ⟨?_, gathered.allJoined.snoc single, ?_⟩
  · rw [Trace.in_child_of_not_forks (by simpa using single), gathered.isFirst]
  · rw [Trace.children_of_single single, gathered.children]

theorem Gathered.leader (gathered : Gathered trace children) : trace.leader = children.head? := by
  rw [Trace.leader, gathered.children]

theorem await_child_disciplined (pid : Pid) (turns : Nat) (gathered : Gathered trace children) :
    (awaitChild pid turns).Meets (discipline owns)
      (fun later _ => Gathered later children ∧ ∃ more, later = trace ++ more ∧
        Trace.WaitedFor more pid) trace := by
  induction turns generalizing trace with
  | zero => exact ⟨permits_parent gathered.isFirst trivial, fun never => nomatch never⟩
  | succ turns ih =>
      rw [await_child_succ]
      refine ⟨permits_parent gathered.isFirst gathered.allJoined, fun answer _ => ?_⟩
      have still : Gathered (trace ++ [⟨.wait pid true, answer⟩]) children := gathered.snoc rfl
      rcases StageState.open_or_settles answer with leavesOpen | ⟨state, settles⟩
      · rw [StageState.hear_of_open leavesOpen]
        refine Program.meets_mono ?_ (ih still)
        rintro later _ ⟨stillLater, more, rfl, reportStops, last, settles, member⟩
        exact ⟨stillLater, ⟨.wait pid true, answer⟩ :: more, by simp, reportStops, last, settles,
          List.mem_cons_of_mem _ member⟩
      · obtain ⟨told, ended, -⟩ := StageState.hear_of_settles settles
        rw [ended]
        exact ⟨still, _, rfl, true, answer, StageState.not_open_of_settles settles,
          List.mem_cons_self⟩

theorem wait_stages_disciplined {patience : Nat} {runs : List StageRun}
    (gathered : Gathered trace children) :
    (waitStages patience runs).Meets (discipline owns)
      (fun later _ => Gathered later children ∧ ∃ more, later = trace ++ more ∧
        ∀ child ∈ runs.filterMap StageRun.pid, more.WaitedFor child) trace := by
  induction runs generalizing trace with
  | nil => exact ⟨gathered, [], (List.append_nil _).symm, by simp⟩
  | cons run rest ih =>
      unfold waitStages
      cases isPid : run.pid with
      | none =>
          refine Program.meets_bind_of (ih gathered) fun later others reached => ?_
          rw [List.filterMap_cons_none isPid]
          exact reached
      | some pid =>
          refine Program.meets_bind_of (await_child_disciplined pid patience gathered) ?_
          rintro _ state ⟨still, asking, rfl, waitedHere⟩
          refine Program.meets_bind_of (ih still) fun later others reached => ?_
          obtain ⟨stillLater, more, rfl, waited⟩ := reached
          refine ⟨stillLater, asking ++ more, List.append_assoc _ _ _, ?_⟩
          rw [List.filterMap_cons_some isPid, List.forall_mem_cons]
          refine ⟨?_, fun child member => ?_⟩
          · obtain ⟨reportStops, answer, settles, isIn⟩ := waitedHere
            exact ⟨reportStops, answer, settles, List.mem_append_left _ isIn⟩
          · obtain ⟨reportStops, answer, settles, isIn⟩ := waited child member
            exact ⟨reportStops, answer, settles, List.mem_append_right _ isIn⟩

theorem reclaim_terminal_disciplined (context : Context) (gathered : Gathered trace children) :
    (reclaimTerminal context children.head?).Meets (discipline owns)
      (fun later _ => Gathered later children ∧ (context.ownsTerminal = true →
        children = [] ∨
          ∃ reply, later = trace ++ [⟨.giveTerminal context.shellGroup, reply⟩])) trace := by
  unfold reclaimTerminal
  split
  · rename_i reclaims
    rw [Bool.and_eq_true] at reclaims
    have someChild : trace.children ≠ [] := by
      rw [gathered.children]
      rintro rfl
      cases reclaims.2
    exact ⟨permits_parent gathered.isFirst someChild,
      fun reply _ => ⟨gathered.snoc rfl, fun _ => .inr ⟨reply, rfl⟩⟩⟩
  · rename_i keeps
    refine ⟨gathered, fun owned => .inl ?_⟩
    rw [owned, Bool.true_and] at keeps
    cases children with
    | nil => rfl
    | cons child others => exact absurd rfl keeps

/-- Only the shell returns from a job, and the group of the job is the first of its children.
When the job has ended well, the terminal is the shell's again. -/
structure JobLeaves (context : Context) (later : Trace) (outcome : Except ShellError StageState)
    (run : JobRun) : Prop where
  isFirst : later.inChild = false
  group : run.group = later.leader
  reclaimed : ∀ state, outcome = .ok state → context.ownsTerminal = true →
    later.children = [] ∨ later.Reclaimed context.shellGroup

theorem conclude_job_disciplined {launcher : Launcher} {run : JobRun}
    (launching : Launching trace children) (isGroup : run.group = children.head?)
    (pids : run.stages.filterMap StageRun.pid = children)
    (inForeground : launcher.context.ownsTerminal = true → run.job.mode = .foreground) :
    (concludeJob launcher run).Meets (discipline owns)
      (fun later result => JobLeaves launcher.context later result.1 result.2) trace := by
  unfold concludeJob
  cases mode : run.job.mode with
  | foreground =>
      refine Program.meets_bind_of (wait_stages_disciplined launching.gathered) ?_
      rintro later stages ⟨gathered, more, rfl, waited⟩
      rw [isGroup]
      refine Program.meets_bind_of (reclaim_terminal_disciplined launcher.context gathered) ?_
      rintro last _ ⟨gatheredLast, reclaimed⟩
      refine ⟨gatheredLast.isFirst, gatheredLast.leader.symm, fun state _ owned => ?_⟩
      rcases reclaimed owned with none | ⟨reply, rfl⟩
      · exact .inl (gatheredLast.children.trans none)
      · refine .inr ⟨trace ++ more, reply, rfl, fun child member => ?_⟩
        rw [gathered.children, ← pids] at member
        obtain ⟨reportStops, answer, settles, isIn⟩ := waited child member
        exact ⟨reportStops, answer, settles, List.mem_append_right _ isIn⟩
  | background =>
      have notOwned : ¬ launcher.context.ownsTerminal = true := by
        intro owned
        rw [inForeground owned] at mode
        cases mode
      refine Program.meets_bind_of
        (launching.meets_calm (announce_job_only_calls (fun _ => rfl) run)) ?_
      rintro later (failure | _) still
      · exact ⟨still.isFirst, isGroup.trans still.gathered.leader.symm, nofun⟩
      · exact ⟨still.isFirst, isGroup.trans still.gathered.leader.symm,
          fun _ _ owned => absurd owned notOwned⟩

theorem settle_job_disciplined {launcher : Launcher} {run : JobRun} {table : JobTable}
    {launch : Launch} (launching : Launching trace children) (isGroup : run.group = children.head?)
    (pids : run.stages.filterMap StageRun.pid = children)
    (inForeground : launcher.context.ownsTerminal = true → run.job.mode = .foreground) :
    (settleJob launcher run table launch).Meets (discipline owns)
      (fun later result => JobLeaves launcher.context later result.outcome result.run) trace := by
  unfold settleJob
  cases launch.failure with
  | some failure =>
      rw [isGroup]
      refine Program.meets_bind_of
        (reclaim_terminal_disciplined launcher.context launching.gathered) ?_
      rintro later _ ⟨gathered, -⟩
      exact ⟨gathered.isFirst, isGroup.trans gathered.leader.symm, nofun⟩
  | none =>
      exact Program.meets_bind_of (conclude_job_disciplined launching isGroup pids inForeground)
        fun later result reached => reached

end

theorem run_job_disciplined (launcher : Launcher) (table : JobTable) (job : Job) :
    (runJob launcher table job).Meets (discipline (launcher.forJob job).context.ownsTerminal)
      (fun later result => JobLeaves (launcher.forJob job).context later result.outcome result.run)
      [] := by
  have launching : Launching [] [] := by
    refine ⟨rfl, nofun, ?_, rfl⟩
    rintro ⟨_, _, _, _, member⟩
    cases member
  refine Program.meets_bind_of (launch_stages_disciplined launching) ?_
  rintro later launch ⟨still, isGroup⟩
  refine settle_job_disciplined still isGroup (List.nil_append _) fun owned => ?_
  rw [Context.ownsTerminal, Bool.and_eq_true] at owned
  exact beq_iff_eq.mp owned.2

end JobShell
