import JobShell.Proofs.Launch.Discipline

/-!
# The process group of a job

The shell puts each child of a job into the group of the first one, and every child does the
same by itself, so a race between the two decides nothing. A job has one group from its first
external stage on, and no stage is ever put anywhere else.
-/

namespace JobShell

open Unix

set_option autoImplicit false

/-- How far the launch of some stages has come along a trace, and which group the job has by
then: each stage goes on with the group that the one before has left, and an external stage
without a group before it leaves its own child. -/
inductive Underway (launcher : Launcher) :
    Option Pid → List Stage → Trace → Option Pid → Prop where
  | waiting {group : Option Pid} {stages : List Stage} {trace : Trace}
      (noChild : trace.children = []) : Underway launcher group stages trace group
  | forked {group : Option Pid} {stage : Stage} {rest : List Stage} {trace : Trace} {child : Pid}
      (external : stage.kind = .external) (isChild : trace.children = [child]) :
      Underway launcher group (stage :: rest) trace (some (group.getD child))
  | launched {group final : Option Pid} {stage : Stage} {rest : List Stage} {trace later : Trace}
      {isLast : Bool} {launched : Launched}
      (first : StageLaunched launcher group stage isLast trace launched)
      (following : Underway launcher launched.group rest later final) :
      Underway launcher group (stage :: rest) (trace ++ later) final

section

variable {launcher : Launcher} {group final : Option Pid} {stages : List Stage} {trace : Trace}

theorem Underway.leader (underway : Underway launcher group stages trace final) :
    final = group.or trace.leader := by
  induction underway with
  | waiting noChild => rw [Trace.leader, noChild]; simp
  | @forked group stage rest trace child external isChild =>
      rw [Trace.leader, isChild]
      cases group <;> rfl
  | @launched group final stage rest trace later isLast launched first following ih =>
      obtain ⟨children, -⟩ := first.children
      obtain ⟨opening, own, closing, -, -, runs, -⟩ := first.parts
      have here : launched.group = group.or trace.leader := by
        rw [Trace.leader, children]
        generalize opening.children = born at runs
        cases runs with
        | external kind settled => cases group <;> rfl
        | builtin kind returns => simp
      rw [ih, here, Option.or_assoc, Trace.leader, Trace.leader, Trace.leader,
        Trace.children_append, List.head?_append]

def Unix.Call.isChildless : Call → Bool
  | .fork => false
  | _ => true

theorem childless_no_children {α : Type} {program rest : Program α}
    (childless : program.OnlyCalls Call.isChildless) (follows : program.Follows trace rest) :
    trace.children = [] := by
  refine Trace.children_of_not_fork fun exchange member isFork => ?_
  have noFork := childless.along follows exchange member
  rw [isFork] at noFork
  cases noFork

theorem calm_no_children {α : Type} {program rest : Program α}
    (calm : program.OnlyCalls Call.isCalm) (follows : program.Follows trace rest) :
    trace.children = [] := by
  refine childless_no_children (Program.only_calls_mono (fun call isCalm => ?_) calm) follows
  cases call <;> first | rfl | cases isCalm

/-- Along a trace of the shell that begins a stage there is no child or one, and one only for an
external stage. -/
def AtMostOne (stage : Stage) (trace : Trace) : Prop :=
  trace.children = [] ∨ stage.kind = .external ∧ ∃ child, trace.children = [child]

theorem start_child_follows {context : Context} {arguments : List String}
    {input output : Descriptor} {rest : Program (Except ShellError Pid)}
    (follows : (startChild context group arguments input output).Follows trace rest)
    (isFirst : trace.inChild = false) :
    trace.children = [] ∨ ∃ child, trace.children = [child] := by
  unfold startChild at follows
  cases checked : checkArguments arguments with
  | error failure =>
      rw [checked] at follows
      obtain ⟨rfl, -⟩ := Program.follows_done_iff.mp follows
      exact .inl rfl
  | ok =>
      rw [checked] at follows
      rcases Program.follows_call_iff.mp follows with ⟨rfl, -⟩ | ⟨flushed, later, rfl, going⟩
      · exact .inl rfl
      cases flushed with
      | error errno =>
          obtain ⟨rfl, -⟩ := Program.follows_done_iff.mp going
          exact .inl rfl
      | ok =>
          rcases Program.follows_call_iff.mp going with ⟨rfl, -⟩ | ⟨reply, last, rfl, ending⟩
          · exact .inl rfl
          rcases reply with errno | (_ | child)
          · obtain ⟨rfl, -⟩ := Program.follows_done_iff.mp ending
            exact .inl rfl
          · cases isFirst
          · obtain ⟨rfl, -⟩ := Program.follows_done_iff.mp ending
            exact .inr ⟨child, rfl⟩

theorem launch_on_follows {stage : Stage} {input output : Descriptor}
    {rest : Program (Except ShellError Launched)}
    (follows : (launchOn launcher group stage input output).Follows trace rest)
    (isFirst : trace.inChild = false) : AtMostOne stage trace := by
  unfold launchOn at follows
  cases kind : stage.kind with
  | builtin command =>
      rw [kind] at follows
      refine .inl (calm_no_children ?_ follows)
      exact Program.only_calls_bind (builtin_calm _ _ _) fun result => trivial
  | external =>
      rw [kind] at follows
      have some {before : Trace} {other : Program (Except ShellError Pid)}
          (inside : (startChild launcher.context group stage.arguments input output).Follows before
            other) (isFirst : before.inChild = false) : AtMostOne stage before := by
        rcases start_child_follows inside isFirst with noChild | oneChild
        · exact .inl noChild
        · exact .inr ⟨kind, oneChild⟩
      rcases Program.follows_bind_cases follows with
        ⟨asked, goesOn, inside, -⟩ | ⟨before, after, started, rfl, returns, behind⟩
      · exact some inside isFirst
      · have noMore : after.children = [] := by
          refine childless_no_children ?_ behind
          cases started with
          | error failure => exact trivial
          | ok child =>
              refine ⟨rfl, fun joined => ?_⟩
              change Program.OnlyCalls _ (if _ then _ else _)
              split
              · exact ⟨rfl, fun given => trivial⟩
              · exact trivial
        rw [Trace.in_child_append, Bool.or_eq_false_iff] at isFirst
        rw [AtMostOne, Trace.children_append, noMore, List.append_nil]
        exact some returns isFirst.1

theorem launch_stage_follows {stage : Stage} {input output : Endpoint}
    {rest : Program (Except ShellError Launched)}
    (follows : (launchStage launcher group stage input output).Follows trace rest)
    (isFirst : trace.inChild = false) : AtMostOne stage trace := by
  unfold launchStage at follows
  rcases Program.follows_bind_cases follows with
    ⟨asked, goesOn, inside, -⟩ | ⟨first, behind, opened, rfl, opens, running⟩
  · exact .inl (calm_no_children (open_for_calm stage) inside)
  have noChild := calm_no_children (open_for_calm stage) opens
  rw [Trace.in_child_append, Bool.or_eq_false_iff] at isFirst
  rw [AtMostOne, Trace.children_append, noChild, List.nil_append]
  cases opened with
  | error failure =>
      obtain ⟨rfl, -⟩ := Program.follows_done_iff.mp running
      exact .inl rfl
  | ok redirection =>
      rcases Program.follows_bind_cases running with
        ⟨asked, goesOn, inside, -⟩ | ⟨second, last, result, rfl, returns, releasing⟩
      · exact launch_on_follows inside isFirst.2
      · have noMore : last.children = [] := by
          refine calm_no_children ?_ releasing
          exact Program.only_calls_bind (redirection_release_calm _) fun _ => trivial
        rw [Trace.in_child_append, Bool.or_eq_false_iff] at isFirst
        rw [Trace.children_append, noMore, List.append_nil]
        exact launch_on_follows returns isFirst.2.1

theorem AtMostOne.underway {stage : Stage} (few : AtMostOne stage trace) (group : Option Pid)
    (rest : List Stage) : ∃ final, Underway launcher group (stage :: rest) trace final := by
  rcases few with noChild | ⟨external, child, isChild⟩
  · exact ⟨group, .waiting noChild⟩
  · exact ⟨_, .forked external isChild⟩

theorem launch_stages_underway {input : Endpoint} {rest : Program Launch}
    (follows : (launchStages launcher input group stages).Follows trace rest)
    (isFirst : trace.inChild = false) : ∃ final, Underway launcher group stages trace final := by
  induction stages generalizing input group trace rest with
  | nil =>
      refine ⟨group, .waiting (calm_no_children ?_ follows)⟩
      exact Program.only_calls_bind (release_calm _) fun _ => trivial
  | cons stage others ih =>
      unfold launchStages at follows
      rcases Program.follows_bind_cases follows with
        ⟨asked, goesOn, inside, -⟩ | ⟨first, behind, connected, rfl, connects, going⟩
      · exact ⟨group, .waiting (calm_no_children (connect_calm _) inside)⟩
      have noChild := calm_no_children (connect_calm _) connects
      rw [Trace.in_child_append, Bool.or_eq_false_iff] at isFirst
      have atHand {own : Trace} (closing : Trace) (few : AtMostOne stage own)
          (noMore : closing.children = []) :
          ∃ final, Underway launcher group (stage :: others) (first ++ (own ++ closing)) final := by
        refine AtMostOne.underway ?_ group others
        rw [AtMostOne, Trace.children_append, Trace.children_append, noChild, noMore,
          List.nil_append, List.append_nil]
        exact few
      rcases connected with failure | ⟨output, next⟩
      · refine ⟨group, .waiting ?_⟩
        rw [Trace.children_append, noChild, List.nil_append]
        refine calm_no_children ?_ going
        exact Program.only_calls_bind (release_calm _) fun _ => trivial
      rcases Program.follows_bind_cases going with
        ⟨asked, goesOn, inside, -⟩ | ⟨own, left, result, rfl, returns, closing⟩
      · have few := launch_stage_follows inside isFirst.2
        simpa using atHand [] few rfl
      rw [Trace.in_child_append, Bool.or_eq_false_iff] at isFirst
      have few := launch_stage_follows returns isFirst.2.1
      cases result with
      | error failure =>
          refine atHand _ few (calm_no_children ?_ closing)
          exact Program.only_calls_bind (release_calm _) fun _ =>
            Program.only_calls_bind (release_calm _) fun _ =>
              Program.only_calls_bind (release_calm _) fun _ => trivial
      | ok launched =>
          rcases Program.follows_bind_cases closing with
            ⟨asked, goesOn, inside, -⟩ | ⟨one, more, _, rfl, closesOutput, closing⟩
          · exact atHand _ few (calm_no_children (release_calm _) inside)
          rcases Program.follows_bind_cases closing with
            ⟨asked, goesOn, inside, -⟩ | ⟨two, last, _, rfl, closesInput, following⟩
          · refine atHand _ few ?_
            rw [Trace.children_append, calm_no_children (release_calm _) closesOutput,
              calm_no_children (release_calm _) inside]
            rfl
          have stageLaunched := stage_launched_of_returns connects returns
            (only_closes_append (release_returns closesOutput) (release_returns closesInput))
          have lastFirst : last.inChild = false := by
            have parts := isFirst.2.2
            rw [Trace.in_child_append, Trace.in_child_append] at parts
            simp only [Bool.or_eq_false_iff] at parts
            exact parts.2.2
          have later : ∃ final, Underway launcher launched.group others last final := by
            rcases Program.follows_bind_cases following with
              ⟨asked, goesOn, inside, -⟩ | ⟨before, ending, launch, rfl, launches, ended⟩
            · exact ih inside lastFirst
            · obtain ⟨rfl, -⟩ := Program.follows_done_iff.mp ended
              rw [List.append_nil] at lastFirst ⊢
              exact ih launches lastFirst
          obtain ⟨final, underway⟩ := later
          refine ⟨final, ?_⟩
          have whole := Underway.launched stageLaunched underway
          simpa using whole

end

theorem Underway.append {launcher : Launcher} {group final : Option Pid} {stages : List Stage}
    {trace more : Trace} (underway : Underway launcher group stages trace final)
    (noMore : more.children = []) : Underway launcher group stages (trace ++ more) final := by
  induction underway with
  | waiting noChild =>
      refine .waiting ?_
      rw [Trace.children_append, noChild, noMore]
      rfl
  | forked external isChild =>
      refine .forked external ?_
      rw [Trace.children_append, isChild, noMore]
      rfl
  | launched first following ih =>
      rw [List.append_assoc]
      exact .launched first ih

theorem job_underway {launcher : Launcher} {table : JobTable} {job : Job} {trace : Trace}
    {rest : Program JobResult} (follows : (runJob launcher table job).Follows trace rest)
    (isFirst : trace.inChild = false) :
    ∃ final, Underway (launcher.forJob job) none job.stages trace final := by
  rcases Program.follows_bind_cases follows with
    ⟨asked, goesOn, inside, -⟩ | ⟨before, after, launch, rfl, returns, behind⟩
  · exact launch_stages_underway inside isFirst
  · rw [Trace.in_child_append, Bool.or_eq_false_iff] at isFirst
    obtain ⟨final, underway⟩ := launch_stages_underway returns isFirst.1
    refine ⟨final, underway.append (childless_no_children ?_ behind)⟩
    refine Program.only_calls_mono (fun call settles => ?_) (settle_job_settles _ _ _ launch)
    cases call <;> first | rfl | cases settles

/-- The group of a job at one moment, when the first process is the shell and the others are
the stages. -/
structure HasOneGroup (launcher : Launcher) (job : Job) (shellGroup : Pid)
    (session : Session JobResult) (shell : Member JobResult) (stages : List (Member JobResult)) :
    Prop where
  members : session.world.members = shell :: stages
  children : shell.trace.children = stages.map Member.pid
  underway : ∀ program, shell.activity = .running program → ∀ group,
    Underway (launcher.forJob job) none job.stages shell.trace group ↔ group = shell.trace.leader
  ended : ∀ result, shell.activity = .running (.done result) →
    result.run.group = shell.trace.leader
  started : ∀ stage ∈ stages, stage.HasStarted →
    shell.trace.leader = some (session.control.group stage.pid)
  joins : ∀ member ∈ session.world.members, ∀ subject group reply,
    ⟨.joinGroup subject group, reply⟩ ∈ member.trace → shell.trace.leader = some group
  nowhereElse : ∀ stage ∈ stages, session.control.group stage.pid = shellGroup ∨
    shell.trace.leader = some (session.control.group stage.pid)

section

variable {launcher : Launcher} {table : JobTable} {job : Job} {start : Holdings} {capacity : Nat}
  {pid shellGroup : Pid} {session later : Session JobResult}

theorem run_job_is_disciplined :
    (runJob launcher table job).Disciplined (launcher.forJob job).context.ownsTerminal :=
  disciplined_of_meets (run_job_disciplined launcher table job)

theorem has_one_group
    (run : Session.Run capacity
      (.initial start pid shellGroup (runJob launcher table job)) session) :
    ∃ shell stages, Sound (runJob launcher table job) start session.world shell stages ∧
      session.Grouped shellGroup shell stages ∧
      HasOneGroup launcher job shellGroup session shell stages := by
  obtain ⟨shell, stages, sound, grouped⟩ :=
    Session.Grouped.of_run job_leaves_first run_job_is_disciplined run
  have among : shell ∈ session.world.members := by
    rw [sound.members]
    exact List.mem_cons_self
  refine ⟨shell, stages, sound, grouped, sound.members, sound.pids.symm, ?_, ?_, ?_, ?_, ?_⟩
  · intro program runs group
    obtain ⟨final, underway⟩ := job_underway ((sound.traces shell among).of_running runs).2.1
      sound.isFirst
    have isLeader : final = shell.trace.leader := underway.leader.trans (Option.none_or ..)
    constructor
    · exact fun again => again.leader.trans (Option.none_or ..)
    · rintro rfl
      rwa [isLeader] at underway
  · intro result isDone
    obtain ⟨-, returns, -⟩ := (sound.traces shell among).of_running isDone
    exact (goal_of_meets (run_job_disciplined launcher table job) returns).group
  · intro stage among hasStarted
    exact (grouped.children stage among).joined
      (sound.joined_of_started run_job_is_disciplined among hasStarted)
  · rw [sound.members, List.forall_mem_cons]
    exact ⟨fun subject group reply isIn => (grouped.orderly.joinsChild _ _ _ isIn).2,
      fun stage among => (grouped.children stage among).joins⟩
  · exact fun stage among => (grouped.children stage among).inGroup

/-- Whatever the shell and the stages of a job do first, a job has one group at every moment,
and keeps it: the first of its children, which every stage is in that has started its
program. -/
theorem job_keeps_one_group
    (run : Session.Run capacity (.initial start pid shellGroup (runJob launcher table job)) session)
    (goesOn : Session.Run capacity session later) :
    ∃ shell stages next others, HasOneGroup launcher job shellGroup session shell stages ∧
      HasOneGroup launcher job shellGroup later next others ∧
      ∀ leader, shell.trace.leader = some leader →
        next.trace.leader = some leader ∧
        ∀ stage ∈ stages, stage.HasStarted → later.control.group stage.pid = leader := by
  obtain ⟨shell, stages, sound, -, now⟩ := has_one_group run
  obtain ⟨next, others, soundLater, -, thereafter⟩ := has_one_group (run.trans goesOn)
  refine ⟨shell, stages, next, others, now, thereafter, fun leader isLeader => ?_⟩
  obtain ⟨last, rest, soundAgain, ⟨more, isTrace⟩, continues⟩ :=
    Session.Run.continues job_leaves_first sound goesOn
  obtain ⟨rfl, rfl⟩ := List.cons.inj (soundAgain.members.symm.trans soundLater.members)
  have leaderLater : last.trace.leader = some leader := by
    rw [← isTrace]
    exact Trace.leader_append isLeader more
  refine ⟨leaderLater, fun stage among hasStarted => ?_⟩
  obtain ⟨other, isOther, same⟩ := continues stage among
  have inGroup := thereafter.started other isOther (same.started hasStarted)
  rw [leaderLater, same.pid] at inGroup
  exact (Option.some.inj inGroup).symm

end

def catJob : Job :=
  ⟨"cat", .foreground, [⟨"cat", ["cat"], none, none⟩]⟩

/-- The program starts before the shell has put it into its group, which the shell then can
not do any more. -/
theorem cat_starts_first :
    Session.Reaches 1
      (fun session => (∃ shell stage, session.world.members = [shell, stage] ∧ stage.pid = 200 ∧
          stage.HasStarted) ∧
        Session.Reaches 1 (fun later => ∃ shell stage errno,
          later.world.members = [shell, stage] ∧
            ⟨.joinGroup 200 200, .error errno⟩ ∈ shell.trace) session)
      (.initial .standard 100 100 (runJob plainLauncher (.empty 20) catJob)) := by
  refine .step (.answer [] .flushOutput (.ok ()) rfl rfl rfl trivial rfl rfl) ?_
  refine .step (.call (@Step.fork _ _ _ [] _ _ _ 200 rfl rfl (by simp)) rfl rfl rfl
    ⟨by decide, rfl⟩) ?_
  refine .step (.answer [_] .ownPid (200 : Int) rfl rfl rfl trivial rfl ⟨rfl, rfl⟩) ?_
  refine .step (.answer [_] (.joinGroup 0 200) (.ok ()) rfl rfl rfl trivial rfl
    ⟨⟨by decide, .inl rfl, .inl rfl⟩, rfl⟩) ?_
  refine .step (.answer [_] (.setSignals _ _) (.ok ()) rfl rfl rfl trivial rfl rfl) ?_
  refine .step (.other (@Step.execute _ _ _ [_] _ _ _ _ rfl rfl) rfl) ?_
  refine .here ⟨⟨_, _, rfl, rfl, _, _, rfl⟩, ?_⟩
  refine .step (.answer [] (.joinGroup 200 200) (.error .accessDenied) rfl rfl rfl trivial rfl
    ⟨?_, rfl⟩) ?_
  · rintro ⟨-, self | ⟨-, unstarted⟩, -⟩
    · exact absurd self (by decide)
    · exact unstarted _ (List.mem_cons_of_mem _ List.mem_cons_self) rfl ⟨_, _, rfl⟩
  · exact .here ⟨_, _, .accessDenied, rfl, by simp⟩

theorem job_keeps_one_group_fast_cat :
    ∃ session later shell next stages others,
      Session.Run 1 (.initial .standard 100 100 (runJob plainLauncher (.empty 20) catJob)) session ∧
        Session.Run 1 session later ∧
        HasOneGroup plainLauncher catJob 100 session shell stages ∧
        HasOneGroup plainLauncher catJob 100 later next others ∧
        (∃ errno, ⟨.joinGroup 200 200, .error errno⟩ ∈ next.trace) ∧
        later.control.group 200 = 200 := by
  obtain ⟨session, run, ⟨shell, stage, members, isPid, hasStarted⟩, later, goesOn, next, other,
    errno, membersLater, refused⟩ := cat_starts_first
  obtain ⟨shell', stages, next', others, now, thereafter, keeps⟩ := job_keeps_one_group run goesOn
  obtain ⟨rfl, rfl⟩ := List.cons.inj (members.symm.trans now.members)
  obtain ⟨rfl, rfl⟩ := List.cons.inj (membersLater.symm.trans thereafter.members)
  have isLeader : shell.trace.leader = some 200 := by
    rw [Trace.leader, now.children, List.map_singleton, isPid]
    rfl
  refine ⟨session, later, shell, next, _, _, run, goesOn, now, thereafter, ⟨errno, refused⟩, ?_⟩
  rw [← isPid, (keeps 200 isLeader).2 stage List.mem_cons_self hasStarted, isPid]

end JobShell
