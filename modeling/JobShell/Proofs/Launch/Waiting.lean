import JobShell.Proofs.Launch.Settle
import JobShell.Proofs.Launch.Trace

/-!
# Waiting for the stages of a job

A foreground job is waited for stage by stage, in the order of the pipeline. Asking about a
child is repeated as long as the answers leave its state open, and the first answer that does
not is the state of its stage. A background job is announced and not waited for.
-/

namespace JobShell

open Unix

set_option autoImplicit false

instance : DecidablePred Unix.WaitAnswer.LeavesOpen :=
  fun _ => decidable_of_iff _ StageState.asks_again_iff

def Unix.Trace.waits (trace : Trace) : List (Pid × WaitAnswer) :=
  trace.filterMap fun
    | ⟨.wait pid _, answer⟩ => some (pid, answer)
    | _ => none

/-- The children whose states were told along a trace, in the order in which they were. -/
def Unix.Trace.told (trace : Trace) : List Pid :=
  (trace.waits.filter fun wait => !decide wait.2.LeavesOpen).map Prod.fst

theorem Unix.Trace.waits_append (first second : Trace) :
    (first ++ second).waits = first.waits ++ second.waits :=
  List.filterMap_append

theorem Unix.Trace.told_append (first second : Trace) :
    (first ++ second).told = first.told ++ second.told := by
  rw [told, waits_append, List.filter_append, List.map_append]
  rfl

theorem Unix.Trace.waits_of_asking (pid : Pid) (answers : List WaitAnswer) :
    (Trace.asking pid answers).waits = answers.map (pid, ·) := by
  induction answers with
  | nil => rfl
  | cons answer answers ih => exact congrArg ((pid, answer) :: ·) ih

theorem Unix.Trace.told_of_asking (pid : Pid) {answers : List WaitAnswer} {state : StageState}
    (tell : WaitAnswer.Tell answers state) : (Trace.asking pid answers).told = [pid] := by
  rw [told, waits_of_asking]
  induction tell with
  | last settles => simp [StageState.not_open_of_settles settles]
  | again leavesOpen later ih => simpa [leavesOpen] using ih

theorem Unix.Trace.NeverWaits.no_waits {trace : Trace} (never : trace.NeverWaits) :
    trace.waits = [] := by
  rw [waits, List.filterMap_eq_nil_iff]
  intro exchange member
  split
  · exact absurd rfl (never _ member _ _)
  · rfl

/-- Stages are waited for along a trace, one after the other. A stage without a child is left as
it is. A stage with a child is asked about until some answer settles its state. -/
inductive StagesAwaited : List StageRun → Trace → List StageRun → Prop where
  | nil : StagesAwaited [] [] []
  | builtin {run : StageRun} {rest others : List StageRun} {trace : Trace}
      (noChild : run.pid = none)
      (later : StagesAwaited rest trace others) :
      StagesAwaited (run :: rest) trace (run :: others)
  | external {run : StageRun} {rest others : List StageRun} {trace : Trace} {pid : Pid}
      {answers : List WaitAnswer} {state : StageState} (child : run.pid = some pid)
      (tell : WaitAnswer.Tell answers state) (later : StagesAwaited rest trace others) :
      StagesAwaited (run :: rest) (.asking pid answers ++ trace)
        ({ run with state := state } :: others)

theorem wait_stages_returns {patience : Nat} {runs waited : List StageRun} {trace : Trace}
    (returns : (waitStages patience runs).Returns trace waited) :
    StagesAwaited runs trace waited := by
  -- Stages are waited for in order, so the trace splits behind the waits for the first one.
  induction runs generalizing trace waited with
  | nil =>
      obtain ⟨rfl, rfl⟩ := Program.returns_done_iff.mp returns
      exact .nil
  | cons run rest ih =>
      obtain ⟨stage, child, was⟩ := run
      cases child with
      | none =>
          obtain ⟨before, after, others, rfl, waits, ended⟩ := Program.returns_bind_iff.mp returns
          obtain ⟨rfl, rfl⟩ := Program.returns_done_iff.mp ended
          rw [List.append_nil]
          exact .builtin rfl (ih waits)
      | some pid =>
          obtain ⟨asking, later, told, rfl, asks, waiting⟩ := Program.returns_bind_iff.mp returns
          obtain ⟨before, after, others, rfl, waits, ended⟩ := Program.returns_bind_iff.mp waiting
          obtain ⟨rfl, rfl⟩ := Program.returns_done_iff.mp ended
          obtain ⟨answers, rfl, tell⟩ := await_child_returns asks
          rw [List.append_nil]
          exact .external rfl tell (ih waits)

theorem wait_stages_can_return {patience : Nat} {runs : List StageRun}
    {streams : List (List WaitAnswer)}
    (enough : streams.length = (runs.filterMap StageRun.pid).length)
    (telling : ∀ stream ∈ streams,
      (∃ state, WaitAnswer.Tell stream state) ∧ stream.length ≤ patience) :
    ∃ trace waited, (waitStages patience runs).Returns trace waited ∧
      trace.waits = ((runs.filterMap StageRun.pid).zip streams).flatMap
        fun asked => asked.2.map (asked.1, ·) := by
  induction runs generalizing streams with
  | nil => exact ⟨[], [], .stop _, rfl⟩
  | cons run rest ih =>
      obtain ⟨stage, child, was⟩ := run
      cases child with
      | none =>
          obtain ⟨trace, waited, returns, answered⟩ := ih enough telling
          exact ⟨trace, _, Program.Returns.bind returns _, answered⟩
      | some pid =>
          obtain ⟨stream, others, rfl⟩ := List.exists_cons_of_length_eq_add_one enough
          obtain ⟨⟨⟨state, tell⟩, patient⟩, telling⟩ := List.forall_mem_cons.mp telling
          obtain ⟨trace, waited, returns, answered⟩ := ih (Nat.succ.inj enough) telling
          obtain ⟨told, asks⟩ := await_child_can_return tell patient
          refine ⟨_ ++ trace, _,
            (Program.Returns.bind asks _).trans (Program.Returns.bind returns _),
            ?_⟩
          rw [Trace.waits_append, Trace.waits_of_asking, answered]
          rfl

/-- The run of a stage that was launched and then waited for if it has a child: it does not run
any more, and a builtin is done with zero or one. -/
def StageRun.IsOver (run : StageRun) : Prop :=
  match run.stage.kind with
  | .external => run.state ≠ .running ∧ run.state ≠ .continued
  | .builtin _ => run.state = .done 0 ∨ run.state = .done 1

namespace StagesAwaited

variable {runs waited : List StageRun} {trace : Trace}

theorem told_eq (awaited : StagesAwaited runs trace waited) :
    trace.told = runs.filterMap StageRun.pid := by
  induction awaited with
  | nil => rfl
  | builtin noChild later ih => rw [List.filterMap_cons_none noChild, ih]
  | external child tell later ih =>
      rw [List.filterMap_cons_some child, Trace.told_append, Trace.told_of_asking _ tell, ih]
      rfl

theorem keeps_stages (awaited : StagesAwaited runs trace waited) :
    waited.map StageRun.stage = runs.map StageRun.stage := by
  induction awaited with
  | nil => rfl
  | builtin noChild later ih => exact congrArg (_ :: ·) ih
  | external child tell later ih => exact congrArg (_ :: ·) ih

theorem all_over (awaited : StagesAwaited runs trace waited)
    (launched : ∀ run ∈ runs, run.IsLaunched) : ∀ run ∈ waited, run.IsOver := by
  induction awaited with
  | nil => simp
  | @builtin run rest others trace noChild later ih =>
      rw [List.forall_mem_cons] at launched ⊢
      refine ⟨?_, ih launched.2⟩
      have here := launched.1
      unfold StageRun.IsLaunched at here
      unfold StageRun.IsOver
      cases kind : run.stage.kind with
      | external =>
          rw [kind] at here
          obtain ⟨child, isChild, _⟩ := here
          rw [noChild] at isChild
          cases isChild
      | builtin command =>
          rw [kind] at here
          exact here.2
  | @external run rest others trace pid answers state child tell later ih =>
      rw [List.forall_mem_cons] at launched ⊢
      refine ⟨?_, ih launched.2⟩
      have here := launched.1
      unfold StageRun.IsLaunched at here
      unfold StageRun.IsOver
      cases kind : run.stage.kind with
      | external => exact StageState.told_is_final tell
      | builtin command =>
          rw [kind] at here
          rw [child] at here
          cases here.1

end StagesAwaited

theorem launch_complete {launcher : Launcher} {input : Endpoint} {group : Option Pid}
    {stages : List Stage} {trace : Trace} {launch : Launch}
    (returns : (launchStages launcher input group stages).Returns trace launch)
    (complete : launch.failure = none) :
    trace.NeverWaits ∧ launch.stages.map StageRun.stage = stages ∧
      ∀ run ∈ launch.stages, run.IsLaunched := by
  induction stages generalizing input group trace launch with
  | nil =>
      obtain ⟨closing, _, _, rfl, closes, ended⟩ := Program.returns_bind_iff.mp returns
      obtain ⟨rfl, rfl⟩ := Program.returns_done_iff.mp ended
      rw [List.append_nil]
      exact ⟨OnlyCloses.never_waits (release_returns closes), rfl, by simp [Launch.stopped]⟩
  | cons stage rest ih =>
      rcases launch_stages_cons_returns returns with ⟨failure, rfl, _⟩ |
        ⟨piping, own, closing, later, output, next, launched, laterLaunch, rfl, connecting,
          launching, closes, launchingRest, rfl⟩
      · cases complete
      · have here := stage_launched_of_returns connecting launching closes
        obtain ⟨_, _, _, _, _, runs, _⟩ := here.parts
        obtain ⟨sameStage, isLaunched⟩ := runs.is_launched
        obtain ⟨neverWaits, sameStages, areLaunched⟩ := ih launchingRest complete
        refine ⟨never_waits_append here.children.2 neverWaits, ?_, ?_⟩
        · rw [Launch.after, List.map_cons, sameStage, sameStages]
        · exact List.forall_mem_cons.mpr ⟨isLaunched, areLaunched⟩

section

variable {launcher : Launcher} {run : JobRun} {table : JobTable} {launch : Launch}
  {finish : Trace} {result : JobResult}

theorem settle_of_foreground (complete : launch.failure = none)
    (foreground : run.job.mode = .foreground) :
    settleJob launcher run table launch =
      (waitStages launcher.patience run.stages).bind fun stages =>
        (reclaimTerminal launcher.context run.group).bind fun _ =>
          .done ⟨.ok { run with stages := stages }.lastState, { run with stages := stages }, table,
            launch.directory⟩ := by
  simp only [settleJob, concludeJob, complete, foreground]
  refine (Program.bind_assoc _ _ _).trans (congrArg (Program.bind _) (funext fun stages => ?_))
  exact Program.bind_assoc _ _ _

theorem settle_of_background (complete : launch.failure = none)
    (background : run.job.mode = .background) :
    settleJob launcher run table launch =
      (announceJob launcher.context run).bind fun announced =>
        .done ⟨announced.map fun _ => .running, run, table, launch.directory⟩ := by
  simp only [settleJob, concludeJob, complete, background]
  refine (Program.bind_assoc _ _ _).trans (congrArg (Program.bind _) (funext fun announced => ?_))
  cases announced <;> rfl

theorem settle_foreground_returns (complete : launch.failure = none)
    (foreground : run.job.mode = .foreground)
    (returns : (settleJob launcher run table launch).Returns finish result) :
    ∃ waiting reclaiming waited, finish = waiting ++ reclaiming ∧
      (waitStages launcher.patience run.stages).Returns waiting waited ∧ reclaiming.NeverWaits ∧
      result.run = { run with stages := waited } ∧ result.outcome = .ok result.run.lastState := by
  rw [settle_of_foreground complete foreground] at returns
  obtain ⟨waiting, more, waited, rfl, waits, going⟩ := Program.returns_bind_iff.mp returns
  obtain ⟨reclaiming, last, _, rfl, reclaims, ended⟩ := Program.returns_bind_iff.mp going
  obtain ⟨rfl, rfl⟩ := Program.returns_done_iff.mp ended
  rw [List.append_nil]
  exact ⟨waiting, reclaiming, waited, rfl, waits, reclaim_terminal_returns reclaims, rfl, rfl⟩

theorem settle_foreground_can_return (complete : launch.failure = none)
    (foreground : run.job.mode = .foreground) {streams : List (List WaitAnswer)}
    (enough : streams.length = (run.stages.filterMap StageRun.pid).length)
    (telling : ∀ stream ∈ streams,
      (∃ state, WaitAnswer.Tell stream state) ∧ stream.length ≤ launcher.patience) :
    ∃ finish result, (settleJob launcher run table launch).Returns finish result ∧
      finish.waits = ((run.stages.filterMap StageRun.pid).zip streams).flatMap
        fun asked => asked.2.map (asked.1, ·) := by
  obtain ⟨waiting, waited, waits, answered⟩ := wait_stages_can_return enough telling
  obtain ⟨reclaiming, reclaims⟩ := reclaim_terminal_can_return launcher.context run.group
  rw [settle_of_foreground complete foreground]
  refine ⟨waiting ++ reclaiming, _,
    (Program.Returns.bind waits _).trans (Program.Returns.bind reclaims _), ?_⟩
  rw [Trace.waits_append, (reclaim_terminal_returns reclaims).no_waits, List.append_nil, answered]

theorem settle_background_returns (complete : launch.failure = none)
    (background : run.job.mode = .background)
    (returns : (settleJob launcher run table launch).Returns finish result) :
    finish.NeverWaits ∧ result.run = run ∧ ∃ announced,
      (announceJob launcher.context run).Returns finish announced ∧
        result.outcome = announced.map fun _ => .running := by
  rw [settle_of_background complete background] at returns
  obtain ⟨announcing, last, announced, rfl, announces, ended⟩ := Program.returns_bind_iff.mp returns
  obtain ⟨rfl, rfl⟩ := Program.returns_done_iff.mp ended
  rw [List.append_nil]
  refine ⟨?_, rfl, announced, announces, rfl⟩
  intro exchange member pid reportStops isWait
  have isWrite := (announce_job_only_writes launcher.context run).along announces exchange member
  rw [isWait] at isWrite
  cases isWrite

theorem settle_background_can_return (complete : launch.failure = none)
    (background : run.job.mode = .background) :
    ∃ finish result, (settleJob launcher run table launch).Returns finish result ∧
      result.outcome = .ok .running := by
  obtain ⟨announcing, announces⟩ := announce_job_can_return launcher.context run
  rw [settle_of_background complete background]
  exact ⟨announcing, _, Program.Returns.bind announces _, rfl⟩

end

/-- A launched job was waited for: its stages one after the other, each child until its state was
told and no other child, until no stage runs. The job ends as its last stage does. -/
structure EndsAwaited (launch : Launch) (finish : Trace) (result : JobResult) : Prop where
  parts : ∃ waiting reclaiming, finish = waiting ++ reclaiming ∧
    StagesAwaited launch.stages waiting result.run.stages ∧ reclaiming.NeverWaits
  inOrder : finish.told = launch.stages.filterMap StageRun.pid
  sameStages : result.run.stages.map StageRun.stage = launch.stages.map StageRun.stage
  allOver : ∀ run ∈ result.run.stages, run.IsOver
  outcome : result.outcome = .ok result.run.lastState

/-- A launched job was left running: it was not waited for, and its stages are as the launch
has left them. The job counts as running unless a write of its notice was refused, and then it
has failed for that reason. -/
structure EndsRunning (launch : Launch) (finish : Trace) (result : JobResult) : Prop where
  neverWaits : finish.NeverWaits
  sameRuns : result.run.stages = launch.stages
  outcome : (∀ exchange ∈ finish, ¬ exchange.RefusesBytes) ∧ result.outcome = .ok .running ∨
    ∃ refused ∈ finish, ∃ errno, refused.RefusesFor errno ∧
      result.outcome = .error (.transfer errno)

/-- When every stage of a job was launched, none of them has been waited for so far. In the
foreground, whatever answers tell the states of its children, the job is waited for with these
answers, and along every trace that it returns from the stages are waited for in their order until
each of them has come to an end. In the background it is announced and not waited for. -/
theorem launched_job_is_awaited {launcher : Launcher} (table : JobTable) {job : Job} {trace : Trace}
    {launch : Launch}
    (returns : (launchStages (launcher.forJob job) .inherited none job.stages).Returns trace launch)
    (complete : launch.failure = none) :
    (trace.NeverWaits ∧ launch.stages.map StageRun.stage = job.stages ∧
      trace.children = launch.stages.filterMap StageRun.pid ∧
      ∀ run ∈ launch.stages, run.IsLaunched) ∧
    (job.mode = .foreground →
      (∀ streams : List (List WaitAnswer), streams.length = trace.children.length →
        (∀ stream ∈ streams,
          (∃ state, WaitAnswer.Tell stream state) ∧ stream.length ≤ launcher.patience) →
        ∃ finish result, (runJob launcher table job).Returns (trace ++ finish) result ∧
          finish.waits = (trace.children.zip streams).flatMap
            fun asked => asked.2.map (asked.1, ·)) ∧
      ∀ finish result, (runJob launcher table job).Returns (trace ++ finish) result →
        EndsAwaited launch finish result) ∧
    (job.mode = .background →
      (∃ finish result, (runJob launcher table job).Returns (trace ++ finish) result ∧
        result.outcome = .ok .running) ∧
      ∀ finish result, (runJob launcher table job).Returns (trace ++ finish) result →
        EndsRunning launch finish result) := by
  obtain ⟨neverWaits, sameStages, areLaunched⟩ := launch_complete returns complete
  have children := launch_children returns
  have behind (finish : Trace) (result : JobResult) :
      (runJob launcher table job).Returns (trace ++ finish) result ↔
        (settleJob (launcher.forJob job)
          ⟨job, (takeSlot job table).1, launch.group, launch.stages⟩
          (recordGroup (takeSlot job table).2 (takeSlot job table).1 launch.group)
          launch).Returns finish result :=
    Program.returns_bind_append_iff returns
  simp only [behind]
  refine ⟨⟨neverWaits, sameStages, children, areLaunched⟩, fun foreground => ⟨?_, ?_⟩,
    fun background => ⟨?_, ?_⟩⟩
  · intro streams enough telling
    rw [children] at enough ⊢
    exact settle_foreground_can_return complete foreground enough telling
  · intro finish result settles
    obtain ⟨waiting, reclaiming, waited, rfl, waits, quiet, isRun, outcome⟩ :=
      settle_foreground_returns complete foreground settles
    have awaited : StagesAwaited launch.stages waiting result.run.stages := by
      rw [isRun]
      exact wait_stages_returns waits
    refine ⟨⟨waiting, reclaiming, rfl, awaited, quiet⟩, ?_, awaited.keeps_stages,
      awaited.all_over areLaunched, outcome⟩
    rw [Trace.told_append, awaited.told_eq, Trace.told, quiet.no_waits]
    exact List.append_nil _
  · exact settle_background_can_return complete background
  · intro finish result settles
    obtain ⟨quiet, isRun, announced, announces, outcome⟩ :=
      settle_background_returns complete background settles
    refine ⟨quiet, congrArg JobRun.stages isRun, ?_⟩
    rw [outcome]
    obtain ⟨written, decides, rfl⟩ := announce_job_decides announces
    cases decides with
    | accepted all => exact .inl ⟨all, rfl⟩
    | refused member refuses => exact .inr ⟨_, member, _, refuses, rfl⟩

def mixedPipeline : Job where
  text := "cat | cd / | wc"
  mode := .foreground
  stages :=
    [⟨"cat", ["cat"], none, none⟩, ⟨"cd /", ["cd", "/"], none, none⟩, ⟨"wc", ["wc"], none, none⟩]

def mixedPipelineTrace : Trace :=
  [⟨.pipe, .ok (3, 4)⟩, ⟨.flushOutput, .ok ()⟩, ⟨.fork, .ok (some 200)⟩,
    ⟨.joinGroup 200 200, .ok ()⟩, ⟨.close 4, .ok ()⟩, ⟨.pipe, .ok (5, 6)⟩,
    ⟨.changeDirectory "/", .ok ()⟩, ⟨.currentDirectory, .ok "/"⟩, ⟨.close 6, .ok ()⟩,
    ⟨.close 3, .ok ()⟩, ⟨.flushOutput, .ok ()⟩, ⟨.fork, .ok (some 201)⟩,
    ⟨.joinGroup 201 200, .ok ()⟩, ⟨.close 5, .ok ()⟩]

/-- What the shell is told of the two programs: the wait for the first was interrupted and told
that it was resumed before it was stopped, and the second was killed. -/
def mixedPipelineAnswers : List (List WaitAnswer) :=
  [[.failed .interrupted, .resumed, .stopped .tstp], [.killed 9]]

theorem mixed_pipeline_launched : ∃ launch,
    (launchStages (plainLauncher.forJob mixedPipeline) .inherited none
      mixedPipeline.stages).Returns mixedPipelineTrace launch ∧ launch.failure = none :=
  ⟨_, .step (.step (.step (.step (.step (.step (.step (.step (.step (.step (.step (.step (.step
    (.step (.stop _)))))))))))))), rfl⟩

theorem mixed_pipeline_tells : ∀ stream ∈ mixedPipelineAnswers,
    (∃ state, WaitAnswer.Tell stream state) ∧ stream.length ≤ plainLauncher.patience := by
  intro stream member
  rcases List.mem_pair.mp member with rfl | rfl
  · exact ⟨⟨_, .again .interrupted (.again .resumed (.last (.stopped .tstp)))⟩, by decide⟩
  · exact ⟨⟨_, .last (.killed .kill)⟩, by decide⟩

theorem launched_job_is_awaited_mixed :
    ∃ launch finish result,
      (launchStages (plainLauncher.forJob mixedPipeline) .inherited none
        mixedPipeline.stages).Returns mixedPipelineTrace launch ∧ launch.failure = none ∧
      (runJob plainLauncher (.empty 20) mixedPipeline).Returns
        (mixedPipelineTrace ++ finish) result ∧
      finish.waits = [(200, .failed .interrupted), (200, .resumed), (200, .stopped .tstp),
        (201, .killed 9)] ∧
      finish.told = [200, 201] ∧ EndsAwaited launch finish result := by
  obtain ⟨launch, returns, complete⟩ := mixed_pipeline_launched
  obtain ⟨_, foreground, _⟩ := launched_job_is_awaited (.empty 20) returns complete
  obtain ⟨canReturn, awaited⟩ := foreground rfl
  obtain ⟨finish, result, ran, waits⟩ := canReturn mixedPipelineAnswers rfl mixed_pipeline_tells
  exact ⟨launch, finish, result, returns, complete, ran, waits, by rw [Trace.told, waits]; rfl,
    awaited finish result ran⟩

def idleJob : Job where
  text := "true &"
  mode := .background
  stages := [⟨"true", ["true"], none, none⟩]

def idleTrace : Trace :=
  [⟨.flushOutput, .ok ()⟩, ⟨.fork, .ok (some 200)⟩, ⟨.joinGroup 200 200, .ok ()⟩]

/-- A job in the background whose notice is refused has failed, although its program runs. -/
theorem refused_notice_fails_job : ∃ launch finish result,
    (launchStages (plainLauncher.forJob idleJob) .inherited none idleJob.stages).Returns idleTrace
      launch ∧ launch.failure = none ∧ idleJob.mode = .background ∧
    finish = [⟨.write standardOutput "200\n".toUTF8, .error .noSpace⟩] ∧
    (runJob plainLauncher (.empty 20) idleJob).Returns (idleTrace ++ finish) result ∧
    result.outcome ≠ .ok .running := by
  refine ⟨_, _, _, .step (.step (.step (.stop _))), rfl, rfl, rfl,
    .step (.step (.step (.step (.stop _)))), nofun⟩

end JobShell
