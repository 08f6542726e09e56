import JobShell.Proofs.Job.Asking
import JobShell.Proofs.Launch.Notice
import JobShell.Proofs.Launch.Wiring

/-!
# A job around its launch

A job is launched and then settled. Settling waits, writes to the shell's own output and
takes the terminal back, so all files and processes of a job come from its launch.
-/

namespace JobShell

open Unix

set_option autoImplicit false

def Unix.Call.settles (output : Descriptor) : Call → Bool
  | .write target _ => target == output
  | .wait _ _ | .pause | .giveTerminal _ => true
  | _ => false

theorem reclaim_terminal_settles (output : Descriptor) (context : Context) (group : Option Pid) :
    (reclaimTerminal context group).OnlyCalls (Call.settles output) := by
  unfold reclaimTerminal
  split
  · exact ⟨rfl, fun _ => trivial⟩
  · exact trivial

theorem wait_stages_settles (output : Descriptor) (patience : Nat) (stages : List StageRun) :
    (waitStages patience stages).OnlyCalls (Call.settles output) := by
  induction stages with
  | nil => exact trivial
  | cons run rest ih =>
      unfold waitStages
      split
      · exact Program.only_calls_bind ih fun _ => trivial
      · refine Program.only_calls_bind (await_child_only_calls rfl rfl _) fun state => ?_
        exact Program.only_calls_bind ih fun _ => trivial

theorem conclude_job_settles (launcher : Launcher) (run : JobRun) :
    (concludeJob launcher run).OnlyCalls (Call.settles launcher.context.output.toNat) := by
  unfold concludeJob
  split
  · refine Program.only_calls_bind (wait_stages_settles _ _ _) fun stages => ?_
    exact Program.only_calls_bind (reclaim_terminal_settles _ _ _) fun _ => trivial
  · refine Program.only_calls_bind (announce_job_only_calls
      (fun _ => beq_self_eq_true launcher.context.output.toNat) run) fun announced => ?_
    cases announced <;> exact trivial

theorem settle_job_settles (launcher : Launcher) (run : JobRun) (table : JobTable)
    (launch : Launch) :
    (settleJob launcher run table launch).OnlyCalls
      (Call.settles launcher.context.output.toNat) := by
  unfold settleJob
  split
  · exact Program.only_calls_bind (reclaim_terminal_settles _ _ _) fun _ => trivial
  · exact Program.only_calls_bind (conclude_job_settles _ _) fun _ => trivial

section

variable {start : Holdings} {launcher : Launcher} {table : JobTable} {job : Job} {trace : Trace}
  {request : Call} {next : request.Reply → Program JobResult}

/-- A call of a job is one of its launch, which the launch goes on with, or it is made when
the launch has returned. -/
theorem run_job_cases (follows : (runJob launcher table job).Follows trace (.call request next)) :
    (∃ inner behind, (launchStages (launcher.forJob job) .inherited none job.stages).Follows trace
        (.call request inner) ∧ next = fun reply => (inner reply).bind behind) ∨
      ∃ before after launch, trace = before ++ after ∧
        (launchStages (launcher.forJob job) .inherited none job.stages).Returns before launch ∧
        (∀ exchange ∈ after, exchange.request.settles launcher.context.output.toNat = true) ∧
        request.settles launcher.context.output.toNat = true := by
  rcases Program.follows_bind_cases follows with
    ⟨asked, inner, inside, same⟩ | ⟨before, after, launch, rfl, returns, behind⟩
  · cases same
    exact .inl ⟨inner, _, inside, rfl⟩
  · refine .inr ⟨before, after, launch, rfl, returns, ?_, ?_⟩
    · exact (settle_job_settles (launcher.forJob job) _ _ launch).along behind
    · exact (settle_job_settles (launcher.forJob job) _ _ launch).asks behind

theorem run_job_returns {result : JobResult}
    (returns : (runJob launcher table job).Returns trace result) :
    ∃ launching settling launch, trace = launching ++ settling ∧
      (launchStages (launcher.forJob job) .inherited none job.stages).Returns launching launch ∧
      (settleJob (launcher.forJob job)
        ⟨job, (takeSlot job table).1, launch.group, launch.stages⟩
        (recordGroup (takeSlot job table).2 (takeSlot job table).1 launch.group)
        launch).Returns settling result :=
  Program.returns_bind_iff.mp returns

theorem settle_job_returns {run : JobRun} {launch : Launch} {result : JobResult}
    (returns : (settleJob launcher run table launch).Returns trace result) :
    result.table = table ∧ trace.children = [] := by
  have only := (settle_job_settles launcher run table launch).along returns
  refine ⟨?_, Trace.children_of_not_fork fun exchange member isFork => ?_⟩
  · unfold settleJob at returns
    split at returns
    · obtain ⟨_, _, _, _, _, ended⟩ := Program.returns_bind_iff.mp returns
      rw [(Program.returns_done_iff.mp ended).2]
    · obtain ⟨_, _, _, _, _, ended⟩ := Program.returns_bind_iff.mp returns
      rw [(Program.returns_done_iff.mp ended).2]
  · have settles := only exchange member
    rw [isFork] at settles
    cases settles

theorem launch_of_builtin {stage : Stage} {command : Builtin} (kind : stage.kind = .builtin command)
    (noInput : stage.input = none) (noOutput : stage.output = none) :
    launchStages launcher .inherited none [stage] =
      (launcher.invoke command (launcher.context.withEndpoints standardInput standardOutput)
        stage.arguments).bind fun result =>
          .done ⟨none, none, [⟨stage, none, .done result.outcome.exitCode⟩], result.directory⟩ := by
  have opens : Redirection.openFor stage = .done (.ok ⟨.inherited, .inherited⟩) := by
    simp only [Redirection.openFor, Redirection.openSide, noInput, noOutput]
    rfl
  have launches : launchStage launcher none stage .inherited .inherited =
      (launcher.invoke command (launcher.context.withEndpoints standardInput standardOutput)
        stage.arguments).bind fun result =>
          .done (.ok ⟨⟨stage, none, .done result.outcome.exitCode⟩, none, result.directory⟩) := by
    simp only [launchStage, opens, launchOn, kind]
    exact Program.bind_assoc _ _ _
  change Program.bind (launchStage launcher none stage .inherited .inherited) _ = _
  rw [launches]
  exact Program.bind_assoc _ _ _

theorem settle_of_builtin {text : String} {stage : Stage} {code : Int}
    {directory : Option String} :
    settleJob launcher ⟨⟨text, .foreground, [stage]⟩, none, none, [⟨stage, none, .done code⟩]⟩ table
        ⟨none, none, [⟨stage, none, .done code⟩], directory⟩ =
      .done ⟨.ok (.done code),
        ⟨⟨text, .foreground, [stage]⟩, none, none, [⟨stage, none, .done code⟩]⟩, table,
        directory⟩ := by
  have noTerminal : reclaimTerminal launcher.context none = .done () := by
    simp [reclaimTerminal]
    rfl
  simp only [settleJob, concludeJob, waitStages, noTerminal]
  rfl

theorem run_job_of_builtin {text : String} {stage : Stage} {command : Builtin}
    (kind : stage.kind = .builtin command) (noInput : stage.input = none)
    (noOutput : stage.output = none) :
    runJob launcher table ⟨text, .foreground, [stage]⟩ =
      (launcher.invoke command
        (({ launcher.context with foreground := true } : Context).withEndpoints standardInput
          standardOutput) stage.arguments).bind fun result =>
        .done ⟨.ok (.done result.outcome.exitCode),
          ⟨⟨text, .foreground, [stage]⟩, none, none,
            [⟨stage, none, .done result.outcome.exitCode⟩]⟩,
          table, result.directory⟩ := by
  simp only [runJob, takeSlot, launch_of_builtin kind noInput noOutput]
  refine (Program.bind_assoc _ _ _).trans (congrArg (Program.bind _) (funext fun result => ?_))
  exact settle_of_builtin

theorem quiet_of_settles {output : Descriptor} {request : Call}
    (settles : request.settles output = true) :
    Holdings.isQuiet request = true := by
  cases request <;> first | rfl | cases settles

theorem returned_is_first {group : Option Pid} {stages : List Stage} {launch : Launch}
    (returns : (launchStages launcher .inherited group stages).Returns trace launch)
    (admitted : start.Admits trace) : trace.inChild = false := by
  obtain ⟨opened, born, stands, _⟩ := (launch_meets_along returns admitted).stands
  exact stands.isShell

theorem job_leaves_first : (runJob launcher table job).LeavesFirst start := by
  intro trace request next follows admitted isChild
  rcases run_job_cases follows with
    ⟨inner, behind, inside, rfl⟩ | ⟨before, after, launch, rfl, returns, settled, settles⟩
  · exact launch_leaves_first trace request inner inside admitted isChild
  · have settledForks : ∀ exchange ∈ after, exchange.forks = false := by
      intro exchange member
      exact Trace.forks_not_of_quiet (quiet_of_settles (settled exchange member))
    have isFirst := returned_is_first returns ((start.admits_append_iff before after).mp admitted).1
    rw [Trace.in_child_of_not_forks settledForks, isFirst] at isChild
    cases isChild

end

end JobShell
