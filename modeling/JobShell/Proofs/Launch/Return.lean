import JobShell.Proofs.Builtin.Outcome
import JobShell.Proofs.Launch.Waiting

/-!
# Jobs that come back

Only the builtin `exit` ends the shell. A job without it always comes back to the shell,
whatever the system replies: from every moment the rest of the job can be run to its end.
-/

namespace JobShell

open Unix

set_option autoImplicit false

theorem release_stays (endpoint : Endpoint) : endpoint.release.Stays := by
  cases endpoint with
  | inherited => trivial
  | owned descriptor => exact ⟨rfl, fun _ _ => trivial⟩

theorem redirection_release_stays (redirection : Redirection) : redirection.release.Stays := by
  apply Program.stays_bind
  · exact release_stays redirection.input
  · intro _
    exact release_stays redirection.output

theorem connect_stays (isLast : Bool) : (connect isLast).Stays := by
  cases isLast with
  | true => trivial
  | false => exact ⟨rfl, fun made _ => by cases made <;> trivial⟩

theorem open_side_stays (path : Option String) (access : Access) :
    (Redirection.openSide path access).Stays := by
  cases path with
  | none => trivial
  | some path =>
      apply Program.stays_bind
      · unfold openPath
        split
        · trivial
        · exact ⟨rfl, fun opened _ => by cases opened <;> trivial⟩
      · intro opened
        cases opened <;> trivial

theorem open_for_stays (stage : Stage) : (Redirection.openFor stage).Stays := by
  apply Program.stays_bind
  · exact open_side_stays stage.input .reading
  · intro opened
    cases opened with
    | error failure => trivial
    | ok input =>
        apply Program.stays_bind
        · exact open_side_stays stage.output _
        · intro opened
          cases opened with
          | ok output => trivial
          | error failure =>
              apply Program.stays_bind
              · exact release_stays input
              · intro _
                trivial

theorem start_child_stays (context : Context) (group : Option Pid) (arguments : List String)
    (input output : Descriptor) : (startChild context group arguments input output).Stays := by
  unfold startChild
  cases checkArguments arguments with
  | error failure => trivial
  | ok =>
      refine ⟨rfl, fun flushed _ => ?_⟩
      cases flushed with
      | error errno => trivial
      | ok =>
          refine ⟨rfl, fun forked isFirst => ?_⟩
          rcases forked with errno | (_ | child)
          · trivial
          · cases isFirst
          · trivial

theorem launch_on_stays {launcher : Launcher} {group : Option Pid} {stage : Stage}
    {input output : Descriptor}
    (builtins : ∀ command context, stage.kind = .builtin command →
      (launcher.invoke command context stage.arguments).Stays) :
    (launchOn launcher group stage input output).Stays := by
  unfold launchOn
  cases kind : stage.kind with
  | builtin command =>
      apply Program.stays_bind
      · exact builtins command _ kind
      · intro result
        trivial
  | external =>
      apply Program.stays_bind
      · exact start_child_stays launcher.context group stage.arguments input output
      · intro started
        cases started with
        | error failure => trivial
        | ok child =>
            refine ⟨rfl, fun joined _ => ?_⟩
            cases launcher.context.ownsTerminal with
            | false => trivial
            | true => exact ⟨rfl, fun given _ => trivial⟩

theorem launch_stage_stays {launcher : Launcher} {group : Option Pid} {stage : Stage}
    {input output : Endpoint}
    (builtins : ∀ command context, stage.kind = .builtin command →
      (launcher.invoke command context stage.arguments).Stays) :
    (launchStage launcher group stage input output).Stays := by
  apply Program.stays_bind
  · exact open_for_stays stage
  · intro opened
    cases opened with
    | error failure => trivial
    | ok redirection =>
        apply Program.stays_bind
        · exact launch_on_stays builtins
        · intro launched
          apply Program.stays_bind
          · exact redirection_release_stays redirection
          · intro _
            trivial

theorem launch_stages_stays {launcher : Launcher} {input : Endpoint} {group : Option Pid}
    {stages : List Stage}
    (builtins : ∀ stage ∈ stages, ∀ command context, stage.kind = .builtin command →
      (launcher.invoke command context stage.arguments).Stays) :
    (launchStages launcher input group stages).Stays := by
  induction stages generalizing input group with
  | nil =>
      apply Program.stays_bind
      · exact release_stays input
      · intro _
        trivial
  | cons stage rest ih =>
      rw [List.forall_mem_cons] at builtins
      apply Program.stays_bind
      · exact connect_stays rest.isEmpty
      · intro connected
        rcases connected with failure | ⟨output, next⟩
        · apply Program.stays_bind
          · exact release_stays input
          · intro _
            trivial
        · apply Program.stays_bind
          · exact launch_stage_stays builtins.1
          · intro launched
            cases launched with
            | error failure =>
                apply Program.stays_bind (release_stays next)
                intro _
                apply Program.stays_bind (release_stays output)
                intro _
                apply Program.stays_bind (release_stays input)
                intro _
                trivial
            | ok launched =>
                apply Program.stays_bind (release_stays output)
                intro _
                apply Program.stays_bind (release_stays input)
                intro _
                apply Program.stays_bind (ih builtins.2)
                intro later
                trivial

theorem settle_job_stays {launcher : Launcher} {run : JobRun}
    (background : run.job.mode = .background) (table : JobTable) (launch : Launch) :
    (settleJob launcher run table launch).Stays := by
  cases complete : launch.failure with
  | some failure =>
      simp only [settleJob, complete]
      apply Program.stays_bind
      · unfold reclaimTerminal
        split
        · exact ⟨rfl, fun _ _ => trivial⟩
        · trivial
      · intro _
        trivial
  | none =>
      rw [settle_of_background complete background]
      apply Program.stays_bind
      · apply (announce_job_only_writes launcher.context run).stays
        intro call writes
        cases call <;> first | rfl | cases writes
      · intro _
        trivial

theorem run_job_stays (shell : Shell) (context : Context) (table : JobTable) {job : Job}
    (background : job.mode = .background)
    (noExit : ∀ stage ∈ job.stages, stage.kind ≠ .builtin .exit) :
    (runJob (shell.launcher context) table job).Stays := by
  apply Program.stays_bind
  · apply launch_stages_stays
    intro stage member command among kind
    apply Builtin.invoke_stays Builtin.shell_host_is_quiet
    rintro rfl
    exact noExit stage member kind
  · intro launch
    exact settle_job_stays background _ launch

end JobShell
