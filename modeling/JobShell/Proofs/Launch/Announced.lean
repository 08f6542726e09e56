import JobShell.Proofs.Job.Taken
import JobShell.Proofs.Launch.Return

/-!
# How a background job is announced

The notice of a background job is put together from three things that are known at different
times: the slot before the launch, the group from the first external stage on and the process
of the last stage at the end. They are the same in the table, in the job and in the notice.
-/

namespace JobShell

open Unix

set_option autoImplicit false

def pidNotice (representative : Option Pid) : String :=
  match representative with
  | some pid => toString pid ++ "\n"
  | none => ""

def slotNotice (slot : Option Nat) (group : Option Pid) : String :=
  match slot with
  | some slot => "[" ++ toString slot ++ "] " ++ toString (group.getD 0) ++ "\n"
  | none => ""

theorem JobRun.notices_text (run : JobRun) :
    String.join (run.notices.map (· ++ "\n")) =
      pidNotice run.representative ++ slotNotice run.slot run.group := by
  unfold notices
  cases run.representative with
  | none => cases run.slot <;> simp [pidNotice, slotNotice, slotLine]
  | some pid => cases run.slot <;> simp [pidNotice, slotNotice, slotLine]

theorem announce_job_sends {context : Context} {run : JobRun} {trace : Trace}
    (returns : (announceJob context run).Returns trace (.ok ())) :
    trace.sent context.output.toNat =
      (pidNotice run.representative ++ slotNotice run.slot run.group).toUTF8 := by
  rw [announce_job_eq] at returns
  rw [announce_all_sends returns, JobRun.notices_text]

def Job.EndsExternal (job : Job) : Prop :=
  ∃ last, job.stages.getLast? = some last ∧ last.kind = .external

/-- Every stage of a background job was launched. Then the shell writes to its output only,
and what it writes names the process of the last stage, which is the child that was forked last,
and the slot with the group that is stored there. -/
structure Announced (output : Descriptor) (job : Job) (launching : Trace) (launch : Launch)
    (finish : Trace) (result : JobResult) : Prop where
  inFull : launch.stages.map StageRun.stage = job.stages ∧ ∀ run ∈ launch.stages, run.IsLaunched
  lastExternal : job.EndsExternal →
    ∃ pid, launching.children.getLast? = some pid ∧ result.run.representative = some pid
  lastBuiltin : ¬ job.EndsExternal → result.run.representative = none
  groupOfNone : launch.group = none ↔ ∀ stage ∈ job.stages, stage.kind ≠ .external
  writesOnly : ∀ exchange ∈ finish, exchange.request.writesTo output = true
  notice : (∀ exchange ∈ finish, ¬ exchange.RefusesBytes) →
    result.outcome = .ok .running ∧
      finish.sent output = (pidNotice result.run.representative ++
        slotNotice result.run.slot
          ((result.run.slot.bind result.table.get?).bind JobEntry.group)).toUTF8

section

variable {launcher : Launcher} {group : Option Pid} {stages : List Stage} {launching : Trace}
  {launch : Launch}

theorem StageRun.IsLaunched.pid_isSome {run : StageRun} (launched : run.IsLaunched) :
    run.pid.isSome = true ↔ run.stage.kind = .external := by
  unfold StageRun.IsLaunched at launched
  cases kind : run.stage.kind with
  | external =>
      rw [kind] at launched
      obtain ⟨child, isChild, _⟩ := launched
      simp [isChild]
  | builtin command =>
      rw [kind] at launched
      simp [launched.1]

theorem group_of_none {input : Endpoint}
    (returns : (launchStages launcher input none stages).Returns launching launch)
    (complete : launch.failure = none) :
    launch.group = none ↔ ∀ stage ∈ stages, stage.kind ≠ .external := by
  obtain ⟨_, sameStages, areLaunched⟩ := launch_complete returns complete
  rw [launch_group returns, Option.none_or, List.head?_eq_none_iff, launch_children returns,
    List.filterMap_eq_nil_iff, ← sameStages, List.forall_mem_map]
  apply forall₂_congr
  intro run member
  rw [ne_eq, ← (areLaunched run member).pid_isSome]
  simp

theorem last_of_filterMap {α β : Type} {values : List α} {value : α} {found : β}
    {find : α → Option β} (last : values.getLast? = some value) (finds : find value = some found) :
    (values.filterMap find).getLast? = some found := by
  obtain ⟨front, rfl⟩ := List.getLast?_eq_some_iff.mp last
  simp [finds]

theorem representative_of_launch {job : Job} (slot : Option Nat) {input : Endpoint}
    (returns : (launchStages launcher input group job.stages).Returns launching launch)
    (complete : launch.failure = none) :
    (job.EndsExternal → ∃ pid, launching.children.getLast? = some pid ∧
      JobRun.representative ⟨job, slot, launch.group, launch.stages⟩ = some pid) ∧
    (¬ job.EndsExternal →
      JobRun.representative ⟨job, slot, launch.group, launch.stages⟩ = none) := by
  obtain ⟨_, sameStages, areLaunched⟩ := launch_complete returns complete
  have lastStage : job.stages.getLast? = launch.stages.getLast?.map StageRun.stage := by
    rw [← sameStages, List.getLast?_map]
  unfold JobRun.representative Job.EndsExternal
  rw [lastStage]
  cases last : launch.stages.getLast? with
  | none => simp
  | some run =>
      have launched := (areLaunched run (List.mem_of_getLast? last)).pid_isSome
      constructor
      · rintro ⟨_, same, kind⟩
        cases same
        obtain ⟨pid, isChild⟩ := Option.isSome_iff_exists.mp (launched.mpr kind)
        rw [launch_children returns]
        exact ⟨pid, last_of_filterMap last isChild, isChild⟩
      · intro notExternal
        apply Option.not_isSome_iff_eq_none.mp
        intro hasChild
        exact notExternal ⟨run.stage, rfl, launched.mp hasChild⟩

end

theorem JobTable.Takes.entry {table after : JobTable} {entry : JobEntry} {slot : Option Nat}
    (takes : table.Takes entry slot after) :
    slotNotice slot ((slot.bind after.get?).bind JobEntry.group) = slotNotice slot entry.group := by
  cases takes with
  | full => rfl
  | slot lowest held others sameSize => simp [held]

section

variable {launcher : Launcher} {table : JobTable} {job : Job} {launching finish : Trace}
  {launch : Launch} {result : JobResult}

theorem announced_of_settled (background : job.mode = .background)
    (returns : (launchStages (launcher.forJob job) .inherited none job.stages).Returns launching
      launch)
    (complete : launch.failure = none)
    (settles : (settleJob (launcher.forJob job)
      ⟨job, (takeSlot job table).1, launch.group, launch.stages⟩
      (recordGroup (takeSlot job table).2 (takeSlot job table).1 launch.group)
      launch).Returns finish result) :
    Announced launcher.context.output.toNat job launching launch finish result := by
  obtain ⟨_, sameStages, areLaunched⟩ := launch_complete returns complete
  have takes := record_group_takes background table launch.group
  rw [settle_of_background complete background] at settles
  obtain ⟨announcing, rest, written, rfl, announces, ended⟩ := Program.returns_bind_iff.mp settles
  obtain ⟨rfl, rfl⟩ := Program.returns_done_iff.mp ended
  rw [List.append_nil]
  have representative := representative_of_launch (takeSlot job table).1 returns complete
  constructor
  · exact ⟨sameStages, areLaunched⟩
  · exact representative.1
  · exact representative.2
  · exact group_of_none returns complete
  · exact (announce_job_only_writes _ _).along announces
  · intro accepted
    obtain ⟨decided, decides, rfl⟩ := announce_job_decides announces
    obtain rfl := decides.succeeds accepted
    exact ⟨rfl, takes.entry ▸ announce_job_sends announces⟩

theorem silent_of_failed {run : JobRun} {failure : ShellError} (background : job.mode = .background)
    (failed : launch.failure = some failure)
    (settles : (settleJob (launcher.forJob job) run table launch).Returns finish result) :
    finish = [] ∧ result.outcome = .error failure ∧ result.run = run := by
  have noTerminal : (launcher.forJob job).context.ownsTerminal = false := by
    simp [Context.ownsTerminal, Launcher.forJob, Job.isForeground, background]
  simp only [settleJob, failed, reclaimTerminal, noTerminal] at settles
  obtain ⟨rfl, rfl⟩ := Program.returns_done_iff.mp settles
  exact ⟨rfl, rfl, rfl⟩

theorem run_of_settled {slot : Option Nat} {group : Option Pid} {stages : List StageRun}
    (background : job.mode = .background)
    (settles : (settleJob (launcher.forJob job) ⟨job, slot, group, stages⟩ table launch).Returns
      finish result) :
    result.run = ⟨job, slot, group, stages⟩ := by
  cases failed : launch.failure with
  | some failure => exact (silent_of_failed background failed settles).2.2
  | none => exact (settle_background_returns failed background settles).2.1

end

/-- A background job without `exit` always comes back to the shell, whatever the table holds,
and takes the lowest free slot or none. When all its stages were launched it is announced, and
when one could not be launched nothing is written. -/
theorem background_job_is_announced (shell : Shell) (context : Context) (table : JobTable)
    {job : Job} (background : job.mode = .background)
    (noExit : ∀ stage ∈ job.stages, stage.kind ≠ .builtin .exit) :
    (∀ trace rest, (runJob (shell.launcher context) table job).Follows trace rest →
      trace.inChild = false →
        ∃ more result, (runJob (shell.launcher context) table job).Returns (trace ++ more) result) ∧
    (∀ launching launch,
      (launchStages ((shell.launcher context).forJob job) .inherited none job.stages).Returns
        launching launch →
      ∃ finish result,
        (runJob (shell.launcher context) table job).Returns (launching ++ finish) result) ∧
    ∀ trace result, (runJob (shell.launcher context) table job).Returns trace result →
      ∃ launching finish launch, trace = launching ++ finish ∧
        (launchStages ((shell.launcher context).forJob job) .inherited none job.stages).Returns
          launching launch ∧
        table.Takes ⟨job.text, launch.group⟩ result.run.slot result.table ∧
        result.run = ⟨job, result.run.slot, launch.group, launch.stages⟩ ∧
        (launch.failure = none →
          Announced context.output.toNat job launching launch finish result) ∧
        ∀ failure, launch.failure = some failure →
          finish = [] ∧ result.outcome = .error failure := by
  refine ⟨?_, ?_, ?_⟩
  · intro trace rest follows isFirst
    exact (run_job_stays shell context table background noExit).can_go_on follows isFirst
  · intro launching launch returns
    have settles : (settleJob ((shell.launcher context).forJob job)
        ⟨job, (takeSlot job table).1, launch.group, launch.stages⟩
        (recordGroup (takeSlot job table).2 (takeSlot job table).1 launch.group) launch).Stays :=
      settle_job_stays background _ launch
    obtain ⟨finish, result, ends⟩ := settles.can_return
    exact ⟨finish, result, (Program.returns_bind_append_iff returns).mpr ends⟩
  · intro trace result returns
    obtain ⟨launching, finish, launch, made, launches, settles⟩ := run_job_returns returns
    have sameRun := run_of_settled background settles
    refine ⟨launching, finish, launch, made, launches, ?_, ?_, ?_, ?_⟩
    · rw [sameRun, (settle_job_returns settles).1]
      exact record_group_takes background table launch.group
    · rw [sameRun]
    · intro complete
      exact announced_of_settled background launches complete settles
    · intro failure failed
      obtain ⟨silent, outcome, _⟩ := silent_of_failed background failed settles
      exact ⟨silent, outcome⟩

def builtinLastJob : Job where
  text := "cat | cd / &"
  mode := .background
  stages := [⟨"cat", ["cat"], none, none⟩, ⟨"cd /", ["cd", "/"], none, none⟩]

def builtinLastTrace : Trace :=
  [⟨.pipe, .ok (3, 4)⟩, ⟨.flushOutput, .ok ()⟩, ⟨.fork, .ok (some 200)⟩,
    ⟨.joinGroup 200 200, .ok ()⟩, ⟨.close 4, .ok ()⟩, ⟨.changeDirectory "/", .ok ()⟩,
    ⟨.currentDirectory, .ok "/"⟩, ⟨.close 3, .ok ()⟩, ⟨.write 1 "[1] 200\n".toUTF8, .ok 8⟩]

theorem background_job_is_announced_builtin_last :
    builtinLastJob.mode = .background ∧
      (∀ stage ∈ builtinLastJob.stages, stage.kind ≠ .builtin .exit) ∧
      ∃ result launching finish launch, builtinLastTrace = launching ++ finish ∧
        (runJob (plainShell.launcher (plainShell.context false)) (.empty 1) builtinLastJob).Returns
          builtinLastTrace result ∧
        Announced standardOutput builtinLastJob launching launch finish result ∧
        finish.sent standardOutput = "[1] 200\n".toUTF8 := by
  have noExit : ∀ stage ∈ builtinLastJob.stages, stage.kind ≠ .builtin .exit := by decide
  obtain ⟨result, returns, running, notice⟩ : ∃ result,
      (runJob (plainShell.launcher (plainShell.context false)) (.empty 1) builtinLastJob).Returns
        builtinLastTrace result ∧ result.outcome = .ok .running ∧
      pidNotice result.run.representative ++ slotNotice result.run.slot
        ((result.run.slot.bind result.table.get?).bind JobEntry.group) = "[1] 200\n" :=
    ⟨_, .step (.step (.step (.step (.step (.step (.step (.step (.step (.stop _))))))))), rfl, rfl⟩
  obtain ⟨launching, finish, launch, made, _, _, _, announced, silent⟩ :=
    (background_job_is_announced plainShell (plainShell.context false) (.empty 1) rfl noExit).2.2
      builtinLastTrace result returns
  have complete : launch.failure = none := by
    cases failed : launch.failure with
    | none => rfl
    | some failure =>
        have outcome := (silent failure failed).2
        rw [running] at outcome
        cases outcome
  have accepts : ∀ exchange ∈ builtinLastTrace, ¬ exchange.RefusesBytes := by
    simp only [builtinLastTrace, List.forall_mem_cons]
    exact ⟨nofun, nofun, nofun, nofun, nofun, nofun, nofun, nofun, nofun, by simp⟩
  rw [made, List.forall_mem_append] at accepts
  have sent := ((announced complete).notice accepts.2).2
  rw [notice] at sent
  exact ⟨rfl, noExit, result, launching, finish, launch, made, returns, announced complete, sent⟩

end JobShell
