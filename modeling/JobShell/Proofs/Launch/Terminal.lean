import JobShell.Proofs.Launch.Group
import JobShell.Proofs.System.Terminal

/-!
# The terminal after a job

An interactive shell gives the terminal to the group of a foreground job and takes it back
at the end. A job that was launched and waited for leaves the terminal to the shell for good.
When the launch has failed, nobody has waited for the stages that were started before, and
one of them may be late: it takes the terminal away from the shell again.
-/

namespace JobShell

open Unix

set_option autoImplicit false

section

variable {launcher : Launcher} {table : JobTable} {job : Job} {start : Holdings} {capacity : Nat}
  {pid : Pid} {session : Session JobResult} {shell : Member JobResult}
  {stages : List (Member JobResult)} {result : JobResult}

theorem at_home_of_success (owned : (launcher.forJob job).context.ownsTerminal = true)
    (sound : Sound (runJob launcher table job) start session.world shell stages)
    (watched : session.Watched launcher.context.shellGroup shell stages)
    (returned : shell.activity = .running (.done result)) (accepted : shell.trace.NoneRefused)
    {state : StageState} (succeeded : result.outcome = .ok state) :
    session.control.foreground = launcher.context.shellGroup ∧
      ∀ stage ∈ stages, ¬ stage.IsLate := by
  have isMember : shell ∈ session.world.members := by
    rw [sound.members]
    exact List.mem_cons_self
  have returns := ((sound.traces shell isMember).of_running returned).2.1
  have leaves := goal_of_meets (run_job_disciplined launcher table job) returns
  rcases leaves.reclaimed state succeeded owned with noChild | reclaimed
  · refine ⟨watched.childless noChild, fun stage among => ?_⟩
    have isChild := sound.pid_mem among
    rw [noChild] at isChild
    cases isChild
  · exact ⟨watched.reclaimed reclaimed accepted,
      fun stage among => watched.waited stage among (reclaimed.waited (sound.pid_mem among))⟩

/-- For every foreground job of an interactive shell that has come to its end, whatever the
shell and the stages did first: when the job has succeeded, the terminal is the shell's and no
stage is late. And this, the terminal with the shell and no late stage, is all that it needs
for the terminal to be the shell's whenever every stage has become its program or has ended,
and it needs no less. -/
theorem terminal_comes_back_unless_late
    (owned : (launcher.forJob job).context.ownsTerminal = true)
    (run : Session.Run capacity
      (.initial start pid launcher.context.shellGroup (runJob launcher table job)) session)
    (members : session.world.members = shell :: stages)
    (returned : shell.activity = .running (.done result)) (accepted : shell.trace.NoneRefused)
    (ownGroup : launcher.context.shellGroup ∉ shell.trace.children) :
    (∀ state, result.outcome = .ok state →
      session.control.foreground = launcher.context.shellGroup ∧
        ∀ stage ∈ stages, ¬ stage.IsLate) ∧
    ((∀ later, Session.Run capacity session later → later.IsSettled →
        later.control.foreground = launcher.context.shellGroup) ↔
      session.control.foreground = launcher.context.shellGroup ∧
        ∀ stage ∈ stages, ¬ stage.IsLate) := by
  have disciplined : (runJob launcher table job).Disciplined true :=
    owned ▸ disciplined_of_meets (run_job_disciplined launcher table job)
  obtain ⟨shell', stages', sound, grouped, watched⟩ :=
    Session.Watched.of_run job_leaves_first disciplined run
  obtain ⟨rfl, rfl⟩ := List.cons.inj (sound.members.symm.trans members)
  refine ⟨fun state => at_home_of_success owned sound watched returned accepted, ?_, ?_⟩
  · intro comesBack
    constructor
    · obtain ⟨later, goesOn, same, settled⟩ := Session.exists_settled capacity members
      rw [← comesBack later goesOn settled, same]
    · rintro stage among ⟨isRunning, before, own, forked, notGiven⟩
      obtain ⟨between, after, rfl⟩ := List.append_of_mem among
      have returnsFirst : ∀ trace value, (runJob launcher table job).Returns trace value →
          trace.inChild = false := fun trace value returns =>
        (goal_of_meets (run_job_disciplined launcher table job) returns).isFirst
      obtain ⟨middle, others, leader, goesOn, membersMiddle, isLeader, isForeground⟩ :=
        Session.exists_late_gives job_leaves_first disciplined returnsFirst run members isRunning
          forked notGiven
      obtain ⟨later, goesOnLater, same, settled⟩ :=
        Session.exists_settled capacity membersMiddle
      have isShells := comesBack later (goesOn.trans goesOnLater) settled
      rw [same, isForeground] at isShells
      exact ownGroup (isShells ▸ Trace.leader_mem isLeader)
  · rintro ⟨isForeground, noneLate⟩ later goesOn -
    have atHome : session.AtHome launcher.context.shellGroup shell' stages' := by
      refine ⟨fun request next asks => ?_, isForeground, noneLate⟩
      rw [returned] at asks
      cases asks
    obtain ⟨_, _, -, still⟩ := atHome.run job_leaves_first disciplined sound goesOn
    exact still.foreground

end

def interactiveLauncher : Launcher :=
  plainShell.launcher (plainShell.context true)

theorem cat_comes_to_its_end :
    Session.Reaches 1
      (fun session => ∃ shell stages result, session.world.members = shell :: stages ∧
        shell.activity = .running (.done result) ∧ shell.trace.NoneRefused ∧
        100 ∉ shell.trace.children ∧ ∃ state, result.outcome = .ok state)
      (.initial .standard 100 100 (runJob interactiveLauncher (.empty 20) catJob)) := by
  refine .step (.answer [] .flushOutput (.ok ()) rfl rfl rfl trivial rfl rfl) ?_
  refine .step (.call (@Step.fork _ _ _ [] _ _ _ 200 rfl rfl (by simp)) rfl rfl rfl
    ⟨by decide, rfl⟩) ?_
  refine .step (.answer [] (.joinGroup 200 200) (.ok ()) rfl rfl rfl trivial rfl
    (Session.governs_join (by decide) rfl (by decide) ?_)) ?_
  · intro member among isStage
    rcases List.mem_pair.mp among with rfl | rfl <;> exact ⟨_, rfl⟩
  refine .step (.answer [] (.giveTerminal 200) (.ok ()) rfl rfl rfl trivial rfl rfl) ?_
  refine .step (.other (@Step.finish _ _ _ [_] _ _ _ rfl rfl (.inl (by simp))) rfl) ?_
  refine .step (.answer [] (.wait 200 true) (.exited 0) rfl rfl rfl trivial rfl
    (Session.governs_exited rfl (by decide) ?_ _ _)) ?_
  · intro member among isStage
    rcases List.mem_pair.mp among with rfl | rfl
    · cases isStage
    · rintro ⟨_, runs⟩
      cases runs
  refine .step (.answer [] (.giveTerminal 100) (.ok ()) rfl rfl rfl trivial rfl rfl) ?_
  exact .here ⟨_, _, _, rfl, rfl, by decide, by decide, _, rfl⟩

theorem terminal_comes_back_unless_late_cat :
    Session.Reaches 1
      (fun session => ∀ later, Session.Run 1 session later → later.IsSettled →
        later.control.foreground = 100)
      (.initial .standard 100 100 (runJob interactiveLauncher (.empty 20) catJob)) := by
  obtain ⟨session, run, shell, stages, result, members, returned, accepted, ownGroup, state,
    succeeded⟩ := cat_comes_to_its_end
  obtain ⟨whenSucceeded, comesBack⟩ :=
    terminal_comes_back_unless_late rfl run members returned accepted ownGroup
  exact ⟨session, run, comesBack.mpr (whenSucceeded state succeeded)⟩

def catToMissingFile : Job where
  text := "cat | sort < gone"
  mode := .foreground
  stages := [⟨"cat", ["cat"], none, none⟩, ⟨"sort < gone", ["sort"], some "gone", none⟩]

/-- The shell takes the terminal back when the launch has failed, and only then the first
stage gives it to the job and becomes the program. -/
theorem missing_file_loses_terminal :
    Session.Reaches 1
      (fun session => ∃ shell stage result, session.world.members = [shell, stage] ∧
        shell.activity = .running (.done result) ∧ shell.trace.NoneRefused ∧
        stage.trace.NoneRefused ∧ stage.HasStarted ∧ session.IsSettled ∧
        session.control.foreground ≠ interactiveLauncher.context.shellGroup)
      (.initial .standard 100 100
        (runJob interactiveLauncher (.empty 20) catToMissingFile)) := by
  refine .step (.answer [] .pipe (.ok (3, 4)) rfl rfl rfl ⟨rfl, rfl, by decide⟩ rfl rfl) ?_
  refine .step (.answer [] .flushOutput (.ok ()) rfl rfl rfl trivial rfl rfl) ?_
  refine .step (.call (@Step.fork _ _ _ [] _ _ _ 200 rfl rfl (by simp)) rfl rfl rfl
    ⟨by decide, rfl⟩) ?_
  refine .step (.answer [] (.joinGroup 200 200) (.ok ()) rfl rfl rfl trivial rfl
    (Session.governs_join (by decide) rfl (by decide) ?_)) ?_
  · intro member among isStage
    rcases List.mem_pair.mp among with rfl | rfl <;> exact ⟨_, rfl⟩
  refine .step (.answer [] (.giveTerminal 200) (.ok ()) rfl rfl rfl trivial rfl rfl) ?_
  refine .step (.answer [] (.close 4) (.ok ()) rfl rfl rfl trivial rfl rfl) ?_
  refine .step (.answer [] (.openFile "gone" .reading) (.error .noEntry) rfl rfl rfl trivial rfl
    rfl) ?_
  refine .step (.answer [] (.close 3) (.ok ()) rfl rfl rfl trivial rfl rfl) ?_
  refine .step (.answer [] (.giveTerminal 100) (.ok ()) rfl rfl rfl trivial rfl rfl) ?_
  refine .step (.answer [_] .ownPid (200 : Int) rfl rfl rfl trivial rfl ⟨rfl, rfl⟩) ?_
  refine .step (.answer [_] (.joinGroup 0 200) (.ok ()) rfl rfl rfl trivial rfl
    ⟨⟨by decide, .inl rfl, .inl rfl⟩, rfl⟩) ?_
  refine .step (.answer [_] (.giveTerminal 200) (.ok ()) rfl rfl rfl trivial rfl rfl) ?_
  refine .step (.answer [_] (.setSignals _ _) (.ok ()) rfl rfl rfl trivial rfl rfl) ?_
  refine .step (.answer [_] (.duplicate 4 1) (.ok ()) rfl rfl rfl rfl rfl rfl) ?_
  refine .step (.answer [_] (.close 4) (.ok ()) rfl rfl rfl trivial rfl rfl) ?_
  refine .step (.other (@Step.execute _ _ _ [_] _ _ _ _ rfl rfl) rfl) ?_
  refine .here ⟨_, _, _, rfl, rfl, by decide, by decide, ⟨_, _, rfl⟩, ?_, by decide⟩
  intro child among
  rw [List.mem_singleton.mp among]
  rintro ⟨_, runs⟩
  cases runs

end JobShell
