import JobShell.Proofs.Builtin.Outcome
import JobShell.Proofs.Launch.Failure

/-!
# Where a shell is and where it believes to be

The working directory belongs to the process, and the shell keeps a copy of its path. The copy
is renewed when a change of directory has been made and the new directory has told its path. A
directory that was entered and did not tell its path leaves the copy behind, and this is the
only way in which the two come apart.
-/

namespace JobShell

open Unix

set_option autoImplicit false

namespace Unix

def Call.travels : Call → Bool
  | .changeDirectory _ | .currentDirectory => true
  | _ => false

namespace Trace

def Settled (trace : Trace) : Prop :=
  ∀ exchange ∈ trace, exchange.request.travels = false

/-- The path that the working directory has told last. -/
def located : Trace → Option String
  | [] => none
  | ⟨.currentDirectory, .ok path⟩ :: later => (located later).or (some path)
  | _ :: later => located later

/-- A process in one directory is led to another one by the calls of a trace. A change that
succeeds leads anywhere, as the system decides where a path leads. -/
inductive Leads : String → Trace → String → Prop where
  | stays (here : String) : Leads here [] here
  | moved {here there final path : String} {later : Trace} (onward : Leads there later final) :
      Leads here (⟨.changeDirectory path, .ok ()⟩ :: later) final
  | named {here final : String} {later : Trace} (onward : Leads here later final) :
      Leads here (⟨.currentDirectory, .ok here⟩ :: later) final
  | other {here final : String} {exchange : Exchange} {later : Trace}
      (notMoved : ∀ path, exchange ≠ ⟨.changeDirectory path, .ok ()⟩)
      (notNamed : ∀ path, exchange ≠ ⟨.currentDirectory, .ok path⟩)
      (onward : Leads here later final) : Leads here (exchange :: later) final

/-- Every directory that was entered has told its path at once. -/
def ReadsBack (trace : Trace) : Prop :=
  ∀ before path after, trace = before ++ ⟨.changeDirectory path, .ok ()⟩ :: after →
    ∃ directory rest, after = ⟨.currentDirectory, .ok directory⟩ :: rest

variable {here final : String} {trace first second : Trace}

theorem settled_of_only {allowed : Call → Bool}
    (neverTravels : ∀ call, allowed call = true → call.travels = false)
    (only : ∀ exchange ∈ trace, allowed exchange.request = true) : trace.Settled := by
  intro exchange member
  exact neverTravels exchange.request (only exchange member)

theorem settled_append : (first ++ second).Settled ↔ first.Settled ∧ second.Settled :=
  List.forall_mem_append

theorem located_append (first second : Trace) :
    (first ++ second).located = second.located.or first.located := by
  induction first using located.induct with
  | case1 => simp [located]
  | case2 path later ih => rw [List.cons_append, located, located, ih, Option.or_assoc]
  | case3 exchange later notNamed ih =>
      rw [List.cons_append, located.eq_3 _ _ notNamed, located.eq_3 _ _ notNamed, ih]

theorem Settled.located (settled : trace.Settled) : trace.located = none := by
  induction trace with
  | nil => rfl
  | cons exchange trace ih =>
      obtain ⟨here, later⟩ := List.forall_mem_cons.mp settled
      rw [Trace.located.eq_3]
      · exact ih later
      · rintro path rfl
        cases here

theorem ReadsBack.tail {exchange : Exchange} (readsBack : ReadsBack (exchange :: trace)) :
    trace.ReadsBack := by
  intro before path after split
  exact readsBack (exchange :: before) path after (by rw [split]; rfl)

theorem Settled.reads_back (settled : trace.Settled) : trace.ReadsBack := by
  rintro before path after rfl
  have entered := settled ⟨.changeDirectory path, .ok ()⟩ (by simp)
  cases entered

theorem ReadsBack.cons {exchange : Exchange}
    (notMoved : ∀ path, exchange ≠ ⟨.changeDirectory path, .ok ()⟩) (readsBack : trace.ReadsBack) :
    ReadsBack (exchange :: trace) := by
  intro before path after split
  cases before with
  | nil => exact absurd (List.cons.inj split).1 (notMoved path)
  | cons first before => exact readsBack before path after (List.cons.inj split).2

theorem ReadsBack.entered (path directory : String) (readsBack : trace.ReadsBack) :
    ReadsBack (⟨.changeDirectory path, .ok ()⟩ :: ⟨.currentDirectory, .ok directory⟩ :: trace) := by
  intro before other after split
  cases before with
  | nil =>
      obtain ⟨_, rfl⟩ := List.cons.inj split
      exact ⟨directory, trace, rfl⟩
  | cons first before =>
      have told : ReadsBack (⟨.currentDirectory, .ok directory⟩ :: trace) :=
        readsBack.cons fun path => nofun
      exact told before other after (List.cons.inj split).2

theorem not_reads_back (path : String) (errno : Errno) (trace : Trace) :
    ¬ ReadsBack
      (⟨.changeDirectory path, .ok ()⟩ :: ⟨.currentDirectory, .error errno⟩ :: trace) := by
  intro readsBack
  obtain ⟨directory, rest, same⟩ := readsBack [] path _ rfl
  cases same

theorem ReadsBack.located_of_leads (readsBack : trace.ReadsBack) (leads : Leads here trace final) :
    final = trace.located.getD here := by
  induction leads with
  | stays here => rfl
  | @moved here there final path later onward ih =>
      have isThere := ih readsBack.tail
      obtain ⟨directory, rest, rfl⟩ := readsBack [] path later rfl
      rw [isThere]
      cases onward with
      | named onward => cases found : located rest <;> simp [located, found]
      | other notMoved notNamed onward => exact absurd rfl (notNamed directory)
  | @named here final later onward ih =>
      rw [ih readsBack.tail]
      cases found : later.located <;> simp [located, found]
  | other notMoved notNamed onward ih =>
      rw [located.eq_3 _ _ notNamed]
      exact ih readsBack.tail

end Trace

end Unix

namespace Shell

inductive Entering (path : String) : Trace → Except String String → Prop where
  | nul (reason : String) : Entering path [] (.error reason)
  | refused (errno : Errno) (reason : String) :
      Entering path [⟨.changeDirectory path, .error errno⟩] (.error reason)
  | unread (errno : Errno) (reason : String) :
      Entering path [⟨.changeDirectory path, .ok ()⟩, ⟨.currentDirectory, .error errno⟩]
        (.error reason)
  | entered (directory : String) :
      Entering path [⟨.changeDirectory path, .ok ()⟩, ⟨.currentDirectory, .ok directory⟩]
        (.ok directory)

theorem enter_returns {path : String} {trace : Trace} {answer : Except String String}
    (returns : (enter path).Returns trace answer) : Entering path trace answer := by
  unfold enter at returns
  split at returns
  · obtain ⟨rfl, rfl⟩ := Program.returns_done_iff.mp returns
    exact .nul _
  · obtain ⟨changed, later, rfl, going⟩ := Program.returns_call_iff.mp returns
    cases changed with
    | error errno =>
        obtain ⟨rfl, rfl⟩ := Program.returns_done_iff.mp going
        exact .refused errno _
    | ok =>
        obtain ⟨told, last, rfl, ended⟩ := Program.returns_call_iff.mp going
        cases told with
        | error errno =>
            obtain ⟨rfl, rfl⟩ := Program.returns_done_iff.mp ended
            exact .unread errno _
        | ok directory =>
            obtain ⟨rfl, rfl⟩ := Program.returns_done_iff.mp ended
            exact .entered directory

end Shell

namespace Builtin

variable {builtin : Builtin} {view : View} {arguments : List String} {output error : Descriptor}
  {own : Trace} {result : Result}

theorem settled_of_writes {target : Descriptor}
    (writes : ∀ exchange ∈ own, exchange.request.writesTo target = true) : own.Settled := by
  apply Trace.settled_of_only _ writes
  intro call isWrite
  cases call <;> first | rfl | cases isWrite

theorem CarriedOut.located {response : Response}
    (carried : CarriedOut Shell.host output error response own result) :
    own.located = result.directory := by
  cases carried with
  | printed writes => exact (settled_of_writes (Program.write_all_returns writes).2).located
  | complained tells => exact (settled_of_writes (Program.say_writes tells)).located
  | @unprinted label text writing telling errno stops tells =>
      have writes := (Program.write_all_only_writes output text.toUTF8).along stops
      rw [Trace.located_append, (settled_of_writes writes).located,
        (settled_of_writes (Program.say_writes tells)).located]
      rfl
  | left leaves =>
      obtain ⟨never, _⟩ := Program.returns_call_iff.mp leaves
      exact never.elim
  | moved enters =>
      cases Shell.enter_returns enters
      rfl
  | barred enters tells =>
      rw [Trace.located_append, (settled_of_writes (Program.say_writes tells)).located]
      cases Shell.enter_returns enters <;> rfl

theorem invoke_located
    (returns : (builtin.invoke Shell.host view arguments output error).Returns own result) :
    own.located = result.directory := by
  obtain ⟨reading, doing, processes, rfl, reads, does⟩ := Program.returns_bind_iff.mp returns
  have only : builtin.processTable.OnlyCalls fun call => !call.travels := by
    cases builtin with
    | mypid => exact ⟨rfl, fun _ => trivial⟩
    | _ => trivial
  have settled : reading.Settled := by
    intro exchange member
    simpa using only.along reads exchange member
  rw [Trace.located_append, settled.located, Option.or_none]
  exact (carried_out_of_returns does).located

end Builtin

section

variable {launcher : Launcher} {arguments : List String} {trace : Trace}

theorem LaunchStep.call_settled {step : LaunchStep} {call : Call} (made : step.call = some call) :
    call.travels = false := by
  cases step <;> cases made <;> rfl

theorem settled_of_steps {steps : List LaunchStep} (pass : StepsPass arguments steps trace) :
    trace.Settled := by
  intro exchange member
  obtain ⟨step, _, made⟩ := pass.call_of_mem member
  exact LaunchStep.call_settled made

theorem settled_of_closes (closes : trace.OnlyCloses) : trace.Settled := by
  intro exchange member
  obtain ⟨descriptor, isClose⟩ := closes exchange member
  rw [isClose]
  rfl

theorem settled_of_stops {steps : List LaunchStep} {failure : ShellError}
    (stops : StopsClosing arguments steps trace failure) : trace.Settled := by
  obtain ⟨tried, closing, rfl, stopsTried, closes⟩ := stops
  apply Trace.settled_append.mpr
  constructor
  · intro exchange member
    obtain ⟨step, _, made⟩ := stopsTried.call_of_mem member
    exact LaunchStep.call_settled made
  · exact settled_of_closes closes

theorem settled_of_settling {run : JobRun} {table : JobTable} {launch : Launch}
    {rest : Program JobResult}
    (follows : (settleJob launcher run table launch).Follows trace rest) : trace.Settled := by
  apply Trace.settled_of_only _ ((settle_job_settles launcher run table launch).along follows)
  intro call settles
  cases call <;> first | rfl | cases settles

/-- The builtins of a launcher know a new directory just when it has told its path. -/
def Launcher.Locates (launcher : Launcher) : Prop :=
  ∀ command context arguments own result,
    (launcher.invoke command context arguments).Returns own result → own.located = result.directory

theorem shell_launcher_locates (shell : Shell) (context : Context) :
    (shell.launcher context).Locates := by
  intro command context arguments own result returns
  exact Builtin.invoke_located returns

theorem StageRuns.located {group : Option Pid} {stage : Stage} {children : List Pid}
    {launched : Launched} (locates : launcher.Locates)
    (runs : StageRuns launcher group stage children trace launched) :
    trace.located = launched.directory := by
  cases runs with
  | builtin kind returns => exact locates _ _ _ _ _ returns
  | external kind settled => rcases settled with rfl | ⟨given, rfl⟩ <;> rfl

theorem StageLaunched.located {group : Option Pid} {stage : Stage} {isLast : Bool}
    {launched : Launched} (locates : launcher.Locates)
    (stageLaunched : StageLaunched launcher group stage isLast trace launched) :
    trace.located = launched.directory := by
  obtain ⟨opening, own, closing, rfl, passes, runs, closes⟩ := stageLaunched.parts
  rw [Trace.located_append, Trace.located_append, (settled_of_steps passes).located,
    (settled_of_closes closes).located, runs.located locates]
  simp

theorem launch_located {input : Endpoint} {group : Option Pid} {stages : List Stage}
    {launch : Launch} (locates : launcher.Locates)
    (returns : (launchStages launcher input group stages).Returns trace launch) :
    trace.located = launch.directory := by
  induction stages generalizing input group trace launch with
  | nil =>
      obtain ⟨closing, _, _, rfl, closes, ended⟩ := Program.returns_bind_iff.mp returns
      obtain ⟨rfl, rfl⟩ := Program.returns_done_iff.mp ended
      rw [List.append_nil]
      exact (settled_of_closes (release_returns closes)).located
  | cons stage rest ih =>
      rcases launch_stages_cons_returns returns with ⟨failure, rfl, stops⟩ |
        ⟨piping, own, closing, later, output, next, launched, laterLaunch, rfl, connecting,
          launching, closes, launchingRest, rfl⟩
      · exact (settled_of_stops stops).located
      · have first := (stage_launched_of_returns connecting launching closes).located locates
        rw [Trace.located_append, first, ih launchingRest]
        rfl

theorem settle_job_directory {run : JobRun} {table : JobTable} {launch : Launch}
    {result : JobResult} (returns : (settleJob launcher run table launch).Returns trace result) :
    result.directory = launch.directory := by
  unfold settleJob at returns
  split at returns
  · obtain ⟨_, _, _, _, _, ended⟩ := Program.returns_bind_iff.mp returns
    rw [(Program.returns_done_iff.mp ended).2]
  · obtain ⟨_, _, _, _, _, ended⟩ := Program.returns_bind_iff.mp returns
    rw [(Program.returns_done_iff.mp ended).2]

theorem run_job_located {table : JobTable} {job : Job} {result : JobResult}
    (locates : launcher.Locates) (returns : (runJob launcher table job).Returns trace result) :
    trace.located = result.directory := by
  obtain ⟨launching, settling, launch, rfl, launches, settles⟩ := run_job_returns returns
  have locatesJob : (launcher.forJob job).Locates := locates
  rw [Trace.located_append, (settled_of_settling settles).located, Option.none_or,
    launch_located locatesJob launches, settle_job_directory settles]

end

def Turn.allCalls (turns : List Turn) : Trace :=
  turns.flatMap Turn.calls

theorem Turn.recorded_directory (turn : Turn) :
    turn.recorded.directory = turn.before.directory := by
  rw [Turn.recorded, Shell.remember]

theorem Turn.Happens.located {turn : Turn} (happens : turn.Happens) :
    turn.after.directory = turn.calls.located.getD turn.before.directory := by
  cases happens.course with
  | refused reads quiet left ends =>
      rw [left, quiet, Turn.recorded_directory, Trace.located, Option.getD_none]
  | idle reads quiet left ends =>
      rw [left, quiet, Turn.recorded_directory, Trace.located, Option.getD_none]
  | @ran job result reads returns left ends =>
      rw [left, run_job_located (shell_launcher_locates _ _) returns, Shell.afterJob,
        Turn.recorded_directory]

theorem Shell.Evaluated.located {start last : Shell} {turns : List Turn}
    (evaluated : start.Evaluated turns last) :
    last.directory = (Turn.allCalls turns).located.getD start.directory := by
  induction evaluated with
  | start => rfl
  | @turn turns turn earlier happens ih =>
      have split : Turn.allCalls (turns ++ [turn]) = Turn.allCalls turns ++ turn.calls := by
        simp [Turn.allCalls]
      rw [happens.located, ih, split, Trace.located_append]
      cases turn.calls.located <;> simp

namespace Builtin

variable {view : View} {arguments : List String} {output error : Descriptor} {own : Trace}
  {result : Result}

def EntersUnread (own : Trace) : Prop :=
  ∃ path errno telling,
    own = ⟨.changeDirectory path, .ok ()⟩ :: ⟨.currentDirectory, .error errno⟩ :: telling

theorem cd_returns
    (returns : (Builtin.cd.invoke Shell.host view arguments output error).Returns own result) :
    ∃ path entering telling answer, own = entering ++ telling ∧
      Shell.Entering path entering answer ∧ telling.Settled ∧
      (∀ directory, answer = .ok directory → result = ⟨.handled, some directory⟩) ∧
      ∀ reason, answer = .error reason → result = ⟨.failed, none⟩ := by
  have asks := host_part Shell.host view arguments output error .cd
  simp only [HostPart] at asks
  rw [asks] at returns
  obtain ⟨entering, telling, answer, rfl, enters, ended⟩ := Program.returns_bind_iff.mp returns
  refine ⟨_, entering, telling, answer, rfl, Shell.enter_returns enters, ?_⟩
  cases answer with
  | ok directory =>
      obtain ⟨rfl, rfl⟩ := Program.returns_done_iff.mp ended
      simp [Trace.Settled]
  | error reason =>
      obtain ⟨tells, rfl⟩ := complaint_returns ended
      simpa using settled_of_writes (Program.say_writes tells)

theorem reads_back_or_unread {path : String} {entering telling : Trace}
    {answer : Except String String} (enters : Shell.Entering path entering answer)
    (settled : telling.Settled) :
    (entering ++ telling).ReadsBack ∨
      EntersUnread (entering ++ telling) ∧ ∃ reason, answer = .error reason := by
  cases enters with
  | nul reason => exact .inl settled.reads_back
  | refused errno reason => exact .inl (settled.reads_back.cons fun path => nofun)
  | unread errno reason => exact .inr ⟨⟨path, errno, telling, rfl⟩, reason, rfl⟩
  | entered directory => exact .inl (settled.reads_back.entered path directory)

/-- A change of directory and what the shell knows of it afterwards: when it was handled, the
directory where the process is, and when it failed, none. Then the process has not moved either,
unless it has entered a directory that did not tell its path. -/
structure Moves (own : Trace) (result : Result) (here there : String) : Prop where
  handled : result.outcome = .handled → result.directory = some there
  failed : result.outcome = .failed →
    result.directory = none ∧ (¬ EntersUnread own → there = here)
  unreadFails : EntersUnread own → result.outcome = .failed

theorem cd_moves {here there : String}
    (returns : (Builtin.cd.invoke Shell.host view arguments output error).Returns own result)
    (leads : own.Leads here there) : Moves own result here there := by
  have located := invoke_located returns
  obtain ⟨path, entering, telling, answer, rfl, enters, settled, handled, failed⟩ :=
    cd_returns returns
  have stays (readsBack : Trace.ReadsBack (entering ++ telling)) :
      there = result.directory.getD here := by
    rw [← located]
    exact readsBack.located_of_leads leads
  have either := reads_back_or_unread enters settled
  cases answer with
  | ok directory =>
      obtain rfl := handled directory rfl
      have readsBack : Trace.ReadsBack (entering ++ telling) :=
        either.resolve_right fun unread => nomatch unread.2
      constructor
      · intro _
        rw [stays readsBack]
        rfl
      · nofun
      · rintro ⟨path, errno, rest, same⟩
        rw [same] at readsBack
        exact absurd readsBack (Trace.not_reads_back path errno rest)
  | error reason =>
      obtain rfl := failed reason rfl
      constructor
      · nofun
      · intro _
        refine ⟨rfl, fun notUnread => ?_⟩
        exact stays (either.resolve_right fun unread => notUnread unread.1)
      · intro _
        rfl

end Builtin

/-- A shell that starts where it believes to be is, after any turns in which every entered
directory has told its path, still where it believes to be. Each change of directory tells the
shell where it has led, or fails and leads nowhere, except that a directory may have been
entered without telling its path. -/
theorem directory_is_known_unless_unread {start last : Shell} {turns : List Turn} {place : String}
    (evaluated : start.Evaluated turns last)
    (leads : (Turn.allCalls turns).Leads start.directory place) :
    ((Turn.allCalls turns).ReadsBack → last.directory = place) ∧
      ∀ (view : Builtin.View) (arguments : List String) (output error : Descriptor) (own : Trace)
        (result : Builtin.Result) (here there : String),
        (Builtin.cd.invoke Shell.host view arguments output error).Returns own result →
          own.Leads here there → Builtin.Moves own result here there := by
  constructor
  · intro readsBack
    rw [readsBack.located_of_leads leads]
    exact evaluated.located
  · intro view arguments output error own result here there returns leadsOwn
    exact Builtin.cd_moves returns leadsOwn

def toldTurn : Turn where
  before := plainShell
  context := plainShell.context false
  input := "cd d"
  calls := [⟨.changeDirectory "d", .ok ()⟩, ⟨.currentDirectory, .ok "/d"⟩]
  after := { plainShell.remember "cd d" with directory := "/d" }
  outcome := .ok (some (.done 0))

theorem directory_is_known_unless_unread_told :
    plainShell.Evaluated [toldTurn] toldTurn.after ∧
      (Turn.allCalls [toldTurn]).Leads plainShell.directory "/d" ∧
      (Turn.allCalls [toldTurn]).ReadsBack ∧ toldTurn.after.directory = "/d" := by
  have happens : toldTurn.Happens := .step (.step (.stop _))
  have evaluated : plainShell.Evaluated [toldTurn] toldTurn.after :=
    Shell.Evaluated.start.turn happens
  have leads : (Turn.allCalls [toldTurn]).Leads plainShell.directory "/d" :=
    .moved (.named (.stays "/d"))
  have readsBack : (Turn.allCalls [toldTurn]).ReadsBack := by
    apply Trace.ReadsBack.entered
    apply Trace.Settled.reads_back
    simp [Trace.Settled]
  have known := (directory_is_known_unless_unread evaluated leads).1 readsBack
  exact ⟨evaluated, leads, readsBack, known⟩

def untoldTurn : Turn where
  before := plainShell
  context := plainShell.context false
  input := "cd /d"
  calls :=
    [⟨.changeDirectory "/d", .ok ()⟩, ⟨.currentDirectory, .error .noEntry⟩,
      ⟨.write 2 "cd: /d: failed to read current directory\n".toUTF8, .ok 41⟩]
  after := plainShell.remember "cd /d"
  outcome := .ok (some (.done 1))

theorem untold_turn_happens : untoldTurn.Happens := by
  have reads : Line.parse "cd /d" =
      .ok (some ⟨"cd /d", .foreground, [⟨"cd /d", ["cd", "/d"], none, none⟩]⟩) := rfl
  have kind : Stage.kind ⟨"cd /d", ["cd", "/d"], none, none⟩ = .builtin .cd := rfl
  change (plainShell.perform (plainShell.context false) "cd /d").Returns _ _
  rw [Shell.perform_of_builtin reads kind rfl rfl]
  exact .step (.step (.step (.stop _)))

/-- The change has failed and the shell believes to be where it was, but the process is not. -/
theorem untold_directory_is_left_behind :
    untoldTurn.Happens ∧ untoldTurn.outcome = .ok (some (.done 1)) ∧
      untoldTurn.after.directory = untoldTurn.before.directory ∧
      untoldTurn.calls.Leads untoldTurn.before.directory "/d" ∧
      untoldTurn.after.directory ≠ "/d" := by
  have leads : untoldTurn.calls.Leads untoldTurn.before.directory "/d" :=
    .moved (.other (fun _ => nofun) (fun _ => nofun)
      (.other (fun _ => nofun) (fun _ => nofun) (.stays "/d")))
  have elsewhere : untoldTurn.after.directory ≠ "/d" := by decide
  exact ⟨untold_turn_happens, rfl, rfl, leads, elsewhere⟩

end JobShell
