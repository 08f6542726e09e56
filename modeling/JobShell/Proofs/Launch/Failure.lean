import JobShell.Proofs.Launch.Steps
import JobShell.Shell.Basic

/-!
# A launch that fails

The calls that a launch made are the calls of the stages that it launched, one after the
other, and then those of the first stage that could not be launched, which end at the
first of its steps that failed. Nothing is done for the stages behind it.
-/

namespace JobShell

open Unix

set_option autoImplicit false

/-- What follows the steps of a stage: its child is put into the group and may get the
terminal, or the builtin runs. -/
inductive StageRuns (launcher : Launcher) (group : Option Pid) (stage : Stage) :
    List Pid → Trace → Launched → Prop where
  | external {child : Pid} {joined : Except Errno Unit} {trace : Trace}
      (kind : stage.kind = .external)
      (settled : trace = [] ∨ ∃ given, trace = [⟨.giveTerminal (group.getD child), given⟩]) :
      StageRuns launcher group stage [child]
        (⟨.joinGroup child (group.getD child), joined⟩ :: trace)
        ⟨⟨stage, some child, .running⟩, some (group.getD child), none⟩
  | builtin {command : Builtin} {input output : Descriptor} {trace : Trace}
      {result : Builtin.Result} (kind : stage.kind = .builtin command)
      (returns : (launcher.invoke command (launcher.context.withEndpoints input output)
        stage.arguments).Returns trace result) :
      StageRuns launcher group stage [] trace
        ⟨⟨stage, none, .done result.outcome.exitCode⟩, group, result.directory⟩

/-- A stage is launched along a trace: all its steps succeed, it runs, and what was opened
for it is closed. -/
structure StageLaunched (launcher : Launcher) (group : Option Pid) (stage : Stage)
    (isLast : Bool) (trace : Trace) (launched : Launched) : Prop where
  parts : ∃ opening own closing, trace = opening ++ own ++ closing ∧
    StepsPass stage.arguments (stage.steps isLast) opening ∧
    StageRuns launcher group stage opening.children own launched ∧
    closing.OnlyCloses

inductive StagesLaunched (launcher : Launcher) :
    Option Pid → List Stage → Trace → List Launched → Option Pid → Prop where
  | nil (group : Option Pid) : StagesLaunched launcher group [] [] [] group
  | cons {group final : Option Pid} {stage : Stage} {rest : List Stage} {trace later : Trace}
      {launched : Launched} {others : List Launched}
      (first : StageLaunched launcher group stage false trace launched)
      (following : StagesLaunched launcher launched.group rest later others final) :
      StagesLaunched launcher group (stage :: rest) (trace ++ later) (launched :: others) final

def Unix.Trace.NeverWaits (trace : Trace) : Prop :=
  ∀ exchange ∈ trace, ∀ pid reportStops, exchange.request ≠ .wait pid reportStops

section

variable {arguments : List String} {trace : Trace}

theorem only_closes_nil : Trace.OnlyCloses [] := by
  intro exchange member
  cases member

theorem only_closes_append {first second : Trace} (one : first.OnlyCloses)
    (other : second.OnlyCloses) : (first ++ second).OnlyCloses := by
  intro exchange member
  rcases List.mem_append.mp member with isFirst | isSecond
  · exact one exchange isFirst
  · exact other exchange isSecond

theorem release_returns {endpoint : Endpoint} {value : Unit}
    (returns : endpoint.release.Returns trace value) : trace.OnlyCloses := by
  cases endpoint with
  | inherited =>
      obtain ⟨rfl, _⟩ := Program.returns_done_iff.mp returns
      exact only_closes_nil
  | owned descriptor =>
      obtain ⟨reply, later, rfl, ended⟩ := Program.returns_call_iff.mp returns
      obtain ⟨rfl, _⟩ := Program.returns_done_iff.mp ended
      intro exchange member
      rw [List.mem_singleton.mp member]
      exact ⟨descriptor, rfl⟩

theorem redirection_release_returns {redirection : Redirection} {value : Unit}
    (returns : redirection.release.Returns trace value) : trace.OnlyCloses := by
  obtain ⟨first, second, _, rfl, input, output⟩ := Program.returns_bind_iff.mp returns
  exact only_closes_append (release_returns input) (release_returns output)

/-- A launch that stops at a step and then closes what it has opened. -/
def StopsClosing (arguments : List String) (steps : List LaunchStep) (trace : Trace)
    (failure : ShellError) : Prop :=
  ∃ tried closing, trace = tried ++ closing ∧ StopsAt arguments steps tried failure ∧
    closing.OnlyCloses

def Tried {α : Type} (arguments : List String) (steps : List LaunchStep) (trace : Trace) :
    Except ShellError α → Prop
  | .error failure => StopsClosing arguments steps trace failure
  | .ok _ => StepsPass arguments steps trace

theorem StopsAt.closing {steps : List LaunchStep} {failure : ShellError} {closing : Trace}
    (stops : StopsAt arguments steps trace failure) (closes : closing.OnlyCloses) :
    StopsClosing arguments steps (trace ++ closing) failure :=
  ⟨trace, closing, rfl, stops, closes⟩

theorem StopsClosing.of_fails {step : LaunchStep} {failure : ShellError}
    (fails : step.Fails arguments trace failure) (left : List LaunchStep) :
    StopsClosing arguments (step :: left) trace failure := by
  have stops := (StopsAt.of_fails fails left).closing only_closes_nil
  rw [List.append_nil] at stops
  exact stops

theorem StopsClosing.after {steps others : List LaunchStep} {later : Trace} {failure : ShellError}
    (first : StepsPass arguments steps trace)
    (second : StopsClosing arguments others later failure) :
    StopsClosing arguments (steps ++ others) (trace ++ later) failure := by
  obtain ⟨tried, closing, rfl, stops, closes⟩ := second
  rw [← List.append_assoc]
  exact (StopsAt.after first stops).closing closes

theorem StopsClosing.before {steps : List LaunchStep} {failure : ShellError}
    (first : StopsClosing arguments steps trace failure) (others : List LaunchStep) :
    StopsClosing arguments (steps ++ others) trace failure := by
  obtain ⟨tried, closing, rfl, stops, closes⟩ := first
  exact (stops.before others).closing closes

theorem StopsClosing.close {steps : List LaunchStep} {failure : ShellError} {more : Trace}
    (stops : StopsClosing arguments steps trace failure) (closes : more.OnlyCloses) :
    StopsClosing arguments steps (trace ++ more) failure := by
  obtain ⟨tried, closing, rfl, stopsTried, closesFirst⟩ := stops
  rw [List.append_assoc]
  exact stopsTried.closing (only_closes_append closesFirst closes)

theorem connect_returns (arguments : List String) {isLast : Bool}
    {result : Except ShellError (Endpoint × Endpoint)}
    (returns : (connect isLast).Returns trace result) :
    Tried arguments (pipeSteps isLast) trace result := by
  unfold connect at returns
  cases isLast with
  | true =>
      obtain ⟨rfl, rfl⟩ := Program.returns_done_iff.mp returns
      exact StepsPass.nil
  | false =>
      obtain ⟨reply, later, rfl, ended⟩ := Program.returns_call_iff.mp returns
      cases reply with
      | error errno =>
          obtain ⟨rfl, rfl⟩ := Program.returns_done_iff.mp ended
          exact StopsClosing.of_fails (.makePipe errno) []
      | ok ends =>
          obtain ⟨rfl, rfl⟩ := Program.returns_done_iff.mp ended
          exact StepsPass.single (.makePipe ends)

theorem open_side_returns (arguments : List String) {path : Option String} {access : Access}
    {result : Except ShellError Endpoint}
    (returns : (Redirection.openSide path access).Returns trace result) :
    Tried arguments (path.toList.map (LaunchStep.openFile · access)) trace result := by
  unfold Redirection.openSide at returns
  cases path with
  | none =>
      obtain ⟨rfl, rfl⟩ := Program.returns_done_iff.mp returns
      exact StepsPass.nil
  | some path =>
      obtain ⟨before, after, opened, rfl, opening, ended⟩ := Program.returns_bind_iff.mp returns
      unfold openPath at opening
      change (if hasNul path = true then _ else _ : Program _).Returns _ _ at opening
      cases nul : hasNul path with
      | true =>
          rw [nul] at opening
          obtain ⟨rfl, rfl⟩ := Program.returns_done_iff.mp opening
          obtain ⟨rfl, rfl⟩ := Program.returns_done_iff.mp ended
          exact StopsClosing.of_fails (.nulInPath access nul) []
      | false =>
          rw [nul] at opening
          obtain ⟨reply, later, rfl, replied⟩ := Program.returns_call_iff.mp opening
          cases reply with
          | error errno =>
              obtain ⟨rfl, rfl⟩ := Program.returns_done_iff.mp replied
              obtain ⟨rfl, rfl⟩ := Program.returns_done_iff.mp ended
              exact StopsClosing.of_fails (.openFile access errno nul) []
          | ok descriptor =>
              obtain ⟨rfl, rfl⟩ := Program.returns_done_iff.mp replied
              obtain ⟨rfl, rfl⟩ := Program.returns_done_iff.mp ended
              exact StepsPass.single (.openFile access descriptor nul)

theorem open_for_returns (arguments : List String) {stage : Stage}
    {result : Except ShellError Redirection}
    (returns : (Redirection.openFor stage).Returns trace result) :
    Tried arguments stage.fileSteps trace result := by
  unfold Redirection.openFor at returns
  obtain ⟨first, rest, opened, rfl, openInput, returns⟩ := Program.returns_bind_iff.mp returns
  have triedInput := open_side_returns arguments openInput
  cases opened with
  | error failure =>
      obtain ⟨rfl, rfl⟩ := Program.returns_done_iff.mp returns
      rw [List.append_nil]
      exact StopsClosing.before triedInput _
  | ok input =>
      obtain ⟨second, last, opened, rfl, openOutput, returns⟩ :=
        Program.returns_bind_iff.mp returns
      have triedOutput := open_side_returns arguments openOutput
      cases opened with
      | error failure =>
          obtain ⟨closing, final, _, rfl, closes, ended⟩ := Program.returns_bind_iff.mp returns
          obtain ⟨rfl, rfl⟩ := Program.returns_done_iff.mp ended
          rw [List.append_nil, ← List.append_assoc]
          exact (StopsClosing.after triedInput triedOutput).close (release_returns closes)
      | ok output =>
          obtain ⟨rfl, rfl⟩ := Program.returns_done_iff.mp returns
          rw [List.append_nil]
          exact StepsPass.append triedInput triedOutput

theorem give_up_never_returns {α : Type} {message : String} {value : α} :
    ¬(giveUp message).Returns trace value := by
  intro returns
  obtain ⟨_, _, _, _, _, exits⟩ := Program.returns_bind_iff.mp returns
  obtain ⟨reply, _⟩ := Program.returns_call_iff.mp exits
  exact reply.elim

theorem start_program_never_returns {α : Type} {input output : Descriptor} {value : α} :
    ¬(startProgram arguments input output).Returns trace value := by
  intro returns
  unfold startProgram at returns
  obtain ⟨_, _, moved, _, _, returns⟩ := Program.returns_bind_iff.mp returns
  cases moved with
  | error failure => exact give_up_never_returns returns
  | ok =>
      obtain ⟨_, _, moved, _, _, returns⟩ := Program.returns_bind_iff.mp returns
      cases moved with
      | error failure => exact give_up_never_returns returns
      | ok =>
          obtain ⟨_, _, _, returns⟩ := Program.returns_call_iff.mp returns
          exact give_up_never_returns returns

theorem become_stage_never_returns {α : Type} {context : Context} {group : Option Pid}
    {input output : Descriptor} {value : α} :
    ¬(becomeStage context group arguments input output).Returns trace value := by
  intro returns
  unfold becomeStage at returns
  obtain ⟨own, _, _, returns⟩ := Program.returns_call_iff.mp returns
  obtain ⟨_, _, _, returns⟩ := Program.returns_call_iff.mp returns
  cases owns : context.ownsTerminal with
  | true =>
      rw [owns] at returns
      obtain ⟨_, _, _, returns⟩ := Program.returns_call_iff.mp returns
      obtain ⟨_, _, _, returns⟩ := Program.returns_call_iff.mp returns
      exact start_program_never_returns returns
  | false =>
      rw [owns] at returns
      obtain ⟨_, _, _, returns⟩ := Program.returns_call_iff.mp returns
      exact start_program_never_returns returns

theorem check_arguments_error {failure : ShellError}
    (refused : checkArguments arguments = .error failure) :
    StopsClosing arguments childSteps [] failure := by
  unfold checkArguments at refused
  cases arguments with
  | nil =>
      cases refused
      exact .of_fails (.requireCommand rfl) _
  | cons command rest =>
      dsimp only at refused
      split at refused
      · rename_i nul
        cases refused
        exact StopsClosing.after (.single (.requireCommand (List.cons_ne_nil _ _)))
          (.of_fails (.refuseNul rfl nul) _)
      · cases refused

theorem check_arguments_ok (accepted : checkArguments arguments = .ok ()) :
    StepsPass arguments [.requireCommand, .refuseNul] [] := by
  unfold checkArguments at accepted
  cases arguments with
  | nil => cases accepted
  | cons command rest =>
      dsimp only at accepted
      split at accepted
      · cases accepted
      · rename_i noNul
        exact StepsPass.append (.single (.requireCommand (List.cons_ne_nil _ _)))
          (.single (.refuseNul (Bool.eq_false_iff.mpr noNul)))

theorem start_child_returns {context : Context} {group : Option Pid}
    {input output : Descriptor} {result : Except ShellError Pid}
    (returns : (startChild context group arguments input output).Returns trace result) :
    Tried arguments childSteps trace result ∧
      ∀ child, result = .ok child → trace.children = [child] := by
  unfold startChild at returns
  cases checked : checkArguments arguments with
  | error failure =>
      rw [checked] at returns
      obtain ⟨rfl, rfl⟩ := Program.returns_done_iff.mp returns
      exact ⟨check_arguments_error checked, nofun⟩
  | ok =>
      rw [checked] at returns
      have accepted := check_arguments_ok checked
      obtain ⟨flushed, later, rfl, going⟩ := Program.returns_call_iff.mp returns
      cases flushed with
      | error errno =>
          obtain ⟨rfl, rfl⟩ := Program.returns_done_iff.mp going
          exact ⟨StopsClosing.after accepted (.of_fails (.flushOutput errno) _), nofun⟩
      | ok =>
          have ready := accepted.append (.single .flushOutput)
          obtain ⟨reply, last, rfl, ending⟩ := Program.returns_call_iff.mp going
          rcases reply with errno | (_ | child)
          · obtain ⟨rfl, rfl⟩ := Program.returns_done_iff.mp ending
            exact ⟨StopsClosing.after ready (.of_fails (.makeChild errno) _), nofun⟩
          · exact (become_stage_never_returns ending).elim
          · obtain ⟨rfl, rfl⟩ := Program.returns_done_iff.mp ending
            refine ⟨StepsPass.append ready (.single (.makeChild child)), fun other same => ?_⟩
            cases same
            rfl

theorem launch_on_error {launcher : Launcher} {group : Option Pid} {stage : Stage}
    {input output : Descriptor} {failure : ShellError}
    (returns : (launchOn launcher group stage input output).Returns trace (.error failure)) :
    StopsClosing stage.arguments stage.runSteps trace failure := by
  unfold launchOn at returns
  unfold Stage.runSteps
  cases kind : stage.kind with
  | builtin command =>
      rw [kind] at returns
      obtain ⟨_, _, _, _, _, ended⟩ := Program.returns_bind_iff.mp returns
      cases (Program.returns_done_iff.mp ended).2
  | external =>
      rw [kind] at returns
      obtain ⟨first, rest, started, rfl, starting, ending⟩ := Program.returns_bind_iff.mp returns
      cases started with
      | error reason =>
          obtain ⟨rfl, same⟩ := Program.returns_done_iff.mp ending
          cases same
          rw [List.append_nil]
          exact (start_child_returns starting).1
      | ok child =>
          obtain ⟨joined, later, rfl, joining⟩ := Program.returns_call_iff.mp ending
          cases owns : launcher.context.ownsTerminal with
          | true =>
              rw [owns] at joining
              obtain ⟨given, last, rfl, ended⟩ := Program.returns_call_iff.mp joining
              cases (Program.returns_done_iff.mp ended).2
          | false =>
              rw [owns] at joining
              cases (Program.returns_done_iff.mp joining).2

theorem launch_on_ok {launcher : Launcher} {group : Option Pid} {stage : Stage}
    {input output : Descriptor} {launched : Launched}
    (returns : (launchOn launcher group stage input output).Returns trace (.ok launched)) :
    ∃ opening own, trace = opening ++ own ∧ StepsPass stage.arguments stage.runSteps opening ∧
      StageRuns launcher group stage opening.children own launched := by
  unfold launchOn at returns
  unfold Stage.runSteps
  cases kind : stage.kind with
  | builtin command =>
      rw [kind] at returns
      obtain ⟨own, rest, result, rfl, invoked, ended⟩ := Program.returns_bind_iff.mp returns
      obtain ⟨rfl, same⟩ := Program.returns_done_iff.mp ended
      cases same
      refine ⟨[], own, List.append_nil _, .nil, .builtin kind invoked⟩
  | external =>
      rw [kind] at returns
      obtain ⟨first, rest, started, rfl, starting, ending⟩ := Program.returns_bind_iff.mp returns
      cases started with
      | error reason =>
          cases (Program.returns_done_iff.mp ending).2
      | ok child =>
          obtain ⟨passes, born⟩ := start_child_returns starting
          refine ⟨first, rest, rfl, passes, ?_⟩
          rw [born child rfl]
          obtain ⟨joined, later, rfl, joining⟩ := Program.returns_call_iff.mp ending
          cases owns : launcher.context.ownsTerminal with
          | true =>
              rw [owns] at joining
              obtain ⟨given, last, rfl, ended⟩ := Program.returns_call_iff.mp joining
              obtain ⟨rfl, same⟩ := Program.returns_done_iff.mp ended
              cases same
              exact .external kind (.inr ⟨given, rfl⟩)
          | false =>
              rw [owns] at joining
              obtain ⟨rfl, same⟩ := Program.returns_done_iff.mp joining
              cases same
              exact .external kind (.inl rfl)

theorem launch_stage_error {launcher : Launcher} {group : Option Pid} {stage : Stage}
    {input output : Endpoint} {failure : ShellError}
    (returns : (launchStage launcher group stage input output).Returns trace (.error failure)) :
    StopsClosing stage.arguments (stage.fileSteps ++ stage.runSteps) trace failure := by
  unfold launchStage at returns
  obtain ⟨opening, rest, opened, rfl, opens, running⟩ := Program.returns_bind_iff.mp returns
  have tried := open_for_returns stage.arguments opens
  cases opened with
  | error reason =>
      obtain ⟨rfl, same⟩ := Program.returns_done_iff.mp running
      cases same
      rw [List.append_nil]
      exact StopsClosing.before tried _
  | ok redirection =>
      obtain ⟨own, last, result, rfl, runs, releasing⟩ := Program.returns_bind_iff.mp running
      obtain ⟨closing, final, _, rfl, closes, ended⟩ := Program.returns_bind_iff.mp releasing
      obtain ⟨rfl, rfl⟩ := Program.returns_done_iff.mp ended
      rw [List.append_nil, ← List.append_assoc]
      exact (StopsClosing.after tried (launch_on_error runs)).close
        (redirection_release_returns closes)

theorem launch_stage_ok {launcher : Launcher} {group : Option Pid} {stage : Stage}
    {input output : Endpoint} {launched : Launched}
    (returns : (launchStage launcher group stage input output).Returns trace (.ok launched)) :
    ∃ opening own closing, trace = opening ++ own ++ closing ∧
      StepsPass stage.arguments (stage.fileSteps ++ stage.runSteps) opening ∧
      StageRuns launcher group stage opening.children own launched ∧ closing.OnlyCloses := by
  unfold launchStage at returns
  obtain ⟨first, rest, opened, rfl, opens, running⟩ := Program.returns_bind_iff.mp returns
  have tried := open_for_returns stage.arguments opens
  cases opened with
  | error reason => cases (Program.returns_done_iff.mp running).2
  | ok redirection =>
      obtain ⟨second, last, result, rfl, runs, releasing⟩ := Program.returns_bind_iff.mp running
      obtain ⟨closing, final, _, rfl, closes, ended⟩ := Program.returns_bind_iff.mp releasing
      obtain ⟨rfl, rfl⟩ := Program.returns_done_iff.mp ended
      obtain ⟨opening, own, rfl, passes, stageRuns⟩ := launch_on_ok runs
      have opensNoChild : first.children = [] := by
        refine StepsPass.no_children tried fun member => ?_
        exact stage.no_child_in_front true (List.mem_append_right _ member)
      refine ⟨first ++ opening, own, closing, by simp, StepsPass.append tried passes, ?_,
        redirection_release_returns closes⟩
      rw [Trace.children_append, opensNoChild, List.nil_append]
      exact stageRuns

theorem stage_launched_of_returns {launcher : Launcher} {group : Option Pid} {stage : Stage}
    {isLast : Bool} {ends : Endpoint × Endpoint} {input output : Endpoint} {launched : Launched}
    {piping own closing : Trace} (connecting : (connect isLast).Returns piping (.ok ends))
    (launching : (launchStage launcher group stage input output).Returns own (.ok launched))
    (closes : closing.OnlyCloses) :
    StageLaunched launcher group stage isLast (piping ++ own ++ closing) launched := by
  have piped := connect_returns stage.arguments connecting
  obtain ⟨opening, running, closingStage, rfl, passes, runs, closesStage⟩ :=
    launch_stage_ok launching
  have pipeNoChild : piping.children = [] := by
    refine StepsPass.no_children piped fun member => ?_
    exact stage.no_child_in_front isLast (List.mem_append_left _ member)
  refine ⟨piping ++ opening, running, closingStage ++ closing, by simp, ?_, ?_, ?_⟩
  · rw [Stage.steps, List.append_assoc (pipeSteps _)]
    exact StepsPass.append piped passes
  · rw [Trace.children_append, pipeNoChild, List.nil_append]
    exact runs
  · exact only_closes_append closesStage closes

/-- What a launch does for its first stage. It ends there and closes what it has opened, or
the stage is launched and the other stages follow. -/
theorem launch_stages_cons_returns {launcher : Launcher} {input : Endpoint} {group : Option Pid}
    {stage : Stage} {rest : List Stage} {launch : Launch}
    (returns : (launchStages launcher input group (stage :: rest)).Returns trace launch) :
    (∃ failure, launch = .stopped (some failure) group (stage :: rest) ∧
      StopsClosing stage.arguments (stage.steps rest.isEmpty) trace failure) ∨
    ∃ piping own closing later output next launched laterLaunch,
      trace = piping ++ own ++ closing ++ later ∧
      (connect rest.isEmpty).Returns piping (.ok (output, next)) ∧
      (launchStage launcher group stage input output).Returns own (.ok launched) ∧
      closing.OnlyCloses ∧
      (launchStages launcher next launched.group rest).Returns later laterLaunch ∧
      launch = laterLaunch.after launched := by
  unfold launchStages at returns
  obtain ⟨piping, later, connected, rfl, connecting, going⟩ := Program.returns_bind_iff.mp returns
  have piped := connect_returns stage.arguments connecting
  rcases connected with reason | ⟨output, next⟩
  · obtain ⟨closing, last, _, rfl, closes, ended⟩ := Program.returns_bind_iff.mp going
    obtain ⟨rfl, rfl⟩ := Program.returns_done_iff.mp ended
    refine .inl ⟨reason, rfl, ?_⟩
    rw [List.append_nil, Stage.steps, List.append_assoc]
    exact (StopsClosing.before piped _).close (release_returns closes)
  obtain ⟨own, last, result, rfl, launching, closing⟩ := Program.returns_bind_iff.mp going
  cases result with
  | error reason =>
      obtain ⟨one, more, _, rfl, closesNext, closing⟩ := Program.returns_bind_iff.mp closing
      obtain ⟨two, most, _, rfl, closesOutput, closing⟩ := Program.returns_bind_iff.mp closing
      obtain ⟨three, final, _, rfl, closesInput, ended⟩ := Program.returns_bind_iff.mp closing
      obtain ⟨rfl, rfl⟩ := Program.returns_done_iff.mp ended
      refine .inl ⟨reason, rfl, ?_⟩
      have stops := StopsClosing.after piped (launch_stage_error launching)
      rw [← List.append_assoc] at stops
      have closes := only_closes_append (release_returns closesNext)
        (only_closes_append (release_returns closesOutput) (release_returns closesInput))
      rw [Stage.steps, List.append_assoc (pipeSteps _)]
      simpa using stops.close closes
  | ok launched =>
      obtain ⟨one, more, _, rfl, closesOutput, closing⟩ := Program.returns_bind_iff.mp closing
      obtain ⟨two, most, _, rfl, closesInput, following⟩ := Program.returns_bind_iff.mp closing
      obtain ⟨after, final, laterLaunch, rfl, launchingRest, ended⟩ :=
        Program.returns_bind_iff.mp following
      obtain ⟨rfl, rfl⟩ := Program.returns_done_iff.mp ended
      refine .inr ⟨piping, own, one ++ two, after, output, next, launched, laterLaunch, ?_,
        connecting, launching, ?_, launchingRest, rfl⟩
      · simp only [List.append_assoc, List.append_nil]
      · exact only_closes_append (release_returns closesOutput) (release_returns closesInput)

theorem launch_stages_failed {launcher : Launcher} {input : Endpoint} {group : Option Pid}
    {stages : List Stage} {launch : Launch} {failure : ShellError}
    (returns : (launchStages launcher input group stages).Returns trace launch)
    (failed : launch.failure = some failure) :
    ∃ earlier stage later launchedTrace failingTrace launched,
      stages = earlier ++ stage :: later ∧ trace = launchedTrace ++ failingTrace ∧
        StagesLaunched launcher group earlier launchedTrace launched launch.group ∧
        StopsClosing stage.arguments (stage.steps later.isEmpty) failingTrace failure ∧
        launch.stages =
          launched.map Launched.run ++ (stage :: later).map StageRun.ofStage := by
  induction stages generalizing input group trace launch with
  | nil =>
      obtain ⟨_, _, _, _, _, ended⟩ := Program.returns_bind_iff.mp returns
      obtain ⟨_, rfl⟩ := Program.returns_done_iff.mp ended
      cases failed
  | cons stage rest ih =>
      rcases launch_stages_cons_returns returns with ⟨reason, rfl, stops⟩ |
        ⟨piping, own, closing, after, output, next, launched, laterLaunch, rfl, connecting,
          launching, closes, launchingRest, rfl⟩
      · cases failed
        exact ⟨[], stage, rest, [], _, [], rfl, rfl, .nil group, stops, rfl⟩
      · obtain ⟨earlier, failing, behind, launchedTrace, failingTrace, others, rfl, rfl, inOrder,
          stops, stages⟩ := ih launchingRest failed
        have notLast : (earlier ++ failing :: behind).isEmpty = false := by
          cases earlier <;> rfl
        have stageLaunched := stage_launched_of_returns connecting launching closes
        rw [notLast] at stageLaunched
        refine ⟨stage :: earlier, failing, behind, _, failingTrace, launched :: others, rfl, ?_,
          .cons stageLaunched inOrder, stops, ?_⟩
        · simp only [List.append_assoc]
        · rw [Launch.after, stages]
          rfl

theorem OnlyCloses.never_waits (closes : trace.OnlyCloses) : trace.NeverWaits := by
  intro exchange member pid reportStops waits
  obtain ⟨descriptor, isClose⟩ := closes exchange member
  rw [isClose] at waits
  cases waits

theorem OnlyCloses.no_children (closes : trace.OnlyCloses) : trace.children = [] := by
  refine Trace.children_of_not_fork fun exchange member isFork => ?_
  obtain ⟨descriptor, isClose⟩ := closes exchange member
  rw [isClose] at isFork
  cases isFork

theorem never_waits_append {first second : Trace} (one : first.NeverWaits)
    (other : second.NeverWaits) : (first ++ second).NeverWaits := by
  intro exchange member
  rcases List.mem_append.mp member with isFirst | isSecond
  · exact one exchange isFirst
  · exact other exchange isSecond

theorem LaunchStep.call_ne_wait (step : LaunchStep) (pid : Pid) (reportStops : Bool) :
    step.call ≠ some (.wait pid reportStops) := by
  cases step <;> simp [LaunchStep.call]

theorem StepsPass.never_waits {steps : List LaunchStep} (pass : StepsPass arguments steps trace) :
    trace.NeverWaits := by
  intro exchange member pid reportStops waits
  obtain ⟨step, _, made⟩ := pass.call_of_mem member
  exact step.call_ne_wait pid reportStops (waits ▸ made)

theorem StopsClosing.never_waits {steps : List LaunchStep} {failure : ShellError}
    (stops : StopsClosing arguments steps trace failure) : trace.NeverWaits := by
  obtain ⟨tried, closing, rfl, stopsTried, closes⟩ := stops
  refine never_waits_append ?_ (OnlyCloses.never_waits closes)
  intro exchange member pid reportStops waits
  obtain ⟨step, _, made⟩ := stopsTried.call_of_mem member
  exact step.call_ne_wait pid reportStops (waits ▸ made)

theorem StopsClosing.no_children {stage : Stage} {isLast : Bool} {failure : ShellError}
    (stops : StopsClosing arguments (stage.steps isLast) trace failure) : trace.children = [] := by
  obtain ⟨tried, closing, rfl, stopsTried, closes⟩ := stops
  have noFork := stopsTried.no_children
  rw [Trace.children_append, noFork, OnlyCloses.no_children closes]
  rfl

theorem StageRuns.calls {launcher : Launcher} {group : Option Pid} {stage : Stage}
    {children : List Pid} {launched : Launched}
    (runs : StageRuns launcher group stage children trace launched) :
    ∀ exchange ∈ trace, exchange.request ≠ .fork ∧
      ∀ pid reportStops, exchange.request ≠ .wait pid reportStops := by
  cases runs with
  | external kind settled =>
      rcases settled with rfl | ⟨given, rfl⟩ <;> simp
  | builtin kind returns =>
      intro exchange member
      have kept := (launcher.keepsProcess _ _ stage.arguments).along returns exchange member
      constructor
      · intro isFork
        rw [isFork] at kept
        cases kept
      · intro pid reportStops waits
        rw [waits] at kept
        cases kept

theorem StageRuns.pid {launcher : Launcher} {group : Option Pid} {stage : Stage}
    {children : List Pid} {launched : Launched}
    (runs : StageRuns launcher group stage children trace launched) :
    launched.run.pid.toList = children := by
  cases runs <;> rfl

/-- The run of a launched stage: an external one has its child and is running, and a
builtin is done with zero or one. -/
def StageRun.IsLaunched (run : StageRun) : Prop :=
  match run.stage.kind with
  | .external => ∃ child, run.pid = some child ∧ run.state = .running
  | .builtin _ => run.pid = none ∧ (run.state = .done 0 ∨ run.state = .done 1)

theorem StageRuns.is_launched {launcher : Launcher} {group : Option Pid} {stage : Stage}
    {children : List Pid} {launched : Launched}
    (runs : StageRuns launcher group stage children trace launched) :
    launched.run.stage = stage ∧ launched.run.IsLaunched := by
  cases runs with
  | external kind settled =>
      refine ⟨rfl, ?_⟩
      rw [StageRun.IsLaunched, kind]
      exact ⟨_, rfl, rfl⟩
  | @builtin command input output trace result kind returns =>
      refine ⟨rfl, ?_⟩
      rw [StageRun.IsLaunched, kind]
      cases result.outcome with
      | handled => exact ⟨rfl, .inl rfl⟩
      | failed => exact ⟨rfl, .inr rfl⟩

theorem StageLaunched.children {launcher : Launcher} {group : Option Pid} {stage : Stage}
    {isLast : Bool} {launched : Launched}
    (stageLaunched : StageLaunched launcher group stage isLast trace launched) :
    trace.children = launched.run.pid.toList ∧ trace.NeverWaits := by
  obtain ⟨opening, own, closing, rfl, passes, runs, closes⟩ := stageLaunched.parts
  have ownNoChild : own.children = [] :=
    Trace.children_of_not_fork fun exchange member => (runs.calls exchange member).1
  have ownNeverWaits : own.NeverWaits := fun exchange member => (runs.calls exchange member).2
  constructor
  · rw [Trace.children_append, Trace.children_append, ownNoChild, OnlyCloses.no_children closes,
      List.append_nil, List.append_nil, runs.pid]
  · exact never_waits_append (never_waits_append passes.never_waits ownNeverWaits)
      (OnlyCloses.never_waits closes)

theorem StagesLaunched.summary {launcher : Launcher} {group final : Option Pid}
    {stages : List Stage} {launched : List Launched}
    (all : StagesLaunched launcher group stages trace launched final) :
    trace.children = (launched.map Launched.run).filterMap StageRun.pid ∧ trace.NeverWaits ∧
      (launched.map Launched.run).map StageRun.stage = stages ∧
      ∀ run ∈ launched.map Launched.run, run.IsLaunched := by
  induction all with
  | nil group =>
      refine ⟨rfl, ?_, rfl, by simp⟩
      intro exchange member
      cases member
  | cons first _ ih =>
      obtain ⟨childrenLater, neverWaitsLater, stagesLater, launchedLater⟩ := ih
      obtain ⟨childrenFirst, neverWaitsFirst⟩ := first.children
      obtain ⟨_, _, _, _, _, runs, _⟩ := first.parts
      obtain ⟨stageFirst, launchedFirst⟩ := runs.is_launched
      refine ⟨?_, never_waits_append neverWaitsFirst neverWaitsLater, ?_, ?_⟩
      · rw [Trace.children_append, childrenFirst, childrenLater, List.map_cons,
          List.filterMap_cons]
        cases Launched.run _ |>.pid <;> rfl
      · rw [List.map_cons, List.map_cons, stagesLater, stageFirst]
      · rw [List.map_cons, List.forall_mem_cons]
        exact ⟨launchedFirst, launchedLater⟩

theorem StopsClosing.opens_own {stage : Stage} {isLast : Bool} {failure : ShellError}
    (stops : StopsClosing arguments (stage.steps isLast) trace failure) {path : PathName}
    {access : Access} {reply : Except Errno Descriptor}
    (opened : ⟨.openFile path access, reply⟩ ∈ trace) :
    ∃ name, path = .ofText name ∧ LaunchStep.openFile name access ∈ stage.fileSteps := by
  obtain ⟨tried, closing, rfl, stopsTried, closes⟩ := stops
  rcases List.mem_append.mp opened with isTried | isClosing
  · obtain ⟨step, among, made⟩ := stopsTried.call_of_mem isTried
    obtain ⟨name, rfl, rfl⟩ := LaunchStep.open_of_call made
    refine ⟨name, rfl, ?_⟩
    rw [Stage.steps, List.mem_append, List.mem_append] at among
    rcases among with (inPipe | inFiles) | inRun
    · cases isLast <;> simp [pipeSteps] at inPipe
    · exact inFiles
    · unfold Stage.runSteps at inRun
      split at inRun <;> simp [childSteps] at inRun
  · obtain ⟨descriptor, isClose⟩ := closes _ isClosing
    cases isClose

theorem StopsClosing.output_after_input {stage : Stage} {isLast : Bool} {failure : ShellError}
    (stops : StopsClosing arguments (stage.steps isLast) trace failure) {path : PathName}
    {source : String} {mode : Nat} {reply : Except Errno Descriptor}
    (opened : ⟨.openFile path (.truncating mode), reply⟩ ∈ trace)
    (hasInput : stage.input = some source) :
    ∃ descriptor, ⟨.openFile source .reading, .ok descriptor⟩ ∈ trace := by
  obtain ⟨tried, closing, rfl, stopsTried, closes⟩ := stops
  rcases List.mem_append.mp opened with isTried | isClosing
  · obtain ⟨descriptor, found⟩ := stopsTried.output_after_input isTried hasInput
    exact ⟨descriptor, List.mem_append_left _ found⟩
  · obtain ⟨descriptor, isClose⟩ := closes _ isClosing
    cases isClose

end

/-- A launch ended at the first stage that could not be launched, which some stages precede
and others follow. The trace of the launch is in two parts: one for the stages before, and
one for the stage at which it ended. -/
structure EndsAt (launcher : Launcher) (launch : Launch) (failure : ShellError)
    (earlier : List Stage) (stage : Stage) (later : List Stage)
    (launchedTrace failingTrace : Trace) : Prop where
  inOrder : ∃ launched, StagesLaunched launcher none earlier launchedTrace launched launch.group ∧
    launch.stages = launched.map Launched.run ++ (stage :: later).map StageRun.ofStage
  launchedRuns : ∀ run ∈ launch.stages.take earlier.length, run.IsLaunched
  otherRuns : launch.stages.drop earlier.length = (stage :: later).map StageRun.ofStage
  stops : StopsClosing stage.arguments (stage.steps later.isEmpty) failingTrace failure
  children : launchedTrace.children = launch.stages.filterMap StageRun.pid
  noChild : failingTrace.children = []
  opensOwn : ∀ path access reply, ⟨.openFile path access, reply⟩ ∈ failingTrace →
    ∃ name, path = .ofText name ∧ LaunchStep.openFile name access ∈ stage.fileSteps
  outputAfterInput : ∀ path mode reply source,
    ⟨.openFile path (.truncating mode), reply⟩ ∈ failingTrace → stage.input = some source →
      ∃ descriptor, ⟨.openFile source .reading, .ok descriptor⟩ ∈ failingTrace
  neverWaits : (launchedTrace ++ failingTrace).NeverWaits

theorem no_pids_of_unlaunched (stages : List Stage) :
    (stages.map StageRun.ofStage).filterMap StageRun.pid = [] := by
  rw [List.filterMap_eq_nil_iff]
  intro run member
  obtain ⟨_, _, rfl⟩ := List.mem_map.mp member
  rfl

theorem ends_at_of_failed {launcher : Launcher} {stages : List Stage} {trace : Trace}
    {launch : Launch} {failure : ShellError}
    (returns : (launchStages launcher .inherited none stages).Returns trace launch)
    (failed : launch.failure = some failure) :
    ∃ earlier stage later launchedTrace failingTrace, stages = earlier ++ stage :: later ∧
      trace = launchedTrace ++ failingTrace ∧
      EndsAt launcher launch failure earlier stage later launchedTrace failingTrace := by
  obtain ⟨earlier, stage, later, launchedTrace, failingTrace, launched, whole, made, inOrder, stops,
    runs⟩ := launch_stages_failed returns failed
  obtain ⟨children, neverWaits, sameStages, areLaunched⟩ := inOrder.summary
  have count : (launched.map Launched.run).length = earlier.length := by
    rw [← sameStages, List.length_map (f := StageRun.stage)]
  refine ⟨earlier, stage, later, launchedTrace, failingTrace, whole, made,
    ⟨launched, inOrder, runs⟩, ?_, ?_, stops, ?_, stops.no_children, fun _ _ _ => stops.opens_own,
    fun _ _ _ _ => stops.output_after_input, never_waits_append neverWaits stops.never_waits⟩
  · rw [runs, ← count, List.take_left]
    exact areLaunched
  · rw [runs, ← count, List.drop_left]
  · rw [children, runs, List.filterMap_append, no_pids_of_unlaunched, List.append_nil]

theorem reclaim_terminal_returns {context : Context} {group : Option Pid} {trace : Trace}
    (returns : (reclaimTerminal context group).Returns trace ()) : trace.NeverWaits := by
  unfold reclaimTerminal at returns
  split at returns
  · obtain ⟨given, later, rfl, ended⟩ := Program.returns_call_iff.mp returns
    obtain ⟨rfl, _⟩ := Program.returns_done_iff.mp ended
    simp [Trace.NeverWaits]
  · obtain ⟨rfl, _⟩ := Program.returns_done_iff.mp returns
    simp [Trace.NeverWaits]

theorem reclaim_terminal_can_return (context : Context) (group : Option Pid) :
    ∃ trace, (reclaimTerminal context group).Returns trace () := by
  unfold reclaimTerminal
  split
  · exact ⟨[⟨.giveTerminal context.shellGroup, .ok ()⟩], .step (.stop _)⟩
  · exact ⟨[], .stop _⟩

/-- When a stage of a job cannot be launched, the launch ends there, with the failure of
the first step that failed and without any trace of the stages behind it, and the job
returns that failure without waiting for the stages that run. -/
theorem failed_launch_ends_the_job {launcher : Launcher} (table : JobTable) {job : Job}
    {trace : Trace} {launch : Launch} {failure : ShellError}
    (returns : (launchStages (launcher.forJob job) .inherited none job.stages).Returns trace launch)
    (failed : launch.failure = some failure) :
    (∃ earlier stage later launchedTrace failingTrace, job.stages = earlier ++ stage :: later ∧
      trace = launchedTrace ++ failingTrace ∧
      EndsAt (launcher.forJob job) launch failure earlier stage later launchedTrace
        failingTrace) ∧
    (∃ finish result, (runJob launcher table job).Returns (trace ++ finish) result) ∧
    ∀ finish result, (runJob launcher table job).Returns (trace ++ finish) result →
      result.outcome = .error failure ∧ result.run.stages = launch.stages ∧
        finish.NeverWaits := by
  have going := Program.Returns.bind returns fun launch =>
    settleJob (launcher.forJob job)
      ⟨job, (takeSlot job table).1, launch.group, launch.stages⟩
      (recordGroup (takeSlot job table).2 (takeSlot job table).1 launch.group) launch
  simp only [settleJob, failed] at going
  refine ⟨ends_at_of_failed returns failed, ?_, ?_⟩
  · obtain ⟨finish, reclaims⟩ :=
      reclaim_terminal_can_return (launcher.forJob job).context launch.group
    exact ⟨finish, _, going.trans (Program.Returns.bind reclaims _)⟩
  · intro finish result whole
    obtain ⟨middle, before, after⟩ := whole.cut
    rw [before.unique going] at after
    obtain ⟨reclaiming, last, _, rfl, reclaims, ended⟩ := Program.returns_bind_iff.mp after
    obtain ⟨rfl, rfl⟩ := Program.returns_done_iff.mp ended
    rw [List.append_nil]
    exact ⟨rfl, rfl, reclaim_terminal_returns reclaims⟩

def brokenPipeline : Job where
  text := "cat | wc < gone | sort > never"
  mode := .foreground
  stages :=
    [⟨"cat", ["cat"], none, none⟩, ⟨"wc < gone", ["wc"], some "gone", none⟩,
      ⟨"sort > never", ["sort"], none, some "never"⟩]

def brokenPipelineLauncher : Launcher :=
  (Shell.new .default 100 "user" none "/").launcher (.ofShell 100 100 false)

def brokenPipelineTrace : Trace :=
  [⟨.pipe, .ok (3, 4)⟩, ⟨.flushOutput, .ok ()⟩, ⟨.fork, .ok (some 200)⟩,
    ⟨.joinGroup 200 200, .ok ()⟩, ⟨.close 4, .ok ()⟩, ⟨.pipe, .ok (5, 6)⟩,
    ⟨.openFile "gone" .reading, .error .noEntry⟩, ⟨.close 5, .ok ()⟩, ⟨.close 6, .ok ()⟩,
    ⟨.close 3, .ok ()⟩]

theorem failed_launch_ends_the_job_missing_file :
    (∃ launch, (launchStages (brokenPipelineLauncher.forJob brokenPipeline) .inherited none
        brokenPipeline.stages).Returns brokenPipelineTrace launch ∧
      launch.failure = some (.redirect "gone" (.refused .noEntry))) ∧
    ∃ finish result, (runJob brokenPipelineLauncher (.empty 20) brokenPipeline).Returns
      (brokenPipelineTrace ++ finish) result ∧
        result.outcome = .error (.redirect "gone" (.refused .noEntry)) := by
  have returns : (launchStages (brokenPipelineLauncher.forJob brokenPipeline) .inherited none
      brokenPipeline.stages).Returns brokenPipelineTrace
      ⟨some (.redirect "gone" (.refused .noEntry)), some 200,
        [⟨⟨"cat", ["cat"], none, none⟩, some 200, .running⟩,
          ⟨⟨"wc < gone", ["wc"], some "gone", none⟩, none, .running⟩,
          ⟨⟨"sort > never", ["sort"], none, some "never"⟩, none, .running⟩], none⟩ :=
    .step (.step (.step (.step (.step (.step (.step (.step (.step (.step (.stop _))))))))))
  obtain ⟨_, ⟨finish, result, ran⟩, ends⟩ :=
    failed_launch_ends_the_job (.empty 20) returns rfl
  exact ⟨⟨_, returns, rfl⟩, finish, result, ran, (ends finish result ran).1⟩

end JobShell
