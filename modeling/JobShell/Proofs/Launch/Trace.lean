import JobShell.Proofs.Launch.Failure

/-!
# What a launch leaves behind

The children of a launch are the processes of its stages, and the first of them is the group
of the job, whether the launch came to its end or not. A builtin that was launched has run
along a part of the trace, behind the calls that opened its output.
-/

namespace JobShell

open Unix

set_option autoImplicit false

/-- The descriptor that a stage writes to, found among the calls that opened it. -/
inductive Stage.HasOutput (stage : Stage) (isLast : Bool) (opening : Trace) :
    Descriptor → Prop where
  | file {path : String} {descriptor : Descriptor} (redirected : stage.output = some path)
      (opened : ⟨.openFile path (.truncating Redirection.outputMode), .ok descriptor⟩ ∈ opening) :
      HasOutput stage isLast opening descriptor
  | pipe {reader writer : Descriptor} (plain : stage.output = none) (notLast : isLast = false)
      (made : ⟨.pipe, .ok (reader, writer)⟩ ∈ opening) : HasOutput stage isLast opening writer
  | shell (plain : stage.output = none) (last : isLast = true) :
      HasOutput stage isLast opening standardOutput

/-- A builtin has run along a trace, when all that its stage needs had been opened. -/
structure BuiltinRuns (launcher : Launcher) (stage : Stage) (isLast : Bool) (command : Builtin)
    (opening own : Trace) (output : Descriptor) (result : Builtin.Result) : Prop where
  opens : StepsPass stage.arguments (stage.steps isLast) opening
  hasOutput : stage.HasOutput isLast opening output
  returns : ∃ input : Descriptor,
    (launcher.invoke command (launcher.context.withEndpoints input output)
      stage.arguments).Returns own result

variable {launcher : Launcher} {group : Option Pid} {stage : Stage} {trace : Trace}

theorem StageRuns.group_eq {children : List Pid} {launched : Launched}
    (runs : StageRuns launcher group stage children trace launched) :
    launched.group = group.or children.head? := by
  cases runs with
  | external kind settled => cases group <;> rfl
  | builtin kind returns => simp

theorem StageLaunched.group_eq {isLast : Bool} {launched : Launched}
    (stageLaunched : StageLaunched launcher group stage isLast trace launched) :
    launched.group = group.or trace.children.head? := by
  obtain ⟨children, -⟩ := stageLaunched.children
  obtain ⟨_, _, _, _, _, runs, _⟩ := stageLaunched.parts
  rw [children, runs.pid]
  exact runs.group_eq

theorem launch_group {input : Endpoint} {stages : List Stage} {launch : Launch}
    (returns : (launchStages launcher input group stages).Returns trace launch) :
    launch.group = group.or trace.children.head? := by
  induction stages generalizing input group trace launch with
  | nil =>
      obtain ⟨closing, _, _, rfl, closes, ended⟩ := Program.returns_bind_iff.mp returns
      obtain ⟨rfl, rfl⟩ := Program.returns_done_iff.mp ended
      rw [List.append_nil, OnlyCloses.no_children (release_returns closes)]
      simp [Launch.stopped]
  | cons stage rest ih =>
      rcases launch_stages_cons_returns returns with ⟨failure, rfl, stops⟩ |
        ⟨piping, own, closing, later, output, next, launched, laterLaunch, rfl, connecting,
          launching, closes, launchingRest, rfl⟩
      · rw [stops.no_children]
        simp [Launch.stopped]
      · have first := (stage_launched_of_returns connecting launching closes).group_eq
        have others := ih launchingRest
        rw [Trace.children_append, List.head?_append, ← Option.or_assoc, ← first]
        exact others

theorem launch_children {input : Endpoint} {stages : List Stage} {launch : Launch}
    (returns : (launchStages launcher input group stages).Returns trace launch) :
    trace.children = launch.stages.filterMap StageRun.pid := by
  induction stages generalizing input group trace launch with
  | nil =>
      obtain ⟨closing, _, _, rfl, closes, ended⟩ := Program.returns_bind_iff.mp returns
      obtain ⟨rfl, rfl⟩ := Program.returns_done_iff.mp ended
      rw [List.append_nil, OnlyCloses.no_children (release_returns closes)]
      rfl
  | cons stage rest ih =>
      rcases launch_stages_cons_returns returns with ⟨failure, rfl, stops⟩ |
        ⟨piping, own, closing, later, output, next, launched, laterLaunch, rfl, connecting,
          launching, closes, launchingRest, rfl⟩
      · rw [stops.no_children, Launch.stopped, no_pids_of_unlaunched]
      · have first := (stage_launched_of_returns connecting launching closes).children.1
        rw [Trace.children_append, first, ih launchingRest, Launch.after, List.filterMap_cons]
        cases launched.run.pid <;> rfl

theorem connect_output {isLast : Bool} {output next : Endpoint}
    (returns : (connect isLast).Returns trace (.ok (output, next))) :
    isLast = true ∧ output = .inherited ∨
      isLast = false ∧ ∃ reader writer, output = .owned writer ∧
        trace = [⟨.pipe, .ok (reader, writer)⟩] := by
  unfold connect at returns
  cases isLast with
  | true =>
      obtain ⟨_, same⟩ := Program.returns_done_iff.mp returns
      cases same
      exact .inl ⟨rfl, rfl⟩
  | false =>
      obtain ⟨reply, later, rfl, ended⟩ := Program.returns_call_iff.mp returns
      cases reply with
      | error errno => cases (Program.returns_done_iff.mp ended).2
      | ok ends =>
          obtain ⟨rfl, same⟩ := Program.returns_done_iff.mp ended
          cases same
          exact .inr ⟨rfl, _, _, rfl, rfl⟩

theorem open_side_output {path : Option String} {access : Access} {endpoint : Endpoint}
    (returns : (Redirection.openSide path access).Returns trace (.ok endpoint)) :
    path = none ∧ endpoint = .inherited ∨
      ∃ name descriptor, path = some name ∧ endpoint = .owned descriptor ∧
        trace = [⟨.openFile name access, .ok descriptor⟩] := by
  unfold Redirection.openSide at returns
  cases path with
  | none =>
      obtain ⟨_, same⟩ := Program.returns_done_iff.mp returns
      cases same
      exact .inl ⟨rfl, rfl⟩
  | some name =>
      obtain ⟨before, after, opened, rfl, opening, ended⟩ := Program.returns_bind_iff.mp returns
      cases opened with
      | error fault => cases (Program.returns_done_iff.mp ended).2
      | ok descriptor =>
          obtain ⟨rfl, same⟩ := Program.returns_done_iff.mp ended
          cases same
          unfold openPath at opening
          split at opening
          · cases (Program.returns_done_iff.mp opening).2
          · obtain ⟨reply, later, rfl, replied⟩ := Program.returns_call_iff.mp opening
            cases reply with
            | error errno => cases (Program.returns_done_iff.mp replied).2
            | ok found =>
                obtain ⟨rfl, same⟩ := Program.returns_done_iff.mp replied
                cases same
                exact .inr ⟨name, _, rfl, rfl, rfl⟩

theorem open_for_output {redirection : Redirection}
    (returns : (Redirection.openFor stage).Returns trace (.ok redirection)) :
    stage.output = none ∧ redirection.output = .inherited ∨
      ∃ path descriptor, stage.output = some path ∧ redirection.output = .owned descriptor ∧
        ⟨.openFile path (.truncating Redirection.outputMode), .ok descriptor⟩ ∈ trace := by
  obtain ⟨first, rest, opened, rfl, _, returns⟩ := Program.returns_bind_iff.mp returns
  cases opened with
  | error failure => cases (Program.returns_done_iff.mp returns).2
  | ok input =>
      obtain ⟨second, last, opened, rfl, openOutput, returns⟩ := Program.returns_bind_iff.mp returns
      cases opened with
      | error failure =>
          obtain ⟨_, _, _, _, _, ended⟩ := Program.returns_bind_iff.mp returns
          cases (Program.returns_done_iff.mp ended).2
      | ok output =>
          obtain ⟨_, same⟩ := Program.returns_done_iff.mp returns
          cases same
          rcases open_side_output openOutput with isNone | ⟨path, descriptor, isSome, owned, rfl⟩
          · exact .inl isNone
          · exact .inr ⟨path, descriptor, isSome, owned, by simp⟩

theorem has_output {isLast : Bool} {output next : Endpoint} {redirection : Redirection}
    {piping opening : Trace} (connecting : (connect isLast).Returns piping (.ok (output, next)))
    (opens : (Redirection.openFor stage).Returns opening (.ok redirection)) :
    stage.HasOutput isLast (piping ++ opening)
      ((redirection.output.orElse output).descriptor standardOutput) := by
  rcases open_for_output opens with
    ⟨plain, inherits⟩ | ⟨path, descriptor, redirected, owned, opened⟩
  · rw [inherits]
    rcases connect_output connecting with ⟨last, rfl⟩ | ⟨notLast, reader, writer, rfl, rfl⟩
    · exact .shell plain last
    · exact .pipe plain notLast (List.mem_append_left _ List.mem_cons_self)
  · rw [owned]
    exact .file redirected (List.mem_append_right _ opened)

theorem launch_stage_builtin {isLast : Bool} {input output next : Endpoint} {launched : Launched}
    {command : Builtin} {piping : Trace} (kind : stage.kind = .builtin command)
    (connecting : (connect isLast).Returns piping (.ok (output, next)))
    (returns : (launchStage launcher group stage input output).Returns trace (.ok launched)) :
    launched.run.stage = stage ∧ ∃ opening own closing target result,
      piping ++ trace = opening ++ own ++ closing ∧
      BuiltinRuns launcher stage isLast command opening own target result ∧
      launched.run.state = .done result.outcome.exitCode := by
  have piped := connect_returns stage.arguments connecting
  obtain ⟨opening, rest, opened, rfl, opens, running⟩ := Program.returns_bind_iff.mp returns
  have tried := open_for_returns stage.arguments opens
  cases opened with
  | error reason => cases (Program.returns_done_iff.mp running).2
  | ok redirection =>
      obtain ⟨own, last, result, rfl, runs, releasing⟩ := Program.returns_bind_iff.mp running
      obtain ⟨closing, final, _, rfl, _, ended⟩ := Program.returns_bind_iff.mp releasing
      obtain ⟨rfl, rfl⟩ := Program.returns_done_iff.mp ended
      unfold launchOn at runs
      rw [kind] at runs
      obtain ⟨invoking, others, answer, rfl, invoked, ended⟩ := Program.returns_bind_iff.mp runs
      obtain ⟨rfl, same⟩ := Program.returns_done_iff.mp ended
      cases same
      have runsOn : BuiltinRuns launcher stage isLast command (piping ++ opening) invoking
          ((redirection.output.orElse output).descriptor standardOutput) answer := by
        refine ⟨?_, has_output connecting opens, _, invoked⟩
        rw [Stage.steps, Stage.runSteps, kind, List.append_nil]
        exact StepsPass.append piped tried
      exact ⟨rfl, _, _, closing, _, _, by simp, runsOn, rfl⟩

theorem launch_ran_builtin {input : Endpoint} {stages : List Stage} {launch : Launch}
    {index : Nat} {run : StageRun} {command : Builtin}
    (returns : (launchStages launcher input group stages).Returns trace launch)
    (found : launch.stages[index]? = some run) (kind : run.stage.kind = .builtin command)
    (settled : run.state ≠ .running) :
    ∃ before opening own after output result, trace = before ++ opening ++ own ++ after ∧
      BuiltinRuns launcher run.stage (decide (index + 1 = stages.length)) command opening own
        output result ∧
      run.state = .done result.outcome.exitCode := by
  induction stages generalizing input group trace launch index with
  | nil =>
      obtain ⟨_, _, _, _, _, ended⟩ := Program.returns_bind_iff.mp returns
      obtain ⟨_, rfl⟩ := Program.returns_done_iff.mp ended
      simp [Launch.stopped] at found
  | cons stage rest ih =>
      rcases launch_stages_cons_returns returns with ⟨failure, rfl, stops⟩ |
        ⟨piping, own, closing, later, output, next, launched, laterLaunch, rfl, connecting,
          launching, closes, launchingRest, rfl⟩
      · obtain ⟨unlaunched, _, rfl⟩ := List.mem_map.mp (List.mem_of_getElem? found)
        exact absurd rfl settled
      · cases index with
        | zero =>
            have isFirst : launched.run = run := by simpa [Launch.after] using found
            have isLast : decide (0 + 1 = (stage :: rest).length) = rest.isEmpty := by
              cases rest <;> simp
            obtain ⟨_, _, _, _, _, runs, _⟩ :=
              (stage_launched_of_returns connecting launching closes).parts
            have sameStage := runs.is_launched.1
            rw [← isFirst, sameStage] at kind
            obtain ⟨_, opening, invoking, behind, target, result, made, ran, state⟩ :=
              launch_stage_builtin kind connecting launching
            rw [isLast, ← isFirst, sameStage]
            refine ⟨[], opening, invoking, behind ++ closing ++ later, target, result, ?_, ran,
              state⟩
            simp [made]
        | succ index =>
            have isLater : laterLaunch.stages[index]? = some run := by
              simpa [Launch.after] using found
            obtain ⟨before, opening, invoking, after, target, result, rfl, ran, state⟩ :=
              ih launchingRest isLater
            have isLast : decide (index + 1 + 1 = (stage :: rest).length) =
                decide (index + 1 = rest.length) := by simp
            rw [isLast]
            refine ⟨piping ++ own ++ closing ++ before, opening, invoking, after, target, result,
              ?_, ran, state⟩
            simp

end JobShell
