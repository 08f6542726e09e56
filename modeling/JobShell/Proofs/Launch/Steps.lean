import JobShell.Proofs.Program.Trace
import JobShell.Job.Run

/-!
# The steps of launching a stage

Launching a stage is a sequence of steps each of which succeeds or fails: its pipe, its
two files, and for an external stage the checks of its arguments, the flush and the
fork. Every step makes at most one call. A launch that stops at a step has gone through
the ones before it and through none of those after it.
-/

namespace JobShell

open Unix

set_option autoImplicit false

inductive LaunchStep where
  | makePipe
  | openFile (path : String) (access : Access)
  | requireCommand
  | refuseNul
  | flushOutput
  | makeChild
  deriving DecidableEq, Repr

def Stage.fileSteps (stage : Stage) : List LaunchStep :=
  stage.input.toList.map (LaunchStep.openFile · .reading) ++
    stage.output.toList.map (LaunchStep.openFile · (.truncating Redirection.outputMode))

def childSteps : List LaunchStep :=
  [.requireCommand, .refuseNul, .flushOutput, .makeChild]

def pipeSteps (isLast : Bool) : List LaunchStep :=
  if isLast then [] else [.makePipe]

def Stage.runSteps (stage : Stage) : List LaunchStep :=
  match stage.kind with
  | .builtin _ => []
  | .external => childSteps

def Stage.steps (stage : Stage) (isLast : Bool) : List LaunchStep :=
  pipeSteps isLast ++ stage.fileSteps ++ stage.runSteps

/-- A step succeeds with the calls of a trace. -/
inductive LaunchStep.Passes (arguments : List String) : LaunchStep → Trace → Prop where
  | makePipe (ends : Descriptor × Descriptor) : Passes arguments .makePipe [⟨.pipe, .ok ends⟩]
  | openFile {path : String} (access : Access) (descriptor : Descriptor)
      (noNul : hasNul path = false) :
      Passes arguments (.openFile path access) [⟨.openFile path access, .ok descriptor⟩]
  | requireCommand (given : arguments ≠ []) : Passes arguments .requireCommand []
  | refuseNul (noNul : arguments.any hasNul = false) : Passes arguments .refuseNul []
  | flushOutput : Passes arguments .flushOutput [⟨.flushOutput, .ok ()⟩]
  | makeChild (child : Pid) : Passes arguments .makeChild [⟨.fork, .ok (some child)⟩]

/-- A step fails with the calls of a trace and for a reason. -/
inductive LaunchStep.Fails (arguments : List String) : LaunchStep → Trace → ShellError → Prop where
  | makePipe (errno : Errno) : Fails arguments .makePipe [⟨.pipe, .error errno⟩] (.pipe errno)
  | openFile {path : String} (access : Access) (errno : Errno) (noNul : hasNul path = false) :
      Fails arguments (.openFile path access) [⟨.openFile path access, .error errno⟩]
        (.redirect path (.refused errno))
  | nulInPath {path : String} (access : Access) (nul : hasNul path = true) :
      Fails arguments (.openFile path access) [] (.redirect path .nulInPath)
  | requireCommand (missing : arguments = []) :
      Fails arguments .requireCommand [] .emptyCommand
  | refuseNul {command : String} (isFirst : arguments.head? = some command)
      (nul : arguments.any hasNul = true) : Fails arguments .refuseNul [] (.nulArgument command)
  | flushOutput (errno : Errno) :
      Fails arguments .flushOutput [⟨.flushOutput, .error errno⟩]
        (.explained "failed flush stdout" (.transfer errno))
  | makeChild (errno : Errno) : Fails arguments .makeChild [⟨.fork, .error errno⟩] (.fork errno)

inductive StepsPass (arguments : List String) : List LaunchStep → Trace → Prop where
  | nil : StepsPass arguments [] []
  | cons {step : LaunchStep} {steps : List LaunchStep} {trace later : Trace}
      (passes : step.Passes arguments trace) (rest : StepsPass arguments steps later) :
      StepsPass arguments (step :: steps) (trace ++ later)

/-- Some step fails, at the end of the trace and for the given reason, and all steps before
it succeed. -/
def StopsAt (arguments : List String) (steps : List LaunchStep) (trace : Trace)
    (failure : ShellError) : Prop :=
  ∃ passed step left passedTrace failedTrace,
    steps = passed ++ step :: left ∧ trace = passedTrace ++ failedTrace ∧
      StepsPass arguments passed passedTrace ∧ step.Fails arguments failedTrace failure

def Unix.Trace.OnlyCloses (trace : Trace) : Prop :=
  ∀ exchange ∈ trace, ∃ descriptor, exchange.request = .close descriptor

def LaunchStep.call : LaunchStep → Option Call
  | .makePipe => some .pipe
  | .openFile path access => some (.openFile path access)
  | .requireCommand | .refuseNul => none
  | .flushOutput => some .flushOutput
  | .makeChild => some .fork

section

variable {arguments : List String} {steps others : List LaunchStep} {trace later : Trace}
  {step : LaunchStep} {failure : ShellError}

theorem LaunchStep.Passes.call_eq (passes : step.Passes arguments trace) {exchange : Exchange}
    (member : exchange ∈ trace) : step.call = some exchange.request := by
  cases passes <;> simp_all [LaunchStep.call]

theorem LaunchStep.Fails.call_eq (fails : step.Fails arguments trace failure)
    {exchange : Exchange} (member : exchange ∈ trace) : step.call = some exchange.request := by
  cases fails <;> simp_all [LaunchStep.call]

theorem LaunchStep.Fails.no_children (fails : step.Fails arguments trace failure) :
    trace.children = [] := by
  cases fails <;> rfl

theorem StepsPass.append (first : StepsPass arguments steps trace)
    (second : StepsPass arguments others later) :
    StepsPass arguments (steps ++ others) (trace ++ later) := by
  induction first with
  | nil => exact second
  | cons passes _ ih =>
      rw [List.append_assoc]
      exact .cons passes ih

theorem StepsPass.single (passes : step.Passes arguments trace) :
    StepsPass arguments [step] trace := by
  have all := StepsPass.cons passes .nil
  rw [List.append_nil] at all
  exact all

theorem StepsPass.call_of_mem (pass : StepsPass arguments steps trace) {exchange : Exchange}
    (member : exchange ∈ trace) : ∃ step ∈ steps, step.call = some exchange.request := by
  induction pass with
  | nil => cases member
  | cons passes _ ih =>
      rcases List.mem_append.mp member with isHere | isLater
      · exact ⟨_, List.mem_cons_self, passes.call_eq isHere⟩
      · obtain ⟨step, among, made⟩ := ih isLater
        exact ⟨step, List.mem_cons_of_mem _ among, made⟩

theorem StepsPass.trace_of_mem (pass : StepsPass arguments steps trace) (member : step ∈ steps) :
    ∃ own, step.Passes arguments own ∧ own ⊆ trace := by
  induction pass with
  | nil => cases member
  | cons passes _ ih =>
      rcases List.mem_cons.mp member with rfl | isLater
      · exact ⟨_, passes, List.subset_append_left _ _⟩
      · obtain ⟨own, passesOwn, among⟩ := ih isLater
        exact ⟨own, passesOwn, List.Subset.trans among (List.subset_append_right _ _)⟩

theorem StopsAt.of_fails (fails : step.Fails arguments trace failure) (left : List LaunchStep) :
    StopsAt arguments (step :: left) trace failure :=
  ⟨[], step, left, [], trace, rfl, rfl, .nil, fails⟩

theorem StopsAt.after (first : StepsPass arguments steps trace)
    (second : StopsAt arguments others later failure) :
    StopsAt arguments (steps ++ others) (trace ++ later) failure := by
  obtain ⟨passed, step, left, passedTrace, failedTrace, rfl, rfl, pass, fails⟩ := second
  exact ⟨steps ++ passed, step, left, trace ++ passedTrace, failedTrace,
    (List.append_assoc ..).symm, (List.append_assoc ..).symm, first.append pass, fails⟩

theorem StopsAt.before (first : StopsAt arguments steps trace failure)
    (others : List LaunchStep) : StopsAt arguments (steps ++ others) trace failure := by
  obtain ⟨passed, step, left, passedTrace, failedTrace, rfl, made, pass, fails⟩ := first
  refine ⟨passed, step, left ++ others, passedTrace, failedTrace, ?_, made, pass, fails⟩
  rw [List.append_assoc, List.cons_append]

theorem StopsAt.call_of_mem (stops : StopsAt arguments steps trace failure) {exchange : Exchange}
    (member : exchange ∈ trace) : ∃ step ∈ steps, step.call = some exchange.request := by
  obtain ⟨passed, step, left, passedTrace, failedTrace, rfl, rfl, pass, fails⟩ := stops
  rcases List.mem_append.mp member with isPassed | isFailed
  · obtain ⟨reached, among, made⟩ := pass.call_of_mem isPassed
    exact ⟨reached, List.mem_append_left _ among, made⟩
  · exact ⟨step, List.mem_append_right _ List.mem_cons_self, fails.call_eq isFailed⟩

theorem Stage.no_child_in_front (stage : Stage) (isLast : Bool) :
    LaunchStep.makeChild ∉ pipeSteps isLast ++ stage.fileSteps := by
  cases isLast <;> simp [pipeSteps, Stage.fileSteps]

theorem Stage.child_step_last (stage : Stage) (isLast : Bool) :
    LaunchStep.makeChild ∉ (stage.steps isLast).dropLast := by
  have notInFront := stage.no_child_in_front isLast
  unfold Stage.steps Stage.runSteps
  cases stage.kind with
  | builtin command =>
      intro member
      rw [List.append_nil] at member
      exact notInFront (List.dropLast_subset _ member)
  | external =>
      intro member
      have notEmpty : childSteps ≠ [] := List.cons_ne_nil _ _
      rw [List.dropLast_append_of_ne_nil notEmpty, List.mem_append] at member
      rcases member with inFront | inChild
      · exact notInFront inFront
      · simp [childSteps] at inChild

theorem StepsPass.no_children (pass : StepsPass arguments steps trace)
    (noFork : LaunchStep.makeChild ∉ steps) : trace.children = [] := by
  refine Trace.children_of_not_fork fun exchange member isFork => ?_
  obtain ⟨reached, among, made⟩ := pass.call_of_mem member
  rw [isFork] at made
  cases reached <;> first | exact noFork among | cases made

theorem StopsAt.no_children {stage : Stage} {isLast : Bool}
    (stops : StopsAt arguments (stage.steps isLast) trace failure) : trace.children = [] := by
  obtain ⟨passed, step, left, passedTrace, failedTrace, steps, rfl, pass, fails⟩ := stops
  have notPassed : LaunchStep.makeChild ∉ passed := by
    intro among
    refine stage.child_step_last isLast ?_
    rw [steps, List.dropLast_append_of_ne_nil (List.cons_ne_nil _ _)]
    exact List.mem_append_left _ among
  rw [Trace.children_append, pass.no_children notPassed, fails.no_children]
  rfl

theorem LaunchStep.open_of_call {step : LaunchStep} {path : PathName} {access : Access}
    (made : step.call = some (.openFile path access)) :
    ∃ name, path = .ofText name ∧ step = .openFile name access := by
  cases step with
  | openFile name other =>
      cases made
      exact ⟨name, rfl, rfl⟩
  | _ => cases made

theorem StopsAt.output_after_input {stage : Stage} {isLast : Bool}
    (stops : StopsAt arguments (stage.steps isLast) trace failure) {path : PathName}
    {source : String} {mode : Nat} {reply : Except Errno Descriptor}
    (opened : ⟨.openFile path (.truncating mode), reply⟩ ∈ trace)
    (hasInput : stage.input = some source) :
    ∃ descriptor, ⟨.openFile source .reading, .ok descriptor⟩ ∈ trace := by
  obtain ⟨passed, step, left, passedTrace, failedTrace, steps, rfl, pass, fails⟩ := stops
  have reached : ∃ reached ∈ passed ++ [step],
      reached.call = some (.openFile path (.truncating mode)) := by
    rcases List.mem_append.mp opened with isPassed | isFailed
    · obtain ⟨reached, among, made⟩ := pass.call_of_mem isPassed
      exact ⟨reached, List.mem_append_left _ among, made⟩
    · exact ⟨step, List.mem_append_right _ List.mem_cons_self, fails.call_eq isFailed⟩
  obtain ⟨reached, among, made⟩ := reached
  obtain ⟨path, rfl, rfl⟩ := LaunchStep.open_of_call made
  let front := pipeSteps isLast ++ [LaunchStep.openFile source .reading]
  have notInFront : LaunchStep.openFile path (.truncating mode) ∉ front := by
    cases isLast <;> simp [front, pipeSteps]
  have split : ∃ others, front ++ others = passed ++ [step] ++ left := by
    rw [Stage.steps, Stage.fileSteps, hasInput] at steps
    refine ⟨stage.output.toList.map (LaunchStep.openFile · (.truncating Redirection.outputMode)) ++
      stage.runSteps, ?_⟩
    simpa [front] using steps
  obtain ⟨others, split⟩ := split
  have inputPassed : LaunchStep.openFile source .reading ∈ passed := by
    rcases List.append_eq_append_iff.mp split with ⟨more, whole, _⟩ | ⟨more, whole, _⟩
    · rcases List.eq_nil_or_concat more with rfl | ⟨begin, final, rfl⟩
      · rw [List.append_nil] at whole
        exact absurd (whole ▸ among) notInFront
      · rw [List.concat_eq_append, ← List.append_assoc] at whole
        rw [(List.append_inj' whole rfl).1]
        simp [front]
    · rw [whole] at notInFront
      exact absurd (List.mem_append_left _ among) notInFront
  obtain ⟨own, passes, within⟩ := pass.trace_of_mem inputPassed
  cases passes with
  | openFile access descriptor noNul =>
      exact ⟨descriptor, List.mem_append_left _ (within List.mem_cons_self)⟩

end

end JobShell
