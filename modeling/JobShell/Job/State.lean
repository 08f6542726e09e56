import JobShell.Job.Basic
import JobShell.Unix.Program

/-!
# The state of a stage

Each stage of a job has a state. A stage is running until it has been waited
for. The question about its child is asked again as long as the answer is an
interruption or a resumption, which say nothing about the stage, and the first
other answer settles its state.
-/

namespace JobShell

open Unix (Pid Program Signal WaitAnswer)

set_option autoImplicit false

inductive StageState where
  | running
  | done (code : Int)
  | suspended (signal : Signal)
  | continued
  | terminated (signal : Signal)
  deriving DecidableEq, Repr

namespace StageState

def describe : StageState → String
  | .running => "running"
  | .done _ => "done"
  | .suspended _ => "suspended"
  | .continued => "continued"
  | .terminated .kill => "killed"
  | .terminated _ => "terminated"

/-- What one answer says: to ask again, or a state, or that the child is gone. -/
inductive Verdict where
  | askAgain
  | settled (state : StageState)
  | gone
  deriving DecidableEq, Repr

/-- Reads one answer. A stage that a real-time signal ended has no state for it. -/
def ofAnswer : WaitAnswer → Verdict
  | .exited code => .settled (.done code)
  | .killed number =>
    match Signal.ofNumber? number with
    | some signal => .settled (.terminated signal)
    | none => .gone
  | .stopped signal => .settled (.suspended signal)
  | .resumed => .askAgain
  | .failed .interrupted => .askAgain
  | .failed _ => .gone

def hear (again : Program (Option StageState)) (answer : WaitAnswer) :
    Program (Option StageState) :=
  match ofAnswer answer with
  | .askAgain => again
  | .settled state => pure (some state)
  | .gone => pure none

end StageState

/-- Asks about a child until an answer settles its state, and after so many answers that
do not it asks for ever. -/
def awaitChild (pid : Pid) : Nat → Program (Option StageState)
  | 0 => Program.pause
  | turns + 1 => do StageState.hear (awaitChild pid turns) (← Program.wait pid true)

structure StageRun where
  stage : Stage
  pid : Option Pid
  state : StageState
  deriving DecidableEq, Repr

def StageRun.ofStage (stage : Stage) : StageRun :=
  ⟨stage, none, .running⟩

structure JobRun where
  job : Job
  slot : Option Nat
  group : Option Pid
  stages : List StageRun
  deriving DecidableEq, Repr

namespace JobRun

def representative (run : JobRun) : Option Pid :=
  run.stages.getLast?.bind StageRun.pid

/-- The state of the last stage. A job without stages counts as done. -/
def lastState (run : JobRun) : StageState :=
  (run.stages.getLast?.map StageRun.state).getD (.done 0)

end JobRun

end JobShell
