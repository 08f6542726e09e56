import JobShell.Job.Launch
import JobShell.Job.Table

/-!
# Running a job

A background job takes its slot before any stage is launched, and its number
and group are announced when all stages are. A foreground job is waited for,
one external stage after the other. An interactive shell takes the terminal
back at the end of a foreground job, also when the launch failed.
-/

namespace JobShell

open Unix (Pid Program)

set_option autoImplicit false

/-- Waits for the external stages in order. A stage whose wait failed counts as
done with exit code one. -/
def waitStages (patience : Nat) : List StageRun → Program (List StageRun)
  | [] => pure []
  | run :: rest => do
    match run.pid with
    | none =>
      let others ← waitStages patience rest
      return run :: others
    | some pid =>
      let state ← awaitChild pid patience
      let others ← waitStages patience rest
      return { run with state := state.getD (.done 1) } :: others

def reclaimTerminal (context : Context) (group : Option Pid) : Program Unit := do
  if context.ownsTerminal && group.isSome then
    let _ ← Program.giveTerminal context.shellGroup

def announce (context : Context) (text : String) : Program (Except ShellError Unit) := do
  match ← Program.writeAll context.output.toNat (text ++ "\n").toUTF8 with
  | .ok _ => return .ok ()
  | .error errno => return .error (.transfer errno)

/-- The line that tells a job's slot and its group, which is zero for a job
without external stages. -/
def slotLine (slot : Nat) (group : Option Pid) : String :=
  "[" ++ toString slot ++ "] " ++ toString (group.getD 0)

def announceJob (context : Context) (run : JobRun) : Program (Except ShellError Unit) := do
  let first ←
    match run.representative with
    | none => pure (.ok ())
    | some pid => announce context (toString pid)
  match first, run.slot with
  | .error failure, _ => return .error failure
  | .ok _, none => return .ok ()
  | .ok _, some slot => announce context (slotLine slot run.group)

structure JobResult where
  outcome : Except ShellError StageState
  run : JobRun
  table : JobTable
  directory : Option String

def takeSlot (job : Job) (table : JobTable) : Option Nat × JobTable :=
  match job.mode with
  | .background => table.register job.text
  | .foreground => (none, table)

def recordGroup (table : JobTable) (slot : Option Nat) (group : Option Pid) : JobTable :=
  match slot with
  | some slot => table.setGroup slot group
  | none => table

def concludeJob (launcher : Launcher) (run : JobRun) :
    Program (Except ShellError StageState × JobRun) := do
  match run.job.mode with
  | .foreground =>
    let stages ← waitStages launcher.patience run.stages
    let waited := { run with stages := stages }
    reclaimTerminal launcher.context run.group
    return (.ok waited.lastState, waited)
  | .background =>
    match ← announceJob launcher.context run with
    | .error failure => return (.error failure, run)
    | .ok _ => return (.ok .running, run)

/-- What is left to do after a launch. A failure ends the job, and the terminal is taken
back all the same. -/
def settleJob (launcher : Launcher) (run : JobRun) (table : JobTable) (launch : Launch) :
    Program JobResult := do
  match launch.failure with
  | some failure =>
    reclaimTerminal launcher.context run.group
    return ⟨.error failure, run, table, launch.directory⟩
  | none =>
    let (outcome, run) ← concludeJob launcher run
    return ⟨outcome, run, table, launch.directory⟩

def Launcher.forJob (launcher : Launcher) (job : Job) : Launcher :=
  { launcher with context := { launcher.context with foreground := job.isForeground } }

def runJob (launcher : Launcher) (table : JobTable) (job : Job) : Program JobResult := do
  let (slot, registered) := takeSlot job table
  -- The slot is kept when the launch fails.
  let launch ← launchStages (launcher.forJob job) .inherited none job.stages
  settleJob (launcher.forJob job) ⟨job, slot, launch.group, launch.stages⟩
    (recordGroup registered slot launch.group) launch

end JobShell
