import JobShell.History.Replay
import JobShell.Job.Run
import JobShell.Settings.Basic
import JobShell.Shell.Surroundings

/-!
# The shell

The shell keeps its settings, its own numbers, the user, the home directory,
the working directory as it last saw it, the history and the job table. One
line is evaluated by replaying it, recording what came of that, reading it as a
job and running the job. A line is recorded before it is read, so a line with a
fault is recorded too.
-/

namespace JobShell

open Unix (Pid Program)

set_option autoImplicit false

structure Shell where
  settings : Settings
  pid : Pid
  group : Pid
  user : String
  home : Option String
  directory : String
  history : History
  jobs : JobTable

namespace Shell

/-- The directory a shell believes to be in when it cannot tell. -/
def unknownDirectory : String := "/"

def new (settings : Settings) (pid : Pid) (user : String) (home : Option String)
    (directory : String) : Shell where
  settings := settings
  pid := pid
  group := pid
  user := user
  home := home
  directory := directory
  history := .empty settings.historySize
  jobs := .empty settings.maxJobs

def start (settings : Settings) (account : Option Surroundings.Account) : Program Shell := do
  let pid ← Program.ownPid
  let environment ← Program.environment
  let directory ← Program.currentDirectory
  return .new settings pid (Surroundings.userName environment account)
    (Surroundings.home? environment account) (directory.toOption.getD unknownDirectory)

def context (shell : Shell) (interactive : Bool) : Context :=
  .ofShell shell.pid shell.group interactive

/-- Enters a directory and answers its path. The directory may be entered and
still not be known, which counts as a failure. -/
def enter (path : String) : Program (Except String String) := do
  if hasNul path then return .error Unix.Errno.invalidArgument.description
  match ← Program.changeDirectory path with
  | .error errno => return .error errno.description
  | .ok _ =>
    match ← Program.currentDirectory with
    | .error _ => return .error "failed to read current directory"
    | .ok directory => return .ok directory

def host : Builtin.Host where
  leave := Program.exit 0
  enter := enter

def view (shell : Shell) : Builtin.View where
  shellPid := shell.pid
  home := shell.home
  history := shell.history.entries
  historyCapacity := shell.history.capacity

theorem host_leave_keeps_process : host.leave.OnlyCalls Unix.Call.keepsProcess :=
  ⟨rfl, fun reply => nomatch reply⟩

theorem host_enter_keeps_process (path : String) :
    (host.enter path).OnlyCalls Unix.Call.keepsProcess := by
  change (enter path).OnlyCalls Unix.Call.keepsProcess
  unfold enter
  split
  · exact trivial
  · refine ⟨rfl, fun changed => ?_⟩
    cases changed with
    | error errno => exact trivial
    | ok =>
        refine ⟨rfl, fun found => ?_⟩
        cases found with
        | error errno => exact trivial
        | ok directory => exact trivial

/-- How often a shell asks about a child. No child is interrupted or resumed so often. -/
def patience : Nat := 0x1000000000000000

def launcher (shell : Shell) (context : Context) : Launcher where
  context := context
  patience := patience
  invoke := fun builtin context arguments =>
    builtin.invoke host shell.view arguments context.output.toNat context.error.toNat
  keepsProcess := fun builtin _ arguments =>
    Builtin.invoke_keeps_process host_leave_keeps_process host_enter_keeps_process builtin
      shell.view arguments _ _

def remember (shell : Shell) (line : String) : Shell :=
  { shell with history := shell.history.record line }

def afterJob (shell : Shell) (result : JobResult) : Shell :=
  { shell with
    jobs := result.table
    directory := result.directory.getD shell.directory }

def launch (shell : Shell) (context : Context) (job : Job) :
    Program (Shell × JobResult) := do
  let result ← runJob (shell.launcher context) shell.jobs job
  return (shell.afterJob result, result)

/-- Evaluates one line. There is no state when the line held no command. -/
def evaluate (shell : Shell) (context : Context) (input : String) :
    Program (Shell × Except ShellError (Option StageState)) := do
  let line := shell.history.substitute input
  let shell := shell.remember line
  match Line.parse line with
  | .error fault => return (shell, .error (.ofMissingPath fault))
  | .ok none => return (shell, .ok none)
  | .ok (some job) =>
    let (shell, result) ← shell.launch context job
    return (shell, result.outcome.map some)

end Shell

end JobShell
