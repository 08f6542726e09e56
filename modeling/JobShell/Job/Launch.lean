import JobShell.Builtin.Command
import JobShell.Job.Context
import JobShell.Job.Endpoint
import JobShell.Job.State

/-!
# Launching the stages of a job

Stages are launched in order. Each stage but the last is connected to the next
by a pipe that is made just before the stage is launched; after the launch the
shell closes the writing end and keeps the reading end until the next stage has
it. A builtin runs to its end inside the shell. The first external stage leads
the process group of the job and later ones join it; the group is set by the
shell and by the child, so it does not matter which of them is faster. The
first failure ends the launch and leaves alone what already runs.
-/

namespace JobShell

open Unix (Pid Signal Descriptor Errno Program)

set_option autoImplicit false

/-- What the stages of a job are launched for, how often a child is asked about at most
while no answer settles its state, and how the shell runs a builtin in a context. The
endpoints of the context are lent to the builtin, which never closes them. -/
structure Launcher where
  context : Context
  patience : Nat
  invoke : Builtin → Context → List String → Program Builtin.Result
  keepsProcess : ∀ builtin context arguments,
    (invoke builtin context arguments).OnlyCalls Unix.Call.keepsProcess

/-- The signals that concern the terminal and its jobs. An interactive shell
ignores them. -/
def jobControlSignals : List Signal :=
  [.int, .quit, .tstp, .ttin, .ttou]

def moveOnto (source target : Descriptor) : Program (Except ShellError Unit) := do
  if source = target then return .ok ()
  match ← Program.duplicate source target with
  | .error errno =>
    return .error (.explained
      ("dup2 " ++ toString source ++ " -> " ++ toString target ++ " failed") (.transfer errno))
  | .ok _ =>
    match ← Program.close source with
    | .error errno =>
      return .error (.explained ("close " ++ toString source ++ " failed") (.transfer errno))
    | .ok _ => return .ok ()

def giveUp {α : Type} (message : String) : Program α := do
  Program.print Unix.standardError (message ++ "\n")
  Program.exit 1

def startProgram {α : Type} (arguments : List String) (input output : Descriptor) :
    Program α := do
  match ← moveOnto input Unix.standardInput with
  | .error failure => giveUp failure.userMessage
  | .ok _ =>
    match ← moveOnto output Unix.standardOutput with
    | .error failure => giveUp failure.userMessage
    | .ok _ =>
      let errno ← Program.execute arguments
      giveUp (shellName ++ ": " ++ arguments.headD "" ++ ": " ++ errno.description)

/-- The child's side of a launch: it joins the group, takes the terminal for a
job that owns it, gets the default signals back and becomes the program. -/
def becomeStage {α : Type} (context : Context) (group : Option Pid) (arguments : List String)
    (input output : Descriptor) : Program α := do
  let own ← Program.ownPid
  let group := group.getD own
  -- The shell does the same, and the later of the two changes nothing.
  let _ ← Program.joinGroup 0 group
  if context.ownsTerminal then
    -- The child may be in the background by now. It still ignores the stop for that.
    let _ ← Program.giveTerminal group
  let _ ← Program.setSignals (jobControlSignals ++ [.pipe]) .default
  startProgram arguments input output

def checkArguments (arguments : List String) : Except ShellError Unit :=
  match arguments with
  | [] => .error .emptyCommand
  | command :: _ =>
    if arguments.any hasNul then .error (.nulArgument command) else .ok ()

def startChild (context : Context) (group : Option Pid) (arguments : List String)
    (input output : Descriptor) : Program (Except ShellError Pid) :=
  match checkArguments arguments with
  | .error failure => pure (.error failure)
  | .ok _ => do
    -- What is held back would be written by the child as well.
    match ← Program.flushOutput with
    | .error errno => return .error (.explained "failed flush stdout" (.transfer errno))
    | .ok _ =>
      match ← Program.fork with
      | .error errno => return .error (.fork errno)
      | .ok none => becomeStage context group arguments input output
      | .ok (some child) => return .ok child

/-- A stage that has been launched, the group of the job from then on, and the
working directory if the stage changed it. -/
structure Launched where
  run : StageRun
  group : Option Pid
  directory : Option String

def launchOn (launcher : Launcher) (group : Option Pid) (stage : Stage)
    (input output : Descriptor) : Program (Except ShellError Launched) := do
  match stage.kind with
  | .builtin builtin =>
    let result ← launcher.invoke builtin (launcher.context.withEndpoints input output)
      stage.arguments
    return .ok
      { run := ⟨stage, none, .done result.outcome.exitCode⟩
        group := group
        directory := result.directory }
  | .external =>
    match ← startChild launcher.context group stage.arguments input output with
    | .error failure => return .error failure
    | .ok child =>
      let leader := group.getD child
      -- A child that has started its program cannot be moved any more, but has joined the group
      -- itself, so a failure tells nothing.
      let _ ← Program.joinGroup child leader
      if launcher.context.ownsTerminal then
        let _ ← Program.giveTerminal leader
      return .ok
        { run := ⟨stage, some child, .running⟩
          group := some leader
          directory := none }

/-- Launches a stage with its redirections, which are closed again in any
case. -/
def launchStage (launcher : Launcher) (group : Option Pid) (stage : Stage)
    (input output : Endpoint) : Program (Except ShellError Launched) := do
  match ← Redirection.openFor stage with
  | .error failure => return .error failure
  | .ok redirection =>
    let launched ← launchOn launcher group stage
      ((redirection.input.orElse input).descriptor Unix.standardInput)
      ((redirection.output.orElse output).descriptor Unix.standardOutput)
    redirection.release
    return launched

structure Launch where
  failure : Option ShellError
  group : Option Pid
  stages : List StageRun
  directory : Option String

def Launch.stopped (failure : Option ShellError) (group : Option Pid) (left : List Stage) :
    Launch :=
  ⟨failure, group, left.map StageRun.ofStage, none⟩

/-- Adds a launched stage in front. A later change of directory counts. -/
def Launch.after (later : Launch) (launched : Launched) : Launch :=
  { later with
    stages := launched.run :: later.stages
    directory := later.directory.or launched.directory }

/-- The way from a stage to the next: the end it writes to and the end the next
one reads from. The last stage writes to the shell's output. -/
def connect (isLast : Bool) : Program (Except ShellError (Endpoint × Endpoint)) :=
  if isLast then pure (.ok (.inherited, .inherited))
  else do
    match ← Program.pipe with
    | .ok (reader, writer) => return .ok (.owned writer, .owned reader)
    | .error errno => return .error (.pipe errno)

/-- Launches stages, the first of which reads from the given endpoint. The
endpoint is closed here. -/
def launchStages (launcher : Launcher) (input : Endpoint) (group : Option Pid) :
    List Stage → Program Launch
  | [] => do
    input.release
    return .stopped none group []
  | stage :: rest => do
    match ← connect rest.isEmpty with
    | .error failure =>
      input.release
      return .stopped (some failure) group (stage :: rest)
    | .ok (output, next) =>
      match ← launchStage launcher group stage input output with
      | .error failure =>
        next.release
        output.release
        input.release
        return .stopped (some failure) group (stage :: rest)
      | .ok launched =>
        output.release
        input.release
        let later ← launchStages launcher next launched.group rest
        return later.after launched

end JobShell
