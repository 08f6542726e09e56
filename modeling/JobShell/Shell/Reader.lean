import JobShell.Prompt
import JobShell.Shell.Basic
import JobShell.Text.Utf8

/-!
# Reading and evaluating lines

The shell reads its standard input in blocks, cuts it at line feeds, decodes
each line and evaluates the lines that are not blank. A fault is reported and
the next line is read, unless the report is refused. Only at a terminal does the
shell prompt and take part in job control.
-/

namespace JobShell.Shell

open Unix (Program Errno)

set_option autoImplicit false

def blockSize : Nat := 8192

/-- A line that was read, with its line feed if it had one, and the bytes read
after it. At the end of the input there is no line. -/
structure ReadLine where
  line : ByteArray
  rest : ByteArray

def cutLine (bytes : ByteArray) : Option ReadLine :=
  (bytes.data.findIdx? (· == 10)).map fun index =>
    ⟨bytes.extract 0 (index + 1), bytes.extract (index + 1) bytes.size⟩

def readLine : Nat → ByteArray → ByteArray → Program (Except Errno ReadLine)
  | 0, started, pending => pure (.ok ⟨started ++ pending, ByteArray.empty⟩)
  | turns + 1, started, pending =>
    match cutLine pending with
    | some cut => pure (.ok ⟨started ++ cut.line, cut.rest⟩)
    | none => do
      match ← Program.read Unix.standardInput blockSize with
      | .error errno => return .error errno
      | .ok block =>
        if block.isEmpty then return .ok ⟨started ++ pending, ByteArray.empty⟩
        else readLine turns (started ++ pending) block

def commandOf (line : ByteArray) : String :=
  String.ofList
    (Line.trimEnd (fun character => character == '\n' || character == '\r')
      (Text.Utf8.decodeArray line).toList)

def report (failure : ShellError) : Program Unit :=
  Program.print Unix.standardError (failure.userMessage ++ "\n")

def prompt (shell : Shell) (context : Context) : Program Unit :=
  if context.interactive then
    Program.say Unix.standardOutput
      (Prompt.text shell.settings.prompt shell.user shell.directory)
  else pure ()

def evaluateLine (shell : Shell) (context : Context) (line : ByteArray) : Program Shell := do
  let command := commandOf line
  if Text.isBlank command then return shell
  let (shell, outcome) ← shell.evaluate context command
  match outcome with
  | .ok _ => return shell
  | .error failure =>
    report failure
    return shell

def readLoop (turns : Nat) (context : Context) :
    Nat → Shell → ByteArray → Program (Shell × Except ShellError Unit)
  | 0, shell, _ => pure (shell, .ok ())
  | lines + 1, shell, pending => do
    shell.prompt context
    match ← readLine turns ByteArray.empty pending with
    | .error errno =>
      return (shell, .error (.explained "failed to read input" (.transfer errno)))
    | .ok read =>
      if read.line.isEmpty then
        if context.interactive then Program.print Unix.standardOutput "\n"
        return (shell, .ok ())
      else
        let shell ← shell.evaluateLine context read.line
        readLoop turns context lines shell read.rest

/-- Prepares a shell at a terminal: it ignores the signals of job control, leads
its own group and takes the terminal. -/
def takeControl (shell : Shell) : Program Shell := do
  -- The signals come first: a shell that is not in the foreground yet would be stopped when it
  -- takes the terminal.
  let _ ← Program.setSignals jobControlSignals .ignored
  let _ ← Program.joinGroup shell.pid shell.pid
  let shell := { shell with group := shell.pid }
  let _ ← Program.giveTerminal shell.group
  return shell

def reportOutcome {α : Type} (outcome : Except ShellError α) : Program Bool := do
  match outcome with
  | .ok _ => return true
  | .error failure =>
    report failure
    return false

def runCommand (shell : Shell) (command : String) : Program (Shell × Bool) := do
  let (shell, outcome) ← shell.evaluate (shell.context false) command
  let succeeded ← reportOutcome outcome
  return (shell, succeeded)

/-- Evaluates the lines of the standard input, which must be fewer than the
given number, as must be the blocks of each. -/
def runLines (shell : Shell) (turns : Nat) : Program (Shell × Bool) := do
  let interactive ← Program.isTerminal Unix.standardInput
  let shell ← if interactive then shell.takeControl else pure shell
  let (shell, outcome) ← readLoop turns (shell.context interactive) turns shell ByteArray.empty
  let succeeded ← reportOutcome outcome
  return (shell, succeeded)

end JobShell.Shell
