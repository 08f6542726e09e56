import JobShell.Builtin.Response
import JobShell.Builtin.ProcessTree
import JobShell.Text.Column
import JobShell.Text.Decimal

/-!
# The builtin commands one by one

Each command is a function from the shell's state and the arguments, the name
of the command included, to what is to be done.
-/

namespace JobShell.Builtin

open Unix (ProcessTable)
open Text (padRight padLeft Decimal.read?)

set_option autoImplicit false

/-- Prints the arguments with a space between them. A first argument `-n` keeps
the line open. -/
def echoResponse (arguments : List String) : Response :=
  match arguments.drop 1 with
  | "-n" :: words => .print "echo" (" ".intercalate words)
  | words => .print "echo" (" ".intercalate words ++ "\n")

/-- Changes to the first argument, or to the home directory, or to the root when
no home directory is known. -/
def cdResponse (view : View) (arguments : List String) : Response :=
  match arguments[1]? with
  | some directory => .enter directory
  | none => .enter (view.home.getD "/")

def helpEntries (historyCapacity : Nat) : List (String × String) :=
  [("help", "Show this help menu"),
   ("cd [dir]", "Change directory to [dir] or $HOME"),
   ("echo [-n]", "Print arguments"),
   ("record", "Show last " ++ toString historyCapacity ++ " commands"),
   ("replay N", "Re-execute command #N from history"),
   ("mypid [-i|-p|-c] [pid]", "Show process IDs"),
   ("exit", "Exit the shell")]

def helpRule : String :=
  "".pushn '-' 32

def helpResponse (view : View) : Response :=
  let line (entry : String × String) : String :=
    "  " ++ padRight 24 entry.1 ++ entry.2 ++ "\n"
  .print "help: failed to display help"
    (helpRule ++ "\nBuilt-in commands:\n" ++
      String.join ((helpEntries view.historyCapacity).map line) ++ helpRule ++ "\n")

def recordLine (number : Nat) (line : String) : String :=
  padLeft 2 (toString number) ++ "  " ++ line ++ "\n"

def recordResponse (view : View) : Response :=
  .print "record"
    (String.join (view.history.zipIdx.map fun (line, index) => recordLine (index + 1) line))

/-- Complains. A line that can be replayed never gets here, because it has been
replaced before it was read. -/
def replayResponse (view : View) (arguments : List String) : Response :=
  match arguments with
  | [_, index] =>
    match Decimal.read? Text.Decimal.wordBound index with
    | some number =>
      if 1 ≤ number ∧ number ≤ view.history.length then .complain "replay: unexpected error"
      else .complain ("replay: invalid index " ++ index)
    | none => .complain ("replay: invalid index " ++ index)
  | _ => .complain "usage: replay N"

def numberLines (numbers : List Nat) : String :=
  String.join (numbers.map fun number => toString number ++ "\n")

def missingProcess (option : String) : Response :=
  .complain ("mypid " ++ option ++ ": process id not exist")

def treeResponse (table : ProcessTable) (option argument : String) : Response :=
  match Decimal.read? Text.Decimal.pidBound argument with
  | none => .complain ("mypid " ++ option ++ ": invalid pid " ++ argument)
  | some pid =>
    -- The caller has seen to it that the option is one of the two.
    let answer :=
      if option = "-p" then (ProcessTree.parent? table pid).map fun parent => [parent]
      else ProcessTree.children? table pid
    match answer with
    | some numbers => .print "mypid" (numberLines numbers)
    | none => missingProcess option

def mypidResponse (view : View) (table : ProcessTable) (arguments : List String) : Response :=
  match arguments.drop 1 with
  | [] => .complain "usage: mypid [-i|-p|-c] [pid]"
  | option :: rest =>
    if option = "-i" then .print "mypid" (toString view.shellPid ++ "\n")
    else if option = "-p" ∨ option = "-c" then
      match rest with
      | [] => .complain ("mypid " ++ option ++ ": missing pid argument")
      | argument :: _ => treeResponse table option argument
    else .complain ("mypid: invalid option " ++ option)

def respond (builtin : Builtin) (view : View) (table : ProcessTable)
    (arguments : List String) : Response :=
  match builtin with
  | .exit => .leave
  | .cd => cdResponse view arguments
  | .help => helpResponse view
  | .echo => echoResponse arguments
  | .record => recordResponse view
  | .replay => replayResponse view arguments
  | .mypid => mypidResponse view table arguments

/-- The process table, which only one of the builtins looks at. -/
def processTable (builtin : Builtin) : Unix.Program ProcessTable :=
  match builtin with
  | .mypid => Unix.Program.processes
  | _ => pure []

def invoke (builtin : Builtin) (host : Host) (view : View) (arguments : List String)
    (output error : Unix.Descriptor) : Unix.Program Result := do
  let table ← builtin.processTable
  (builtin.respond view table arguments).carryOut host output error

theorem invoke_keeps_process {host : Host}
    (leaveKeeps : host.leave.OnlyCalls Unix.Call.keepsProcess)
    (enterKeeps : ∀ directory, (host.enter directory).OnlyCalls Unix.Call.keepsProcess)
    (builtin : Builtin) (view : View) (arguments : List String)
    (output error : Unix.Descriptor) :
    (builtin.invoke host view arguments output error).OnlyCalls Unix.Call.keepsProcess := by
  refine Unix.Program.only_calls_bind ?_ fun table =>
    carry_out_keeps_process leaveKeeps enterKeeps output error _
  cases builtin with
  | mypid => exact ⟨rfl, fun _ => trivial⟩
  | _ => exact trivial

end JobShell.Builtin
