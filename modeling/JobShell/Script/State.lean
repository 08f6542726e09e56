import JobShell.Script.Command
import JobShell.Script.Options
import JobShell.Script.Source
import JobShell.Script.Switch
import JobShell.Text.Decimal
import JobShell.Unix.Program

/-!
# The state of a script

Variables, parameters and functions, and the status of the last command.
-/

namespace JobShell.Script

open Unix (Pid Descriptor Program)

set_option autoImplicit false

/-- A variable, which may have no value yet. Exported ones are passed on to
programs. -/
structure Variable where
  name : String
  value : Option String
  exported : Bool
  readOnly : Bool

/-- The state of a script. Descriptors set aside for a redirection are listed, as
children must not keep them. Handlers are listed by the numbers of their
signals, with zero for the end of the script, and an empty one means that the
signal is ignored. While a handler runs, the status before it is kept. A
function keeps the variables that its own ones hide. A command is last when the
process ends with it. The working directory is kept under the name by which it was
entered, if that is known. Inside a command that evaluates others, messages name that
command. The loops around the present command are counted, and so are the texts that are
evaluated inside each other. Programs that have been looked for are listed by their
names. -/
structure State where
  name : String
  parameters : List String
  bindings : List Variable
  functions : List (String × Command)
  status : Int
  pid : Pid
  lastBackground : Option Pid
  children : List Pid
  aside : List Descriptor
  switches : List Switch
  aliases : List (String × String)
  options : OptionPlace
  located : List String
  tested : Bool
  handlers : List (Nat × String)
  beforeHandler : Option Int
  hidden : List (List (String × Option Variable))
  isLast : Bool
  directory : Option String
  inside : Option String
  loops : Nat
  texts : Nat
  line : Nat

/-- How a command ended: with the next one due, or with a jump. A fault ends the
script like an exit, but can be caught. -/
inductive Flow where
  | next
  | leaveLoop (levels : Nat)
  | nextTurn (levels : Nat)
  | returned
  | exited
  | faulted
  deriving DecidableEq, Repr

def Flow.ends : Flow → Bool
  | .exited | .faulted => true
  | _ => false

namespace State

def entry? (state : State) (name : String) : Option Variable :=
  state.bindings.find? fun entry => entry.name == name

def valueOf? (state : State) (name : String) : Option String :=
  (state.entry? name).bind Variable.value

def change (state : State) (name : String) (f : Variable → Variable) : State :=
  if (state.entry? name).isSome then
    { state with
      bindings := state.bindings.map fun entry => if entry.name == name then f entry else entry }
  else { state with bindings := state.bindings ++ [f ⟨name, none, false, false⟩] }

def has (state : State) (switch : Switch) : Bool :=
  state.switches.contains switch

def setVariable (state : State) (name value : String) : State :=
  state.change name fun entry =>
    { entry with value := some value, exported := entry.exported || state.has .exportAll }

def exportVariable (state : State) (name : String) : State :=
  state.change name fun entry => { entry with exported := true }

def fixVariable (state : State) (name : String) : State :=
  state.change name fun entry => { entry with readOnly := true }

def isFixed (state : State) (name : String) : Bool :=
  (state.entry? name).any Variable.readOnly

def refusal? (state : State) (name : String) : Option String :=
  if !Source.isName name then some (name ++ ": bad variable name")
  else if state.isFixed name then some (name ++ ": is read only")
  else none

/-- Sets a variable unless it must not be set. The search for options begins anew when
its place is set, and programs are looked for anew when the search path is. -/
def assign? (state : State) (name value : String) : Except String State :=
  match state.refusal? name with
  | some reason => .error reason
  | none =>
    let after := state.setVariable name value
    .ok <|
      match name with
      | "OPTIND" => { after with options := ⟨(Text.Decimal.digits? value).getD 1, none⟩ }
      | "PATH" => { after with located := [] }
      | _ => after

def unset? (state : State) (name : String) : Except String State :=
  match state.refusal? name with
  | some reason => .error reason
  | none =>
    .ok { state with bindings := state.bindings.filter fun entry => entry.name != name }

def exports (state : State) : List (String × String) :=
  (state.bindings.filter Variable.exported).filterMap fun entry =>
    entry.value.map fun value => (entry.name, value)

def hide (state : State) (name : String) : State :=
  let outer := state.bindings.find? fun entry => entry.name == name
  match state.hidden with
  | [] => state
  | scope :: others => { state with hidden := ((name, outer) :: scope) :: others }

def inLoop (state : State) : State :=
  { state with loops := state.loops + 1, isLast := false }

def unhide (state : State) : State :=
  match state.hidden with
  | [] => state
  | scope :: others =>
    let bindings := scope.foldl
      (fun (bindings : List Variable) (name, outer) =>
        (bindings.filter fun entry => entry.name != name) ++ outer.toList)
      state.bindings
    { state with bindings := bindings, hidden := others }

def handler? (state : State) (number : Nat) : Option String :=
  (state.handlers.lookup number).filter fun text => !text.isEmpty

def hasHandlers (state : State) : Bool :=
  state.handlers.any fun entry => !entry.2.isEmpty

def setHandler (state : State) (number : Nat) (text : Option String) : State :=
  let others := state.handlers.filter fun entry => entry.1 != number
  { state with handlers := others ++ text.toList.map fun text => (number, text) }

/-- The state of a child that goes on with a part of the script: it has no
children and handles no signals. -/
def ofChild (state : State) : State :=
  { state with
    aside := []
    children := []
    handlers := state.handlers.filter fun entry => entry.2.isEmpty
    isLast := true }

def noteProgram (state : State) (name : String) : State :=
  if name.contains '/' || state.located.contains name then state
  else { state with located := state.located ++ [name] }

def withStatus (state : State) (status : Int) : State :=
  { state with status := status }

/-- What stands between positions that are joined: the first separator. -/
def joint (state : State) : String :=
  match state.valueOf? "IFS" with
  | none => " "
  | some separators => (separators.take 1).toString

def parameter? (state : State) (name : String) : Option String :=
  match name with
  | "#" => some (toString state.parameters.length)
  | "?" => some (toString state.status)
  | "$" => some (toString state.pid)
  | "!" => state.lastBackground.map toString
  | "-" => some (Switch.letters state.switches)
  | "@" | "*" =>
    if state.parameters.isEmpty then none else some (state.joint.intercalate state.parameters)
  | "0" => some state.name
  | _ =>
    match Text.Decimal.digits? name with
    | some (position + 1) => state.parameters[position]?
    | some 0 => some state.name
    | none => state.valueOf? name

def messageStart (state : State) : String :=
  state.name ++ ": " ++ toString state.line ++ ": "

def complain (state : State) (message : String) : Program Unit :=
  Program.say Unix.standardError (state.messageStart ++ message ++ "\n")

def report (state : State) (message : String) : Program Unit :=
  state.complain ((state.inside.map fun command => command ++ ": ").getD "" ++ message)

end State

def finished (state : State) (status : Int) : Program (State × Flow) :=
  pure (state.withStatus status, .next)

def failed (state : State) (message : String) (status : Int) : Program (State × Flow) := do
  state.complain message
  finished state status

/-- Ends the script with a complaint, as a command does that is part of the
language. -/
def refused (state : State) (message : String) : Program (State × Flow) := do
  state.complain message
  return (state.withStatus 2, .faulted)

def faulted (state : State) (message : String) : Program (State × Flow) := do
  state.report message
  return (state.withStatus 2, .faulted)

def printing (state : State) (name : String) (bytes : ByteArray) : Program (State × Flow) := do
  match ← Program.writeAll Unix.standardOutput bytes with
  | .ok _ => finished state 0
  | .error _ => failed state (name ++ ": " ++ name ++ ": I/O error") 1

end JobShell.Script
