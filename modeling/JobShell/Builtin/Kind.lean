/-!
# The builtin commands

Seven commands run inside the shell. They are found by their exact names, and
their numbers start at one because zero stands for an external program.
-/

namespace JobShell

set_option autoImplicit false

inductive Builtin where
  | exit
  | cd
  | help
  | echo
  | record
  | replay
  | mypid
  deriving DecidableEq, Repr

namespace Builtin

def all : List Builtin :=
  [.exit, .cd, .help, .echo, .record, .replay, .mypid]

def name : Builtin → String
  | .exit => "exit"
  | .cd => "cd"
  | .help => "help"
  | .echo => "echo"
  | .record => "record"
  | .replay => "replay"
  | .mypid => "mypid"

def number : Builtin → Nat
  | .exit => 1
  | .cd => 2
  | .help => 3
  | .echo => 4
  | .record => 5
  | .replay => 6
  | .mypid => 7

def named? (name : String) : Option Builtin :=
  all.find? fun builtin => builtin.name == name

theorem named_name (builtin : Builtin) : named? builtin.name = some builtin := by
  cases builtin <;> decide

end Builtin

inductive Kind where
  | external
  | builtin (command : Builtin)
  deriving DecidableEq, Repr

namespace Kind

/-- The kind that an argument list calls for. Without arguments it is external. -/
def ofArguments (arguments : List String) : Kind :=
  match arguments with
  | [] => .external
  | name :: _ =>
    match Builtin.named? name with
    | some command => .builtin command
    | none => .external

def isExternal : Kind → Bool
  | .external => true
  | .builtin _ => false

def name : Kind → String
  | .external => "external"
  | .builtin command => command.name

end Kind

end JobShell
