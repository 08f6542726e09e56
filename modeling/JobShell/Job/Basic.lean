import JobShell.Builtin.Kind

/-!
# Jobs

A job is what one line asks for: a pipeline of stages and whether the shell
waits for it.
-/

namespace JobShell

set_option autoImplicit false

inductive Mode where
  | foreground
  | background
  deriving DecidableEq, Repr

structure Stage where
  text : String
  arguments : List String
  input : Option String
  output : Option String
  deriving DecidableEq, Repr

def Stage.kind (stage : Stage) : Kind :=
  Kind.ofArguments stage.arguments

structure Job where
  text : String
  mode : Mode
  stages : List Stage
  deriving DecidableEq, Repr

def Job.isForeground (job : Job) : Bool :=
  job.mode == .foreground

end JobShell
