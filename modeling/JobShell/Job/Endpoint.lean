import JobShell.Job.Basic
import JobShell.Opening

/-!
# Endpoints of a stage

A stage reads from and writes to descriptors. Some belong to the launcher, a
pipe end or a redirection's file, and are closed by it on every way out; the
standard descriptors of the shell are only passed on.
-/

namespace JobShell

open Unix (Descriptor Program)

set_option autoImplicit false

/-- The shell's own descriptor, or one that the launcher opened. -/
inductive Endpoint where
  | inherited
  | owned (descriptor : Descriptor)
  deriving DecidableEq, Repr

namespace Endpoint

def descriptor (standard : Descriptor) : Endpoint → Descriptor
  | .inherited => standard
  | .owned descriptor => descriptor

def release : Endpoint → Program Unit
  | .inherited => pure ()
  | .owned descriptor => do
    let _ ← Program.close descriptor
    pure ()

def orElse (endpoint fallback : Endpoint) : Endpoint :=
  match endpoint with
  | .inherited => fallback
  | .owned _ => endpoint

end Endpoint

structure Redirection where
  input : Endpoint
  output : Endpoint
  deriving DecidableEq, Repr

namespace Redirection

def outputMode : Nat := 0o644

def openSide (path : Option String) (access : Unix.Access) :
    Program (Except ShellError Endpoint) :=
  match path with
  | none => pure (.ok .inherited)
  | some path => do
    match ← openPath path access with
    | .ok descriptor => return .ok (.owned descriptor)
    | .error fault => return .error (.redirect path fault)

/-- Opens the input and then the output of a stage. The input is closed again
when the output cannot be opened. -/
def openFor (stage : Stage) : Program (Except ShellError Redirection) := do
  match ← openSide stage.input .reading with
  | .error failure => return .error failure
  | .ok input =>
    match ← openSide stage.output (.truncating outputMode) with
    | .error failure =>
      input.release
      return .error failure
    | .ok output => return .ok ⟨input, output⟩

def release (redirection : Redirection) : Program Unit := do
  redirection.input.release
  redirection.output.release

end Redirection

end JobShell
