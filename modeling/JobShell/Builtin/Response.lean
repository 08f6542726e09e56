import JobShell.Builtin.Kind
import JobShell.Unix.Program

/-!
# What a builtin answers

A builtin looks at the shell and at its arguments and answers with one thing to
be done: print a text, complain, leave the shell or change directory. It does
nothing itself, so its outcome can be told from the answer alone: a complaint
fails, and everything else fails only when what it asks for does.
-/

namespace JobShell.Builtin

open Unix (Pid Errno Descriptor Program)

set_option autoImplicit false

structure View where
  shellPid : Pid
  home : Option String
  history : List String
  historyCapacity : Nat

/-- The one thing that a builtin asks for. The label of a text to print leads
the complaint when printing fails. -/
inductive Response where
  | print (label text : String)
  | complain (message : String)
  | leave
  | enter (directory : String)
  deriving DecidableEq, Repr

/-- The outcome of a builtin. A failure has already been reported. -/
inductive Outcome where
  | handled
  | failed
  deriving DecidableEq, Repr

namespace Outcome

def isFailure : Outcome → Bool
  | .handled => false
  | .failed => true

def code : Outcome → Int
  | .handled => 1
  | .failed => -1

def exitCode : Outcome → Int
  | .handled => 0
  | .failed => 1

end Outcome

/-- How the shell leaves and how it changes directory. Entering a directory
answers its path, or the reason why it was not entered. -/
structure Host where
  leave : Program Unit
  enter : String → Program (Except String String)

structure Result where
  outcome : Outcome
  directory : Option String
  deriving DecidableEq, Repr

def complainOn (error : Descriptor) (message : String) : Program Result := do
  Program.say error (message ++ "\n")
  return ⟨.failed, none⟩

def Response.carryOut (host : Host) (output error : Descriptor) : Response → Program Result
  | .print label text => do
    match ← Program.writeAll output text.toUTF8 with
    | .ok _ => return ⟨.handled, none⟩
    | .error errno => complainOn error (label ++ ": " ++ errno.ioMessage)
  | .complain message => complainOn error message
  | .leave => do
    host.leave
    return ⟨.handled, none⟩
  | .enter directory => do
    match ← host.enter directory with
    | .ok path => return ⟨.handled, some path⟩
    | .error reason => complainOn error ("cd: " ++ directory ++ ": " ++ reason)

theorem complain_on_keeps_process (error : Descriptor) (message : String) :
    (complainOn error message).OnlyCalls Unix.Call.keepsProcess :=
  Program.only_calls_bind (Program.say_keeps_process error _) fun _ => trivial

theorem carry_out_keeps_process {host : Host}
    (leaveKeeps : host.leave.OnlyCalls Unix.Call.keepsProcess)
    (enterKeeps : ∀ directory, (host.enter directory).OnlyCalls Unix.Call.keepsProcess)
    (output error : Descriptor) (response : Response) :
    (response.carryOut host output error).OnlyCalls Unix.Call.keepsProcess := by
  cases response with
  | print label text =>
      refine Program.only_calls_bind (Program.write_from_only_calls (fun _ => rfl) _ _)
        fun written => ?_
      cases written with
      | ok => exact trivial
      | error errno => exact complain_on_keeps_process error _
  | complain message => exact complain_on_keeps_process error message
  | leave => exact Program.only_calls_bind leaveKeeps fun _ => trivial
  | enter directory =>
      refine Program.only_calls_bind (enterKeeps directory) fun entered => ?_
      cases entered with
      | ok path => exact trivial
      | error reason => exact complain_on_keeps_process error _

end JobShell.Builtin
