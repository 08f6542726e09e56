import JobShell.Unix.PathName

/-!
# Settings

What can be set by a file or by flags.
-/

namespace JobShell

open Unix (PathName)

set_option autoImplicit false

structure Settings where
  maxJobs : Nat
  historySize : Nat
  logPath : Option PathName
  prompt : Option String
  deriving DecidableEq, Repr

def Settings.default : Settings :=
  { maxJobs := 20
    historySize := 16
    logPath := none
    prompt := none }

end JobShell
