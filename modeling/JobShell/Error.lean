import JobShell.Line.Parser
import JobShell.Unix.Errno

/-!
# What can go wrong

The causes for which the shell gives up on a line or on its settings, and the
wording of each. A cause can be wrapped in an explanation, which is then shown
in its place. Every message to the user is led by the name of the shell.
-/

namespace JobShell

open Unix (Errno)

set_option autoImplicit false

def shellName : String := "psh"

inductive OpenFault where
  | refused (errno : Errno)
  | nulInPath
  deriving DecidableEq, Repr

def OpenFault.message : OpenFault → String
  | .refused errno => errno.ioMessage
  | .nulInPath => "file name contained an unexpected NUL byte"

inductive ShellError where
  | redirect (path : String) (fault : OpenFault)
  | pipe (errno : Errno)
  | fork (errno : Errno)
  | nulArgument (command : String)
  | emptyCommand
  | malformedLine (detail : String)
  | malformedSettings (detail : String)
  | unreadable (path : String)
  | transfer (errno : Errno)
  | explained (explanation : String) (cause : ShellError)
  deriving DecidableEq, Repr

namespace ShellError

def message : ShellError → String
  | .redirect path fault => path ++ ": " ++ fault.message
  | .pipe errno => "pipe: " ++ errno.symbolicMessage
  | .fork errno => "fork: " ++ errno.symbolicMessage
  | .nulArgument command => command ++ ": argument contains a nul byte"
  | .emptyCommand => "empty command"
  | .malformedLine detail => "syntax error: " ++ detail
  | .malformedSettings detail => "Configuration error: " ++ detail
  | .unreadable path => "failed to read " ++ path
  | .transfer errno => errno.ioMessage
  | .explained explanation _ => explanation

def cause : ShellError → ShellError
  | .explained _ inner => inner.cause
  | failure => failure

/-- Wraps a failure in explanations, the last of which is shown. -/
def explainedBy (failure : ShellError) (explanations : List String) : ShellError :=
  explanations.foldl (fun inner explanation => .explained explanation inner) failure

def userMessage (failure : ShellError) : String :=
  shellName ++ ": " ++ failure.message

def ofMissingPath (fault : Line.MissingPath) : ShellError :=
  .malformedLine fault.message

end ShellError

end JobShell
