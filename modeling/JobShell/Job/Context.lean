import JobShell.Unix.Program

/-!
# The context of a stage

A stage is launched for a shell, in a mode, and with three endpoints. The
endpoints belong to whoever set them, and a stage never closes them.
-/

namespace JobShell

open Unix (Pid)

set_option autoImplicit false

/-- For whom and with which endpoints a stage runs. Endpoints are numbers of
descriptors, which need not be open. -/
structure Context where
  shellPid : Pid
  shellGroup : Pid
  foreground : Bool
  interactive : Bool
  input : Int
  output : Int
  error : Int
  deriving DecidableEq, Repr

namespace Context

def ofShell (pid group : Pid) (interactive : Bool) : Context :=
  { shellPid := pid
    shellGroup := group
    foreground := true
    interactive := interactive
    input := Unix.standardInput
    output := Unix.standardOutput
    error := Unix.standardError }

def withEndpoints (context : Context) (input output : Int) : Context :=
  { context with input := input, output := output }

def ownsTerminal (context : Context) : Bool :=
  context.interactive && context.foreground

def field (name value : String) : String :=
  name ++ ": " ++ value

def pidText (pid : Pid) : String :=
  "Pid(" ++ toString pid ++ ")"

def truthText (value : Bool) : String :=
  if value then "true" else "false"

def text (context : Context) : String :=
  "Context \x7b " ++ ", ".intercalate
    [field "shell_pid" (pidText context.shellPid),
     field "shell_pgid" (pidText context.shellGroup),
     field "foreground" (truthText context.foreground),
     field "interactive" (truthText context.interactive),
     field "infile" (toString context.input),
     field "outfile" (toString context.output),
     field "errfile" (toString context.error)] ++ " \x7d"

end Context

end JobShell
