import JobShell.CommandLine.Arguments
import JobShell.Settings.Standard
import JobShell.Shell.Reader

/-!
# Running the shell from its arguments

A flag goes before the settings file, and the settings file before the
defaults. The log file is made before the shell starts and stays open. With a
command the shell evaluates that one line, and otherwise the lines of its input.
-/

namespace JobShell.CommandLine

open Settings (Source)
open Unix (PathName Program)

set_option autoImplicit false

def Flags.over (flags : Flags) (settings : Settings) : Settings :=
  { settings with
    maxJobs := flags.maxJobs.getD settings.maxJobs
    historySize := flags.historySize.getD settings.historySize
    logPath := (flags.logFile.map PathName.mk).or settings.logPath }

def Flags.settingsFrom (flags : Flags) (source : Source) : Program Settings := do
  return flags.over (← source.load (flags.config.map PathName.mk))

def Flags.settings (flags : Flags) (account : Option Surroundings.Account) :
    Program Settings :=
  flags.settingsFrom (.standard account)

def logMode : Nat := 0o666

def openLog (settings : Settings) : Program Bool := do
  match settings.logPath with
  | none => return true
  | some path =>
    match ← openPath path (.truncating logMode) with
    | .ok _ => return true
    | .error fault =>
      Program.print Unix.standardError
        ("Failed to initialize tracing: failed to create " ++ path.shown ++ ": " ++
          fault.message ++ "\n")
      return false

def Question.text : Question → String
  | .help => helpText
  | .version => versionText

def exitCode (succeeded : Bool) : Int :=
  if succeeded then 0 else 1

/-- Runs the shell under some flags. The lines of the input must be fewer than
the given number, as must be the blocks of each. -/
def runShell (account : Option Surroundings.Account) (turns : Nat) (flags : Flags) :
    Program Int := do
  let settings ← flags.settings account
  if ← openLog settings then
    let shell ← Shell.start settings account
    let (_, succeeded) ←
      match flags.command with
      | some command => shell.runCommand command
      | none => shell.runLines turns
    return exitCode succeeded
  else return exitCode false

def invoke (account : Option Surroundings.Account) (turns : Nat) (arguments : List Argument) :
    Program Int :=
  match interpret arguments with
  | .answer question => do
    Program.say Unix.standardOutput question.text
    return 0
  | .refuse refusal => do
    Program.say Unix.standardError refusal.message
    return 2
  | .run flags => runShell account turns flags

end JobShell.CommandLine
