import JobShell.Error

/-!
# Options of the command line

Five options take a value, and two ask for a text. The table of them gives the
help text, the usage line and the names that an argument may use.
-/

namespace JobShell.CommandLine

set_option autoImplicit false

/-- An option that takes a value. -/
inductive Setting where
  | command
  | maxJobs
  | historySize
  | logFile
  | config
  deriving DecidableEq, Repr

/-- An option that asks for a text. -/
inductive Question where
  | help
  | version
  deriving DecidableEq, Repr

inductive Choice where
  | setting (setting : Setting)
  | question (question : Question)
  deriving DecidableEq, Repr

structure Choice.Facts where
  name : String
  letter : Option Char
  placeholder : Option String
  help : String
  deriving DecidableEq, Repr

namespace Choice

def facts : Choice → Facts
  | .setting .command => ⟨"command", some 'c', some "COMMAND", "Run one line and exit"⟩
  | .setting .maxJobs => ⟨"max-jobs", none, some "MAX_JOBS", "Number of background job slots"⟩
  | .setting .historySize =>
    ⟨"history-size", none, some "HISTORY_SIZE", "Number of lines kept for `record` and `replay`"⟩
  | .setting .logFile => ⟨"log-file", none, some "LOG_FILE", "Write debug logs to this file"⟩
  | .setting .config =>
    ⟨"config", none, some "CONFIG", "Read settings from this file instead of the xdg config"⟩
  | .question .help => ⟨"help", some 'h', none, "Print help"⟩
  | .question .version => ⟨"version", some 'V', none, "Print version"⟩

def all : List Choice :=
  [.setting .command, .setting .maxJobs, .setting .historySize, .setting .logFile,
    .setting .config, .question .help, .question .version]

def isSetting (choice : Choice) : Bool :=
  choice.facts.placeholder.isSome

def name (choice : Choice) : String :=
  choice.facts.name

def usage (choice : Choice) : String :=
  "--" ++ choice.name ++
    match choice.facts.placeholder with
    | some placeholder => " <" ++ placeholder ++ ">"
    | none => ""

def ofName? (name : String) : Option Choice :=
  all.find? fun choice => choice.name == name

def ofLetter? (letter : Char) : Option Choice :=
  all.find? fun choice => choice.facts.letter == some letter

def heading (choice : Choice) : String :=
  (match choice.facts.letter with
    | some letter => "  -" ++ letter.toString ++ ", "
    | none => "      ") ++ choice.usage

def headingWidth : Nat :=
  all.foldl (fun width choice => max width choice.heading.length) 0

def helpLine (choice : Choice) : String :=
  choice.heading.pushn ' ' (headingWidth + 2 - choice.heading.length) ++
    choice.facts.help ++ "\n"

end Choice

def usageLine (named : List Choice) : String :=
  "Usage: " ++ shellName ++
    if named.isEmpty then " [OPTIONS]"
    else String.join (named.map fun choice => " " ++ choice.usage)

/-- The usage line of a question that was given a value. Once another option has
been read, the options that might go with the question are named as one group. -/
def questionUsageLine (question : Question) (amongOthers : Bool) : String :=
  usageLine [.question question] ++
    if amongOthers then
      " <" ++ "|".intercalate ((Choice.all.filter Choice.isSetting).map Choice.usage) ++ ">"
    else ""

def helpText : String :=
  "A small job-control shell\n\n" ++ usageLine [] ++ "\n\nOptions:\n" ++
    String.join (Choice.all.map Choice.helpLine)

def versionText : String :=
  shellName ++ " 0.0.1\n"

end JobShell.CommandLine
