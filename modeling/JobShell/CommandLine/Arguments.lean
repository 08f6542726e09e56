import JobShell.CommandLine.Choice
import JobShell.CommandLine.Similar
import JobShell.Text.Decimal
import JobShell.Text.Utf8

/-!
# Arguments

Arguments are bytes and are read from the left. An option with two dashes may
hold its value behind an equals sign, and one with a single dash directly behind
its letter. Otherwise the next argument is the value, unless it looks like an
option itself. Such a value is looked at only when the next option comes or the
arguments end, so an argument that is not known is reported first.
-/

namespace JobShell.CommandLine

set_option autoImplicit false

abbrev Argument := List UInt8

/-- The values that were given. Paths need not be valid UTF-8. -/
structure Flags where
  command : Option String
  maxJobs : Option Nat
  historySize : Option Nat
  logFile : Option Argument
  config : Option Argument
  deriving DecidableEq

def Flags.none : Flags :=
  ⟨.none, .none, .none, .none, .none⟩

inductive Refusal where
  | unknown (argument : String) (suggestion : Option Choice) (given : List Choice)
  | missingValue (setting : Setting)
  | invalidValue (setting : Setting) (value : String) (fault : Text.Decimal.Fault)
  | repeated (setting : Setting)
  | unneededValue (question : Question) (value : String) (amongOthers : Bool)
  | notText
  deriving DecidableEq, Repr

inductive Invocation where
  | run (flags : Flags)
  | answer (question : Question)
  | refuse (refusal : Refusal)
  deriving DecidableEq

namespace Refusal

def sentence : Refusal → String
  | .unknown argument _ _ => "unexpected argument '" ++ argument ++ "' found"
  | .missingValue setting =>
    "a value is required for '" ++ (Choice.setting setting).usage ++ "' but none was supplied"
  | .invalidValue setting value fault =>
    "invalid value '" ++ value ++ "' for '" ++ (Choice.setting setting).usage ++ "': " ++
      fault.message
  | .repeated setting =>
    "the argument '" ++ (Choice.setting setting).usage ++ "' cannot be used multiple times"
  | .unneededValue question value _ =>
    "unexpected value '" ++ value ++ "' for '" ++ (Choice.question question).usage ++
      "' found; no more were expected"
  | .notText => "invalid UTF-8 was detected in one or more arguments"

def tip : Refusal → String
  | .unknown _ (some choice) _ =>
    "\n\n  tip: a similar argument exists: '--" ++ choice.name ++ "'"
  | _ => ""

/-- The usage line that goes with the refusal. A wrong value has none. -/
def usage? : Refusal → Option String
  | .unknown _ none given => some (usageLine given)
  | .unknown _ (some choice) given =>
    some (usageLine (if given.contains choice then given else given ++ [choice]))
  | .missingValue _ => none
  | .invalidValue _ _ _ => none
  | .repeated _ => some (usageLine [])
  | .unneededValue question _ amongOthers => some (questionUsageLine question amongOthers)
  | .notText => some (usageLine [])

def message (refusal : Refusal) : String :=
  "error: " ++ refusal.sentence ++ refusal.tip ++
    ((refusal.usage?.map fun line => "\n\n" ++ line).getD "") ++
    "\n\nFor more information, try '--help'.\n"

end Refusal

def text? (argument : Argument) : Option String :=
  String.fromUTF8? ⟨argument.toArray⟩

def Flags.set (flags : Flags) (setting : Setting) (value : Argument) : Except Refusal Flags := do
  let text : Except Refusal String :=
    match text? value with
    | some text => .ok text
    | .none => .error .notText
  let number : Except Refusal Nat := do
    let text ← text
    (Text.Decimal.read Text.Decimal.wordBound text).mapError (.invalidValue setting text)
  let path : Except Refusal Argument :=
    if value.isEmpty then .error (.missingValue setting) else .ok value
  match setting with
  | .command => return { flags with command := some (← text) }
  | .maxJobs => return { flags with maxJobs := some (← number) }
  | .historySize => return { flags with historySize := some (← number) }
  | .logFile => return { flags with logFile := some (← path) }
  | .config => return { flags with config := some (← path) }

/-- An option whose value has not been looked at. -/
inductive Pending where
  | nothing
  | awaiting (setting : Setting)
  | holding (setting : Setting) (value : Argument)
  deriving DecidableEq

structure Draft where
  flags : Flags
  given : List Choice
  pending : Pending

namespace Draft

def start : Draft :=
  ⟨.none, [], .nothing⟩

def take (draft : Draft) (setting : Setting) (value : Argument) : Draft × Option Refusal :=
  if draft.given.contains (Choice.setting setting) then
    ({ draft with given := draft.given.erase (Choice.setting setting) }, some (.repeated setting))
  else
    let draft := { draft with given := draft.given ++ [Choice.setting setting] }
    match draft.flags.set setting value with
    | .ok flags => ({ draft with flags := flags }, none)
    | .error refusal => (draft, some refusal)

def settle (draft : Draft) : Draft × Option Refusal :=
  let settled := { draft with pending := .nothing }
  match draft.pending with
  | .nothing => (settled, none)
  | .awaiting setting => (settled, some (.missingValue setting))
  | .holding setting value => settled.take setting value

/-- Goes on once the value that has been put off is known to be right. -/
def settled {α : Type} (draft : Draft) (next : Draft → Except Invocation α) :
    Except Invocation α :=
  match draft.settle with
  | (draft, none) => next draft
  | (_, some refusal) => .error (.refuse refusal)

def readSetting (draft : Draft) (setting : Setting) (attached : Option Argument) :
    Except Invocation Draft :=
  draft.settled fun draft =>
    match attached with
    | none => .ok { draft with pending := .awaiting setting }
    | some value =>
      match draft.take setting value with
      | (draft, none) => .ok draft
      | (_, some refusal) => .error (.refuse refusal)

def refused (argument : String) : Except Invocation Draft :=
  .error (.refuse (.unknown argument none []))

def refuseLong (draft : Draft) (name : String) : Except Invocation Draft :=
  .error (.refuse
    (.unknown ("--" ++ name) (mostSimilar? Choice.name name Choice.all) draft.settle.1.given))

def readLong (draft : Draft) (argument : Argument) : Except Invocation Draft :=
  let written := argument.takeWhile (· != 61)
  let attached :=
    if argument.contains 61 then some (argument.drop (written.length + 1)) else none
  match text? written with
  | none => draft.refuseLong (Text.Utf8.decode written)
  | some name =>
    match Choice.ofName? name, attached with
    | none, _ => draft.refuseLong name
    | some (.setting setting), _ => draft.readSetting setting attached
    | some (.question question), none =>
      draft.settled fun _ => .error (.answer question)
    | some (.question question), some value =>
      .error (.refuse (.unneededValue question (Text.Utf8.decode value) (!draft.given.isEmpty)))

def readShort (draft : Draft) (argument : Argument) : Except Invocation Draft :=
  let text := Text.Utf8.decode argument
  match text.toList with
  | [] => refused "-"
  | letter :: _ =>
    let written := letter.toString.toUTF8.data.toList
    if !written.isPrefixOf argument then refused ("-" ++ text)
    else
      match Choice.ofLetter? letter with
      | none => refused ("-" ++ letter.toString)
      | some (.question question) => draft.settled fun _ => .error (.answer question)
      | some (.setting setting) =>
        match argument.drop written.length with
        | [] => draft.readSetting setting none
        | 61 :: value => draft.readSetting setting (some value)
        | value => draft.readSetting setting (some value)

def readValue (draft : Draft) (argument : Argument) : Except Invocation Draft :=
  match draft.pending with
  | .awaiting setting => .ok { draft with pending := .holding setting argument }
  | _ => refused (Text.Utf8.decode argument)

def read (draft : Draft) (argument : Argument) : Except Invocation Draft :=
  match argument with
  | 45 :: 45 :: rest => draft.readLong rest
  | [45] => draft.readValue argument
  | 45 :: rest => draft.readShort rest
  | _ => draft.readValue argument

/-- Reads arguments. Two dashes alone end the options, and as nothing else may
be given, whatever follows them is refused. -/
def readAll (draft : Draft) : List Argument → Except Invocation Draft
  | [] => .ok draft
  | [45, 45] :: [] => .ok draft
  | [45, 45] :: argument :: _ => refused (Text.Utf8.decode argument)
  | argument :: rest => do
    let draft ← draft.read argument
    draft.readAll rest

end Draft

def interpret (arguments : List Argument) : Invocation :=
  match Draft.start.readAll arguments with
  | .error invocation => invocation
  | .ok draft =>
    match draft.settle with
    | (draft, none) => .run draft.flags
    | (_, some refusal) => .refuse refusal

end JobShell.CommandLine
