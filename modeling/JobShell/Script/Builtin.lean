import JobShell.Script.Condition
import JobShell.Script.Directory
import JobShell.Script.Expansion
import JobShell.Script.Options
import JobShell.Text.Decimal
import JobShell.Tool.Mode
import JobShell.Tool.Produce

/-!
# Commands that a script runs itself

Each takes the arguments behind its name and changes the state.
-/

namespace JobShell.Script

open Unix (Program Signal firstRealTime lastSignal)

set_option autoImplicit false

def echoCommand (state : State) (arguments : List String) : Program (State × Flow) :=
  let (endsOpen, words) :=
    match arguments with
    | "-n" :: rest => (true, rest)
    | _ => (false, arguments)
  let style : Tool.EscapeStyle := ⟨true, true, false, false, false⟩
  let (bytes, ending) := style.apply (" ".intercalate words).toList
  printing state "echo"
    (if endsOpen || ending.isSome then bytes else bytes.push Tool.lineFeed)

def formatDialect (state : State) : Tool.FormatDialect :=
  { start := state.messageStart ++ "printf"
    alphabet := ⟨"-0+ #".toList, [], "scbdiouxXaAeEfFgG".toList⟩
    readText := Tool.EscapeStyle.apply ⟨false, false, false, true, false⟩
    inArgument := ⟨true, true, false, true, false⟩
    floating := .double
    allows := fun _ => true
    badDirective := fun directive => directive.source ++ ": invalid directive"
    noConversion := fun _ => "missing format character"
    notNumber := "expected numeric value"
    notAllNumber := "not completely converted"
    cite := id
    badStatus := 2
    strict := false }

def printfCommand (state : State) (arguments : List String) : Program (State × Flow) := do
  match OptionLetters.none.take arguments with
  | .error message => failed state ("printf: " ++ message) 2
  | .ok (_, []) => failed state "printf: usage: printf format [arg ...]" 2
  | .ok (_, format :: rest) =>
    let run := (formatDialect state).run format rest
    for complaint in run.complaints do
      Program.say Unix.standardError (complaint.message ++ "\n")
    let (after, flow) ← printing state "printf" run.text
    return (if run.complaints.isEmpty then after else after.withStatus run.status, flow)

def testCommand (state : State) (name : String) (arguments : List String) :
    Program (State × Flow) := do
  match ← Condition.decide arguments with
  | .ok value => finished state (if value then 0 else 1)
  | .error fault => failed state (name ++ ": " ++ fault.message) 2

/-- The name of a signal number. Real-time signals are counted from the nearer end. -/
def signalName (number : Nat) : String :=
  match Signal.ofNumber? number with
  | some .stkflt => toString number
  | some signal => (signal.name.drop 3).toString
  | none =>
    let distance (count : Nat) (sign : String) : String :=
      if count = 0 then "" else sign ++ toString count
    if number < firstRealTime || lastSignal < number then toString number
    else if number < 50 then "RTMIN" ++ distance (number - firstRealTime) "+"
    else "RTMAX" ++ distance (lastSignal - number) "-"

def signalNumber? (word : String) : Option Nat :=
  match Text.Decimal.digits? word with
  | some number => if number ≤ lastSignal then some number else none
  | none =>
    ((List.range lastSignal).map Nat.succ).find? fun number =>
      signalName number == word.toUpper

/-- The processes that a word names: one by its number, a group by a minus sign and its
number, or a command in the background by its place. -/
def receiver? (state : State) (word : String) : Except String Int :=
  let numbered (digits : List Char) : Except String Nat :=
    match Text.Decimal.digits? (String.ofList digits) with
    | some number => .ok number
    | none => .error ("Illegal number: " ++ String.ofList digits)
  match word.toList with
  | '%' :: digits =>
    match Text.Decimal.digits? (String.ofList digits) with
    | some (before + 1) =>
      match state.children[before]? with
      | some child => .ok (-(child : Int))
      | none => .error ("No such job: " ++ word)
    | _ => .error ("No such job: " ++ word)
  | '-' :: digits => (numbered digits).map fun number => -(number : Int)
  | digits => (numbered digits).map Int.ofNat

def sendAll (state : State) (number : Nat) : List String → Int → Program (State × Flow)
  | [], status => finished state status
  | target :: rest, status => do
    match receiver? state target with
    | .error message => failed state ("kill: " ++ message) 2
    | .ok receiver =>
      match ← Program.sendSignal receiver number with
      | .ok _ => sendAll state number rest status
      | .error errno =>
        state.complain ("kill: " ++ errno.message ++ "\n")
        sendAll state number rest 1

def listSignals (state : State) (arguments : List String) : Program (State × Flow) := do
  match arguments with
  | [] =>
    let names := (List.range lastSignal).map fun before => signalName (before + 1) ++ "\n"
    printing state "kill" ("0\n" ++ String.join names).toUTF8
  | word :: _ =>
    match Text.Decimal.digits? word with
    | none => failed state ("kill: Illegal number: " ++ word) 2
    | some status =>
      let number := if 128 < status then status - 128 else status
      if 0 < number && number ≤ lastSignal then
        printing state "kill" (signalName number ++ "\n").toUTF8
      else failed state ("kill: invalid signal number or exit status: " ++ word) 2

def killUsage : String :=
  "kill: Usage: kill [-s sigspec | -signum | -sigspec] [pid | job]... or\nkill -l [exitstatus]"

/-- Sends a signal, the one that asks to end by default, or lists names. -/
def killCommand (state : State) (arguments : List String) : Program (State × Flow) := do
  let send (number : Nat) (targets : List String) : Program (State × Flow) :=
    if targets.isEmpty then failed state killUsage 2 else sendAll state number targets 0
  let sendNamed (word : String) (targets : List String) : Program (State × Flow) :=
    match signalNumber? word with
    | some number => send number targets
    | none => failed state ("kill: invalid signal number or name: " ++ word) 2
  match arguments with
  | [] => failed state killUsage 2
  | word :: rest =>
    match word.toList with
    | '-' :: name =>
      match signalNumber? (String.ofList name), name with
      | some number, _ => send number rest
      | none, [] => send Signal.term.number arguments
      | none, ['-'] => send Signal.term.number rest
      | none, 'l' :: _ => listSignals state rest
      | none, ['s'] =>
        match rest with
        | [] => failed state "kill: No arg for -s option" 2
        | word :: targets => sendNamed word targets
      | none, 's' :: word => sendNamed (String.ofList word) rest
      | none, letter :: _ => failed state ("kill: Illegal option -" ++ letter.toString) 2
    | _ => send Signal.term.number arguments

/-- A text between quotes that a script reads as it is. Single quotes in it are
put between double ones. -/
def singleQuoted (text : String) : String :=
  let rec go : Nat → List Char → List Char
    | 0, _ => []
    | turns + 1, text =>
      let plain := text.takeWhile (· != '\'')
      let rest := text.drop plain.length
      let quotes := rest.takeWhile (· == '\'')
      let head := '\'' :: plain ++ ['\'']
      if quotes.isEmpty then head
      else
        let left := rest.drop quotes.length
        head ++ '"' :: quotes ++ '"' :: (if left.isEmpty then [] else go turns left)
  String.ofList (go (text.length + 1) text.toList)

/-- The number under which a handler is kept: that of a signal, or zero for the
end of the script. -/
def handlerNumber? (word : String) : Option Nat :=
  if word.toUpper == "EXIT" then some 0 else signalNumber? word

def setHandlers (action : Option String) : List String → State → Program (State × Flow)
  | [], state => finished state 0
  | word :: rest, state => do
    match handlerNumber? word with
    | none =>
      Program.say Unix.standardError ("trap: " ++ word ++ ": bad trap\n")
      finished state 1
    | some number =>
      let disposition : Unix.Disposition :=
        match action with
        | none => .default
        | some "" => .ignored
        | some _ => .caught
      match Signal.ofNumber? number with
      | some signal =>
        let _ ← Program.setSignals [signal] disposition
      | none => pure ()
      setHandlers action rest (state.setHandler number action)

def trapCommand (state : State) (arguments : List String) : Program (State × Flow) := do
  match OptionLetters.none.take arguments with
  | .error message => refused state ("trap: " ++ message)
  | .ok (_, []) =>
    let ordered := state.handlers.mergeSort fun first second => first.1 ≤ second.1
    let lines := ordered.map fun (number, text) =>
      "trap -- " ++ singleQuoted text ++ " " ++
        (if number = 0 then "EXIT" else signalName number) ++ "\n"
    printing state "trap" (String.join lines).toUTF8
  | .ok (_, first :: rest) =>
    if rest.isEmpty || ((Text.Decimal.digits? first).bind fun _ => signalNumber? first).isSome then
      setHandlers none (first :: rest) state
    else setHandlers (if first == "-" then none else some first) rest state

/-- Reads one line of the standard input byte by byte, and tells whether it was
complete. Unless told otherwise, a backslash joins lines and keeps characters. -/
def readBytes (raw : Bool) : Nat → ByteArray → Program (ByteArray × Bool)
  | 0, held => pure (held, false)
  | turns + 1, held => do
    match ← Program.read Unix.standardInput 1 with
    | .error _ => return (held, false)
    | .ok block =>
      if block.isEmpty then return (held, false)
      else
        let byte := block[0]!
        if byte = 10 then return (held, true)
        else if byte = 92 && !raw then
          match ← Program.read Unix.standardInput 1 with
          | .error _ => return (held, false)
          | .ok next =>
            if next.isEmpty then return (held, false)
            else if next[0]! = 10 then readBytes raw turns held
            else readBytes raw turns (held ++ next)
        else readBytes raw turns (held.push byte)

/-- Spreads a line over variables; the last one gets what is left. -/
def spread (separators : List Char) : List String → List Char → List (String × String)
  | [], _ => []
  | [last], text =>
    let trimmed := (text.dropWhile separators.contains).reverse.dropWhile separators.contains
    [(last, String.ofList trimmed.reverse)]
  | name :: rest, text =>
    let start := text.dropWhile separators.contains
    let field := start.takeWhile fun character => !separators.contains character
    let left := start.drop field.length
    (name, String.ofList field) :: spread separators rest left

def readCommand (state : State) (arguments : List String) : Program (State × Flow) := do
  match (OptionLetters.mk ['p', 'r'] ['p']).take arguments with
  | .error message => failed state ("read: " ++ message) 2
  | .ok (options, names) =>
    match options.reverse.lookup 'p' with
    | some text =>
      if ← Program.isTerminal Unix.standardInput then Program.say Unix.standardError text
    | none => pure ()
    if names.isEmpty then failed state "read: arg count" 2
    else
      let raw := (options.lookup 'r').isSome
      let (bytes, complete) ← readBytes raw Tool.untilEnd ByteArray.empty
      let settings := spread (Expansion.separatorsOf state) names
        (Text.Utf8.decodeArray bytes).toList
      let set : Except String State := settings.foldlM
        (fun (state : State) (name, value) => state.assign? name value) state
      match set with
      | .error message => failed state ("read: " ++ message) 2
      | .ok after => finished after (if complete then 0 else 1)

def declareAll (mark : State → String → State) (arguments : List String) (state : State) :
    Except String State :=
  arguments.foldlM
    (fun (state : State) argument =>
      match Tool.assignment? argument with
      | some (name, value) => (state.assign? name value).map fun state => mark state name
      | none =>
        if Source.isName argument then .ok (mark state argument)
        else .error (argument ++ ": bad variable name"))
    state

def declarations (command : String) (wanted : Variable → Bool) (state : State) : String :=
  let ordered := (state.bindings.filter wanted).mergeSort
    fun first second => !(second.name < first.name)
  String.join (ordered.map fun entry =>
    command ++ " " ++ entry.name ++
      ((entry.value.map fun value => "=" ++ singleQuoted value).getD "") ++ "\n")

def declareCommand (command : String) (mark : State → String → State) (marked : Variable → Bool)
    (state : State) (arguments : List String) : Program (State × Flow) := do
  match (OptionLetters.of "p").take arguments with
  | .error message => refused state (command ++ ": " ++ message)
  | .ok (options, names) =>
    if !options.isEmpty || names.isEmpty then
      printing state command (declarations command marked state).toUTF8
    else
      match declareAll mark names state with
      | .ok state => finished state 0
      | .error message => refused state (command ++ ": " ++ message)

def unsetCommand (state : State) (arguments : List String) : Program (State × Flow) := do
  match (OptionLetters.of "vf").take arguments with
  | .error message => refused state ("unset: " ++ message)
  | .ok (options, names) =>
    if options.getLast?.map Prod.fst == some 'f' then
      let kept := state.functions.filter fun entry => !names.contains entry.1
      finished { state with functions := kept } 0
    else
      match names.foldlM State.unset? state with
      | .ok state => finished state 0
      | .error message => refused state ("unset: " ++ message)

def maskLetters (mask : Nat) : String :=
  let letters (shift : Nat) : String :=
    (if mask.testBit (shift + 2) then "" else "r") ++
      (if mask.testBit (shift + 1) then "" else "w") ++ (if mask.testBit shift then "" else "x")
  "u=" ++ letters 6 ++ ",g=" ++ letters 3 ++ ",o=" ++ letters 0

def umaskCommand (state : State) (arguments : List String) : Program (State × Flow) := do
  let mask ← Program.setMask 0
  let _ ← Program.setMask mask
  match (OptionLetters.of "S").take arguments with
  | .error message => failed state ("umask: " ++ message) 2
  | .ok (options, []) =>
    let shown :=
      if options.isEmpty then Text.padLeftWith '0' 4 (Text.octal mask) else maskLetters mask
    printing state "umask" (shown ++ "\n").toUTF8
  | .ok (_, word :: _) =>
    if word.toList.head?.any Char.isDigit then
      if word.toList.all fun c => '0' ≤ c && c ≤ '7' then
        let _ ← Program.setMask (Tool.octalValue word.toList)
        finished state 0
      else failed state ("umask: Illegal number: " ++ word) 2
    else
      match Tool.changedMode? word false (511 ^^^ mask) with
      | some left =>
        let _ ← Program.setMask (511 ^^^ (left % 512))
        finished state 0
      | none => failed state ("umask: Illegal mode: " ++ word) 2

def localCommand (state : State) (arguments : List String) : Program (State × Flow) :=
  if state.hidden.isEmpty then refused state "local: not in a function"
  else
    let hideAndSet (state : State) (argument : String) : Except String State :=
      match Tool.assignment? argument with
      | some (name, value) => (state.hide name).assign? name value
      | none =>
        if Source.isName argument then .ok (state.hide argument)
        else .error (argument ++ ": bad variable name")
    match arguments.foldlM hideAndSet state with
    | .ok state => finished state 0
    | .error message => refused state ("local: " ++ message)

def setFrom : Nat → List String → State → Program (State × Flow)
  | 0, _, state => finished state 0
  | turns + 1, arguments, state => do
    let positioned (parameters : List String) (state : State) : State :=
      { state with parameters := parameters, options := OptionPlace.start }
    match arguments with
    | [] => finished state 0
    | word :: rest =>
      match word.toList with
      | ['-'] =>
        let quiet := (Switch.turn false .traced (Switch.turn false .verbose state.switches))
        let state := { state with switches := quiet }
        finished (if rest.isEmpty then state else positioned rest state) 0
      | ['-', '-'] => finished (positioned rest state) 0
      | sign :: letters =>
        if sign == '-' || sign == '+' then
          match Switch.turnWord [] (sign == '-') letters rest state.switches "" with
          | .refused message => refused state ("set: " ++ message)
          | .turned active shown left =>
            Program.say Unix.standardOutput shown
            setFrom turns left { state with switches := active }
        else finished (positioned arguments state) 0
      | [] => finished (positioned arguments state) 0

def setCommand (state : State) (arguments : List String) : Program (State × Flow) := do
  if arguments.isEmpty then
    let ordered := state.bindings.mergeSort fun first second => !(second.name < first.name)
    let lines := ordered.filterMap fun entry =>
      entry.value.map fun value => entry.name ++ "=" ++ singleQuoted value ++ "\n"
    printing state "set" (String.join lines).toUTF8
  else setFrom (arguments.length + 1) arguments state

def getoptsCommand (state : State) (arguments : List String) : Program (State × Flow) := do
  match arguments with
  | wanted :: name :: given =>
    let searched := if given.isEmpty then state.parameters else given
    let place :=
      if searched.length + 1 < state.options.index then OptionPlace.start else state.options
    let step := nextOption wanted searched place
    if let some complaint := step.complaint then
      Program.say Unix.standardError (complaint ++ "\n")
    let valued :=
      match step.value with
      | some value => state.assign? "OPTARG" value
      | none => if step.isOver then .ok state else state.unset? "OPTARG"
    let settled : Except String State := do
      let state ← valued
      let state ← state.assign? "OPTIND" (toString step.place.index)
      state.assign? name step.letter.toString
    match settled with
    | .ok state => finished { state with options := step.place } (if step.isOver then 1 else 0)
    | .error message => failed state ("getopts: " ++ message) 2
  | _ => failed state "getopts: Usage: getopts optstring var [arg...]" 2

/-- The place of a name in a table of so many rows. Tables are shown row by row. -/
def row (size : Nat) (name : String) : Nat :=
  let bytes := name.toUTF8.toList
  (bytes.foldl (fun sum byte => sum + byte.toNat) ((bytes.headD 0).toNat * 16)) % size

def aliasText (name value : String) : String :=
  name ++ "=" ++ singleQuoted value ++ "\n"

def aliasAll : List String → Int → State → Program (State × Flow)
  | [], status, state => finished state status
  | word :: rest, status, state => do
    match word.toList with
    | first :: behind =>
      match behind.dropWhile (· != '=') with
      | _ :: value =>
        let name := String.ofList (first :: behind.takeWhile (· != '='))
        let others := state.aliases.filter fun entry => entry.1 != name
        aliasAll rest status { state with aliases := others ++ [(name, String.ofList value)] }
      | [] => tell word rest status state
    | [] => tell word rest status state
where
  /-- Shows one alias and goes on. -/
  tell (word : String) (rest : List String) (status : Int) (state : State) :
      Program (State × Flow) := do
    match state.aliases.lookup word with
    | some value =>
      Program.say Unix.standardOutput (aliasText word value)
      aliasAll rest status state
    | none =>
      Program.say Unix.standardError ("alias: " ++ word ++ " not found\n")
      aliasAll rest 1 state

def aliasCommand (state : State) (arguments : List String) : Program (State × Flow) := do
  if arguments.isEmpty then
    let ordered := state.aliases.mergeSort fun first second =>
      row 39 first.1 ≤ row 39 second.1
    printing state "alias"
      (String.join (ordered.map fun entry => aliasText entry.1 entry.2)).toUTF8
  else aliasAll arguments 0 state

def unaliasAll : List String → Int → State → Program (State × Flow)
  | [], status, state => finished state status
  | name :: rest, status, state => do
    if (state.aliases.lookup name).isSome then
      unaliasAll rest status
        { state with aliases := state.aliases.filter fun entry => entry.1 != name }
    else
      Program.say Unix.standardError ("unalias: " ++ name ++ " not found\n")
      unaliasAll rest 1 state

def unaliasCommand (state : State) (arguments : List String) : Program (State × Flow) :=
  match (OptionLetters.of "a").take arguments with
  | .error message => failed state ("unalias: " ++ message) 2
  | .ok ([], names) => unaliasAll names 0 state
  | .ok (_, _) => finished { state with aliases := [] } 0

def locateAll : List String → Int → State → Program (State × Flow)
  | [], status, state => finished state status
  | name :: rest, status, state => do
    match ← Expansion.findProgram? state name with
    | some _ => locateAll rest status (state.noteProgram name)
    | none =>
      state.complain ("hash: " ++ name ++ ": not found")
      locateAll rest 1 state

def showPrograms (state : State) : List String → Program Unit
  | [] => pure ()
  | name :: rest => do
    match ← Expansion.findProgram? state name with
    | some path => Program.say Unix.standardOutput (path ++ "\n")
    | none => pure ()
    showPrograms state rest

def hashCommand (state : State) (arguments : List String) : Program (State × Flow) := do
  match (OptionLetters.of "r").take arguments with
  | .error message => failed state ("hash: " ++ message) 2
  | .ok ([], []) =>
    showPrograms state
      (state.located.mergeSort fun first second => row 31 first ≤ row 31 second)
    finished state 0
  | .ok ([], names) => locateAll names 0 state
  | .ok (_, _) => finished { state with located := [] } 0

def waitFor : State → List Unix.Pid → Int → Program (State × Flow)
  | state, [], status => finished state status
  | state, pid :: rest, _ => do
    let status ← Expansion.awaitChild pid
    waitFor { state with children := state.children.filter (· != pid) } rest status

/-- Waits for the named children, or for all without a word about their ends. -/
def waitCommand (state : State) (arguments : List String) : Program (State × Flow) := do
  match OptionLetters.none.take arguments with
  | .error message => failed state ("wait: " ++ message) 2
  | .ok (_, []) =>
    for pid in state.children do
      let _ ← Program.wait pid false
    finished { state with children := [] } 0
  | .ok (_, words) =>
    waitFor state (words.filterMap fun word => (Condition.integer? word).toOption) 127

def countOf (arguments : List String) : Except String Nat :=
  match arguments with
  | [] => .ok 1
  | word :: _ =>
    match (Condition.integer? word).toOption with
    | some number =>
      if 0 ≤ number then .ok number.toNat else .error ("Illegal number: " ++ word)
    | none => .error ("Illegal number: " ++ word)

/-- Jumps out of loops, or to their next turn. No more loops are left than there
are, and without any there is no jump. -/
def jump (name : String) (flow : Nat → Flow) (state : State) (arguments : List String) :
    Program (State × Flow) := do
  match countOf arguments with
  | .error message => refused state (name ++ ": " ++ message)
  | .ok 0 => refused state (name ++ ": Illegal number: " ++ arguments.headD "")
  | .ok (count + 1) =>
    if state.loops = 0 then finished state 0
    else return (state.withStatus 0, flow (min count (state.loops - 1)))

/-- The status given to a command that ends something. A handler that gives none
ends it with the status from before. -/
def givenStatus (state : State) (arguments : List String) : Option Int :=
  match arguments with
  | [] => some (state.beforeHandler.getD state.status)
  | word :: _ => (Condition.integer? word).toOption.filter fun number => 0 ≤ number

def leave (state : State) (name : String) (flow : Flow) (arguments : List String) :
    Program (State × Flow) := do
  match givenStatus state arguments with
  | some status => return (state.withStatus status, flow)
  | none => refused state (name ++ ": Illegal number: " ++ arguments.headD "")

/-- The commands that a script runs itself, as far as they need no evaluation of
further commands. -/
def builtin? (name : String) :
    Option (State → List String → Program (State × Flow)) :=
  match name with
  | ":" | "true" => some fun state _ => finished state 0
  | "false" => some fun state _ => finished state 1
  | "echo" => some echoCommand
  | "printf" => some printfCommand
  | "test" => some fun state arguments => testCommand state "test" arguments
  | "[" => some fun state arguments =>
    if arguments.getLast? == some "]" then testCommand state "[" arguments.dropLast
    else failed state "[: missing ]" 2
  | "kill" => some killCommand
  | "read" => some readCommand
  | "cd" => some cdCommand
  | "pwd" => some pwdCommand
  | "set" => some setCommand
  | "shift" => some fun state arguments =>
    match countOf arguments with
    | .error message => refused state ("shift: " ++ message)
    | .ok count =>
      if count ≤ state.parameters.length then
        finished { state with parameters := state.parameters.drop count } 0
      else refused state "shift: can't shift that many"
  | "export" => some (declareCommand "export" State.exportVariable Variable.exported)
  | "readonly" => some (declareCommand "readonly" State.fixVariable Variable.readOnly)
  | "local" => some localCommand
  | "unset" => some unsetCommand
  | "umask" => some umaskCommand
  | "times" => some fun state _ =>
    let line := "0m0.000000s 0m0.000000s\n"
    printing state "times" (line ++ line).toUTF8
  | "wait" => some waitCommand
  | "trap" => some trapCommand
  | "getopts" => some getoptsCommand
  | "alias" => some aliasCommand
  | "unalias" => some unaliasCommand
  | "hash" => some hashCommand
  | "jobs" => some fun state _ => finished state 0
  | "fg" | "bg" => some fun state _ => failed state (name ++ ": No current job") 2
  | "ulimit" => some fun state arguments =>
    if arguments.isEmpty then printing state "ulimit" "unlimited\n".toUTF8
    else finished state 0
  | "exit" => some fun state arguments => leave state "exit" .exited arguments
  | "return" => some fun state arguments => leave state "return" .returned arguments
  | "break" => some (jump "break" Flow.leaveLoop)
  | "continue" => some (jump "continue" Flow.nextTurn)
  | _ => none

end JobShell.Script
