import JobShell.Script.Builtin
import JobShell.Script.Reader
import JobShell.Text.Decimal

/-!
# Running scripts

Commands are evaluated in a state that they change. A program of its own runs in
a child; a command that the script runs itself has its redirections undone
afterwards.
-/

namespace JobShell.Script

open Unix (Program Descriptor Signal)
open Expansion (Evaluator)

set_option autoImplicit false

def asideStart : Nat := 10

def openOnto (state : State) (descriptor : Descriptor) (path : String) (access : Unix.Access)
    (creating keeping : Bool) : Program Bool := do
  let isKept ←
    if keeping then
      match ← Program.inspect path true with
      | .ok status => pure (decide (status.kind = .regular))
      | .error _ => pure false
    else pure false
  let opened ← if isKept then pure (.error Unix.Errno.exists) else Program.openFile path access
  match opened with
  | .error errno =>
    let reason :=
      if creating then
        (if errno = .noEntry then "Directory nonexistent" else errno.message)
      else if errno = .noEntry then "No such file" else errno.message
    state.report ((if creating then "cannot create " else "cannot open ") ++ path ++ ": " ++
      reason)
    return false
  | .ok opened =>
    if opened != descriptor then
      let _ ← Program.duplicate opened descriptor
      let _ ← Program.close opened
    return true

def redirectOne (evaluate : Evaluator) (state : State) : Redirect → Program (State × Bool)
  | .of descriptor kind target => do
    match ← Expansion.single evaluate target state with
    | .error message =>
      state.report message
      return (state, false)
    | .ok (state, path) =>
      match kind with
      | .input => return (state, ← openOnto state descriptor path .reading false false)
      | .output =>
        let keeping := state.has .keepFiles
        return (state, ← openOnto state descriptor path (.truncating 0o666) true keeping)
      | .overwrite =>
        return (state, ← openOnto state descriptor path (.truncating 0o666) true false)
      | .append => return (state, ← openOnto state descriptor path (.appending 0o666) true false)
      | .readWrite =>
        return (state, ← openOnto state descriptor path (.updating 0o666) true false)
      | .duplicate =>
        if path = "-" then
          let _ ← Program.close descriptor
          return (state, true)
        else
          match Text.Decimal.digits? path with
          | none =>
            state.report ("Syntax error: Bad fd number")
            return (state, false)
          | some source =>
            match ← Program.duplicate source descriptor with
            | .ok _ => return (state, true)
            | .error errno =>
              state.report (path ++ ": " ++ errno.message)
              return (state, false)
      | .document =>
        match ← Program.pipe with
        | .error _ => return (state, false)
        | .ok (reader, writer) =>
          -- A child writes the text, which may be longer than the pipe.
          match ← Program.fork with
          | .error _ => return (state, false)
          | .ok none =>
            let _ ← Program.close reader
            let _ ← Program.writeAll writer path.toUTF8
            Program.exit 0
          | .ok (some _) =>
            let _ ← Program.close writer
            let _ ← Program.duplicate reader descriptor
            let _ ← Program.close reader
            return (state, true)

def redirectAll (evaluate : Evaluator) : List Redirect → State → Program (State × Bool)
  | [], state => pure (state, true)
  | redirect :: rest, state => do
    match ← redirectOne evaluate state redirect with
    | (state, true) => redirectAll evaluate rest state
    | (state, false) => return (state, false)

/-- Sets the descriptors of redirections aside. One that is not open is listed
without a copy. -/
def setAside : List Redirect → State → Program (State × List (Descriptor × Option Descriptor))
  | [], state => pure (state, [])
  | .of descriptor _ _ :: rest, state => do
    let copy := asideStart + state.aside.length
    match ← Program.duplicate descriptor copy with
    | .ok _ =>
      let (state, others) ← setAside rest { state with aside := copy :: state.aside }
      return (state, (descriptor, some copy) :: others)
    | .error _ =>
      let (state, others) ← setAside rest state
      return (state, (descriptor, none) :: others)

def putBack : List (Descriptor × Option Descriptor) → State → Program State
  | [], state => pure state
  | (descriptor, copy) :: rest, state => do
    let state ← putBack rest state
    match copy with
    | some copy =>
      let _ ← Program.duplicate copy descriptor
      let _ ← Program.close copy
      return { state with aside := state.aside.filter (· != copy) }
    | none =>
      let _ ← Program.close descriptor
      return state

/-- Runs something under redirections that are undone afterwards, so that it
cannot be the end of the process. -/
def withRedirects (evaluate : Evaluator) (redirects : List Redirect) (state : State)
    (act : State → Program (State × Flow)) : Program (State × Flow) := do
  if redirects.isEmpty then act state
  else
    let (state, saved) ← setAside redirects state
    let (state, applied) ← redirectAll evaluate redirects state
    if applied then
      let (state, flow) ← act { state with isLast := false }
      return (← putBack saved state, flow)
    else
      let state ← putBack saved state
      return (state.withStatus 2, .next)

def startProgram (state : State) (complainer : Option String) (assignments : List (String × String))
    (words : List String) : Program Int := do
  let bindings := assignments.foldl
    (fun bindings (name, value) => Tool.assign bindings name value) state.exports
  Program.setEnvironment bindings
  let errno ← Program.execute words
  let named := { state with inside := complainer <|> state.inside }
  if errno = .noEntry then
    named.report (words.headD "" ++ ": not found")
    return 127
  else
    named.report (Tool.because (words.headD "") errno)
    return 126

/-- Runs a program in a child and waits for it. The last program of a script
needs no child, unless signals are handled. -/
def runProgram (evaluate : Evaluator) (state : State) (assignments : List (String × String))
    (words : List String) (redirects : List Redirect) : Program (State × Flow) := do
  let start (state : State) : Program (State × Flow) := do
    let (state, applied) ← redirectAll evaluate redirects state
    let status ← if applied then startProgram state none assignments words else pure 2
    return (state.withStatus status, .exited)
  if state.isLast && !state.hasHandlers then
    Expansion.closeAll state.aside
    start state
  else
    match ← Program.fork with
    | .error errno => failed state ("Cannot fork: " ++ errno.message) 2
    | .ok none =>
      let (after, _) ← start (← Expansion.enterChild state)
      Program.exit after.status
    | .ok (some child) =>
      let status ← Expansion.awaitChild child
      finished (state.noteProgram (words.headD "")) status

def assignmentValues (evaluate : Evaluator) :
    List (String × List Part) → State →
    Program (Expansion.Outcome (State × List (String × String)))
  | [], state => pure (.ok (state, []))
  | (name, word) :: rest, state => do
    match ← Expansion.assigned evaluate word state with
    | .error message => return .error message
    | .ok (state, value) =>
      match ← assignmentValues evaluate rest state with
      | .error message => return .error message
      | .ok (state, others) => return .ok (state, (name, value) :: others)

def setAll (settings : List (String × String)) (state : State) : Except String State :=
  settings.foldlM (fun (state : State) (name, value) => state.assign? name value) state

def withSettings (settings : List (String × String)) (state : State)
    (act : State → Program (State × Flow)) : Program (State × Flow) :=
  if settings.isEmpty then act state
  else
    let hidden := settings.foldl (fun (state : State) setting => state.hide setting.1)
      { state with hidden := [] :: state.hidden }
    match setAll settings hidden with
    | .error message => faulted state message
    | .ok set => do
      let exported := settings.foldl
        (fun (state : State) setting => state.exportVariable setting.1) set
      let (after, flow) ← act exported
      return (after.unhide, flow)

def showRead (state : State) (isFile : Bool) (source : Source) (left : Nat) : Program Unit := do
  if isFile && state.has .verbose then
    let text := source.rest.take (source.rest.length - left)
    Program.say Unix.standardError (String.ofList text)

/-- Where a text comes from: the process may end with it, or it is a file, or neither. -/
inductive TextKind where
  | whole
  | file
  | part
  deriving DecidableEq, Repr

def evaluateSource (evaluate : Evaluator) (kind : TextKind) :
    Nat → Source → State → Program (State × Flow)
  | 0, _, state => pure (state, .next)
  | turns + 1, source, state => do
    -- A line may use the aliases that the lines before it have set.
    let source := { source with aliases := state.aliases }
    match Reader.unit? source with
    | .error (line, fault) =>
      showRead state (kind = .file) source 0
      faulted { state with line := line } fault.message
    | .ok (none, _) =>
      showRead state (kind = .file) source 0
      return (state, .next)
    | .ok (some command, rest) =>
      showRead state (kind = .file) source rest.rest.length
      let isLast :=
        kind = .whole && rest.rest.isEmpty && source.rest.getLast? != some '\n'
      match ← evaluate command { state with isLast := isLast } with
      | (state, .next) => evaluateSource evaluate kind turns rest state
      | stopped => return stopped

/-- How many texts may be evaluated inside each other before no room is left for more. -/
def textLimit : Nat := 1000

/-- Evaluates a text inside a script. One without commands has the status zero. A process
without room for it is killed. -/
def evaluateText (evaluate : Evaluator) (kind : TextKind) (text : String) (line : Nat)
    (state : State) : Program (State × Flow) := do
  if textLimit ≤ state.texts then
    let _ ← Program.sendSignal (← Program.ownPid) Unix.Signal.segv.number
    return (state, .exited)
  let source := { Source.ofText text line with aliases := state.aliases }
  match Reader.unit? source with
  | .ok (none, _) =>
    showRead state (kind = .file) source 0
    finished state 0
  | _ =>
    let (after, flow) ← evaluateSource evaluate kind (text.length + 1) source
      { state with texts := state.texts + 1 }
    return ({ after with texts := state.texts }, flow)

/-- The text of a file, for a script that is read whole. One that opens but cannot be
read is empty. -/
def scriptText (path : String) : Program (Except Unix.Errno ByteArray) := do
  match ← Program.openFile path .reading with
  | .error errno => return .error errno
  | .ok source =>
    let (bytes, _) ← Tool.readAll source
    let _ ← Program.close source
    return .ok bytes

def functionLimit : Nat := 1000

def callFunction (evaluate : Evaluator) (state : State) (body : Command)
    (arguments : List String) : Program (State × Flow) := do
  if functionLimit ≤ state.hidden.length then
    faulted state ("Maximum function recursion depth (" ++ toString functionLimit ++ ") reached")
  else
    let (after, flow) ← evaluate body
      { state with
        parameters := arguments
        options := OptionPlace.start
        hidden := [] :: state.hidden
        loops := 0 }
    let restored :=
      { after.unhide with
        parameters := state.parameters
        options := state.options
        loops := state.loops }
    return (restored, if flow = .returned then .next else flow)

def describe? (sentence : Bool) (state : State) (name : String) : Program (Option String) := do
  let told (text : String) : Option String :=
    some (if sentence then name ++ " is " ++ text else name)
  if keywords.contains name then return told "a shell keyword"
  else if let some value := state.aliases.lookup name then
    return some (if sentence then name ++ " is an alias for " ++ value
      else "alias " ++ name ++ "=" ++ singleQuoted value)
  else if (state.functions.lookup name).isSome then return told "a shell function"
  else if languageCommands.contains name then return told "a special shell builtin"
  else if (builtin? name).isSome || name == "command" || name == "type" then
    return told "a shell builtin"
  else
    match ← Expansion.findProgram? state name with
    | some path =>
      let kind := if state.located.contains name then " is a tracked alias for " else " is "
      return some (if sentence then name ++ kind ++ path else path)
    | none => return none

def describeAll (sentence : Bool) (state : State) : List String → Int → Program (State × Flow)
  | [], status => finished state status
  | name :: rest, status => do
    match ← describe? sentence state name with
    | some text =>
      Program.say Unix.standardOutput (text ++ "\n")
      describeAll sentence (state.noteProgram name) rest status
    | none =>
      if sentence then Program.say Unix.standardOutput (name ++ ": not found\n")
      describeAll sentence state rest 127

def insideOf (command : String) (state : State) (act : State → Program (State × Flow)) :
    Program (State × Flow) := do
  let (after, flow) ← act { state with inside := some command }
  return ({ after with inside := state.inside }, flow)

/-- The place of a script that is read into another one: its name, or a file of that
name in the search path. -/
def scriptPlace? (state : State) (name : String) : Program (Option String) := do
  if name.contains '/' then return some name
  for directory in ((state.valueOf? "PATH").getD "").splitOn ":" do
    let path := if directory.isEmpty then name else directory ++ "/" ++ name
    match ← Program.inspect path true with
    | .ok status => if status.kind = .regular then return some path
    | .error _ => pure ()
  return none

def includeScript (evaluate : Evaluator) (state : State) (arguments : List String) :
    Program (State × Flow) := do
  match arguments with
  | [] => finished state 0
  | name :: _ =>
    match ← scriptPlace? state name with
    | none => refused state (".: " ++ name ++ ": not found")
    | some path =>
      match ← scriptText path with
      | .error errno =>
        let reason := if errno = .noEntry then "No such file" else errno.message
        refused state (".: cannot open " ++ name ++ ": " ++ reason)
      | .ok bytes =>
        let (after, flow) ← insideOf "." state fun state =>
          evaluateText evaluate .file (Text.Utf8.decodeArray bytes) 1 state
        return ({ after with line := state.line }, if flow = .returned then .next else flow)

def plainCommand? (evaluate : Evaluator) (name : String) :
    Option (State → List String → Program (State × Flow)) :=
  match name with
  | "eval" => some fun state arguments =>
    insideOf "eval" state fun state =>
      evaluateText evaluate .part (" ".intercalate arguments) state.line state
  | "." => some (includeScript evaluate)
  | "exec" => some fun state arguments => do
    if arguments.isEmpty then finished state 0
    else
      Expansion.closeAll state.aside
      let status ← startProgram state (some "exec") [] arguments
      return (state.withStatus status, .exited)
  | "type" => some fun state arguments => describeAll true state arguments 0
  | _ => builtin? name

/-- Runs a command that is no function, or tells what a name stands for. A fault in
the command does not end the script. -/
def commandCommand (evaluate : Evaluator) (state : State) :
    Nat → List String → Program (State × Flow)
  | 0, _ => finished state 0
  | turns + 1, arguments => do
    match (OptionLetters.of "pvV").take arguments with
    | .error message => failed state ("command: " ++ message) 2
    | .ok (_, []) => finished state 0
    | .ok (options, name :: rest) =>
      match (options.map Prod.fst).filter fun letter => letter != 'p' with
      | letter :: others =>
        describeAll ((letter :: others).getLast? == some 'V') state [name] 0
      | [] =>
        if name = "command" then commandCommand evaluate state turns rest
        else
          match plainCommand? evaluate name with
          | none => runProgram evaluate state [] (name :: rest) []
          | some run =>
            match ← run state rest with
            | (after, .faulted) => return (after, .next)
            | result => return result

/-- Runs a named command that is no program: a function, or a command of the
script. There is none for the name of a program. -/
def ownCommand? (evaluate : Evaluator) (state : State) (name : String) :
    Option (State → List String → Program (State × Flow)) :=
  match state.functions.lookup name with
  | some body => some fun state arguments => callFunction evaluate state body arguments
  | none =>
    if name = "command" then
      some fun state arguments => commandCommand evaluate state (arguments.length + 1) arguments
    else plainCommand? evaluate name

/-- Runs a command that is part of the language: the variables set in front of it
keep their values, and the script ends when it cannot be redirected. -/
def specialCommand (evaluate : Evaluator) (name : String) (settings : List (String × String))
    (arguments : List String) (redirects : List Redirect)
    (run : State → List String → Program (State × Flow)) (state : State) :
    Program (State × Flow) := do
  let go (state : State) : Program (State × Flow) :=
    match setAll settings state with
    | .error message => faulted state message
    | .ok state =>
      let state :=
        if name = "exec" then
          settings.foldl (fun (state : State) setting => state.exportVariable setting.1) state
        else state
      run state arguments
  let (state, saved) ←
    -- Without a program these redirections are meant to stay.
    if name = "exec" && arguments.isEmpty then pure (state, [])
    else setAside redirects state
  let (state, applied) ← redirectAll evaluate redirects state
  if applied then
    let (state, flow) ← go { state with isLast := false }
    return (← putBack saved state, flow)
  else
    let state ← putBack saved state
    return (state.withStatus 2, .faulted)

def simpleCommand (evaluate : Evaluator) (line : Nat) (assignments : List (String × List Part))
    (words : List (List Part)) (redirects : List Redirect) (state : State) :
    Program (State × Flow) := do
  let before := state.status
  match ← Expansion.commandFields evaluate words { state with line := line } with
  | .error message => faulted { state with line := line } message
  | .ok (state, fields) =>
    let state := if words.isEmpty then state.withStatus before else state
    match ← assignmentValues evaluate assignments
        (if fields.isEmpty then state.withStatus 0 else state) with
    | .error message => faulted state message
    | .ok (state, settings) =>
      if state.has .traced then
        let shown := settings.map (fun (name, value) => name ++ "=" ++ value) ++ fields
        Program.say Unix.standardError ("+ " ++ " ".intercalate shown ++ "\n")
      match fields with
      | [] =>
        withRedirects evaluate redirects state fun state =>
          match setAll settings state with
          | .ok state => return (state, .next)
          | .error message => faulted state message
      | name :: arguments =>
        let isSpecial := languageCommands.contains name && (state.functions.lookup name).isNone
        match ownCommand? evaluate state name with
        | some run =>
          if isSpecial then
            specialCommand evaluate name settings arguments redirects run state
          else
            withRedirects evaluate redirects { state with isLast := false } fun state =>
              withSettings settings state fun state => run state arguments
        | none =>
          match settings.find? fun setting => state.isFixed setting.1 with
          | some setting => faulted state (setting.1 ++ ": is read only")
          | none => runProgram evaluate state settings fields redirects

def startStages (evaluate : Evaluator) (state : State) :
    Option Descriptor → List Command → Program (List Unix.Pid)
  | _, [] => pure []
  | input, stage :: rest => do
    let child (output : Option (Descriptor × Descriptor)) : Program (List Unix.Pid) := do
      match ← Program.fork with
      | .error _ => return []
      | .ok none =>
        match input with
        | some reader =>
          let _ ← Program.duplicate reader Unix.standardInput
          let _ ← Program.close reader
        | none => pure ()
        match output with
        | some (reader, writer) =>
          let _ ← Program.close reader
          let _ ← Program.duplicate writer Unix.standardOutput
          let _ ← Program.close writer
        | none => pure ()
        Expansion.runApart evaluate stage state
      | .ok (some pid) =>
        match input with
        | some reader =>
          let _ ← Program.close reader
        | none => pure ()
        match output with
        | some (_, writer) =>
          let _ ← Program.close writer
        | none => pure ()
        return [pid]
    if rest.isEmpty then child none
    else
      match ← Program.pipe with
      | .error _ => return []
      | .ok (reader, writer) =>
        let pids ← child (some (reader, writer))
        let others ← startStages evaluate state (some reader) rest
        return pids ++ others

def awaitAll : List Unix.Pid → Int → Program Int
  | [], status => pure status
  | pid :: rest, _ => do
    let status ← Expansion.awaitChild pid
    awaitAll rest status

def loopFlow : Flow → Flow × Bool
  | .next => (.next, true)
  | .leaveLoop 0 => (.next, false)
  | .leaveLoop (levels + 1) => (.leaveLoop levels, false)
  | .nextTurn 0 => (.next, true)
  | .nextTurn (levels + 1) => (.nextTurn levels, false)
  | flow => (flow, false)

def eachValue (evaluate : Evaluator) (name : String) (body : Command) :
    List String → State → Program (State × Flow)
  | [], state => pure (state, .next)
  | value :: rest, state => do
    match state.assign? name value with
    | .error message => faulted state message
    | .ok state =>
      let (state, flow) ← evaluate body state
      match loopFlow flow with
      | (_, true) => eachValue evaluate name body rest state
      | (outer, false) => return (state, outer)

def whileTest (evaluate : Evaluator) (expected : Bool) (test body : Command) :
    Nat → Int → State → Program (State × Flow)
  | 0, status, state => pure (state.withStatus status, .next)
  | turns + 1, status, state => do
    let (state, flow) ← evaluate test { state with tested := true }
    let state := { state with tested := false }
    if flow != .next then return (state, (loopFlow flow).1)
    else if (state.status == 0) != expected then return (state.withStatus status, .next)
    else
      let (state, flow) ← evaluate body state
      match loopFlow flow with
      | (_, true) => whileTest evaluate expected test body turns state.status state
      | (outer, false) => return (state, outer)

def acceptsAny (evaluate : Evaluator) (text : String) :
    List (List Part) → State → Program (Expansion.Outcome (State × Bool))
  | [], state => pure (.ok (state, false))
  | word :: rest, state => do
    match ← Expansion.pattern evaluate word state with
    | .error message => return .error message
    | .ok (state, pattern) =>
      if Match.accepts pattern text.toList then return .ok (state, true)
      else acceptsAny evaluate text rest state

def firstClause (evaluate : Evaluator) (text : String) :
    List (List (List Part) × Command) → State → Program (State × Flow)
  | [], state => finished state 0
  | (patterns, body) :: rest, state => do
    match ← acceptsAny evaluate text patterns state with
    | .error message => faulted state message
    | .ok (state, true) => evaluate body (state.withStatus 0)
    | .ok (state, false) => firstClause evaluate text rest state

def inSequence (evaluate : Evaluator) (isLast : Bool) :
    List Command → State → Program (State × Flow)
  | [], state => pure (state, .next)
  | command :: rest, state => do
    match ← evaluate command { state with isLast := isLast && rest.isEmpty } with
    | (state, .next) => inSequence evaluate isLast rest state
    | stopped => return stopped

/-- The script ends at a command that failed if it was asked to and the outcome
is not tested. -/
def endingOnFailure (result : State × Flow) : State × Flow :=
  let (state, flow) := result
  if flow = .next && state.has .endOnFailure && !state.tested && state.status != 0 then
    (state, .exited)
  else result

def tested (evaluate : Evaluator) (command : Command) (state : State) : Program (State × Flow) := do
  let (after, flow) ← evaluate command { state with tested := true, isLast := false }
  return ({ after with tested := state.tested, isLast := state.isLast }, flow)

def evaluateWith (evaluate : Evaluator) (command : Command) (state : State) :
    Program (State × Flow) := do
  if state.has .readOnlyRun then return (state, .next)
  match command with
  | .simple line assignments words redirects =>
    return endingOnFailure (← simpleCommand evaluate line assignments words redirects state)
  | .sequence commands => inSequence evaluate state.isLast commands state
  | .both first second =>
    match ← tested evaluate first state with
    | (state, .next) =>
      if state.status = 0 then evaluate second state else return (state, .next)
    | stopped => return stopped
  | .either first second =>
    match ← tested evaluate first state with
    | (state, .next) => if state.status = 0 then return (state, .next) else evaluate second state
    | stopped => return stopped
  | .background body =>
    match ← Program.fork with
    | .error errno => failed state ("Cannot fork: " ++ errno.message) 2
    | .ok none =>
      let _ ← Program.setSignals [.int, .quit] .ignored
      match ← Program.openFile "/dev/null" .reading with
      | .ok null =>
        let _ ← Program.duplicate null Unix.standardInput
        let _ ← Program.close null
      | .error _ => pure ()
      Expansion.runApart evaluate body state
    | .ok (some child) =>
      return ({ state with
        lastBackground := some child
        children := state.children ++ [child]
        status := 0 }, .next)
  | .pipeline negated stages =>
    let (after, flow) ←
      match stages with
      | [only] => tested evaluate only state
      | _ => do
        let pids ← startStages evaluate state none stages
        let status ← awaitAll pids 0
        pure (state.withStatus status, Flow.next)
    if negated then
      return (after.withStatus (if after.status = 0 then 1 else 0), flow)
    else return endingOnFailure (after, flow)
  | .group true body redirects =>
    let inside (state : State) : Program (State × Flow) := do
      let (state, applied) ← redirectAll evaluate redirects state
      if applied then Expansion.runApart evaluate body state else Program.exit 2
    if state.isLast && !state.hasHandlers then inside state
    else
      match ← Program.fork with
      | .error errno => failed state ("Cannot fork: " ++ errno.message) 2
      | .ok none => inside state
      | .ok (some child) =>
        let status ← Expansion.awaitChild child
        return endingOnFailure (← finished state status)
  | .group false body redirects => withRedirects evaluate redirects state (evaluate body)
  | .branch test yes no redirects =>
    withRedirects evaluate redirects state fun state => do
      match ← tested evaluate test state with
      | (state, .next) =>
        if state.status = 0 then evaluate yes (state.withStatus 0)
        else evaluate no (state.withStatus 0)
      | stopped => return stopped
  | .loop expected test body redirects =>
    withRedirects evaluate redirects { state with isLast := false } fun state => do
      let (after, flow) ← whileTest evaluate expected test body Tool.untilEnd 0 state.inLoop
      return ({ after with loops := state.loops }, flow)
  | .each name words body redirects =>
    withRedirects evaluate redirects { state with isLast := false } fun state => do
      let run (values : List String) (state : State) : Program (State × Flow) := do
        let (after, flow) ← eachValue evaluate name body values (state.inLoop.withStatus 0)
        return ({ after with loops := state.loops }, flow)
      match words with
      | none => run state.parameters state
      | some words =>
        match ← Expansion.wordsFields evaluate words state with
        | .error message => faulted state message
        | .ok (state, values) => run values state
  | .choice word clauses redirects =>
    withRedirects evaluate redirects state fun state => do
      match ← Expansion.single evaluate word state with
      | .error message => faulted state message
      | .ok (state, text) => firstClause evaluate text clauses state
  | .evaluating line text => evaluateText evaluate .part text line state
  | .define name body =>
    finished { state with functions := (name, body) :: state.functions } 0

/-- Evaluates a command, with at most so many commands inside each other, and
then handles the signals that have arrived. -/
def evaluateDeep : Nat → Command → State → Program (State × Flow)
  | 0, _, state => pure (state, .exited)
  | depth + 1, command, state => do
    match ← evaluateWith (evaluateDeep depth) command state with
    | (state, .next) =>
      Expansion.handleSignals (evaluateDeep depth) (← Program.arrivedSignals) state
    | stopped => return stopped

def evaluate : Evaluator :=
  evaluateDeep Tool.untilEnd

def startBindings (environment : List (String × String)) : List Variable :=
  let given := (environment.filter fun (name, _) => name != "IFS" && name != "OPTIND").map
    fun (name, value) => (⟨name, some value, true, false⟩ : Variable)
  let own := [("IFS", " \t\n"), ("OPTIND", "1"), ("PS1", "# "), ("PS2", "> "), ("PS4", "+ ")]
  given ++ (own.filter fun (name, _) => !given.any fun entry => entry.name == name).map
    fun (name, value) => ⟨name, some value, false, false⟩

def startState (name : String) (parameters : List String) : Program State := do
  let pid ← Program.ownPid
  let environment ← Program.environment
  let state : State :=
    { name := name
      parameters := parameters
      bindings := startBindings environment
      functions := []
      status := 0
      pid := pid
      lastBackground := none
      children := []
      aside := []
      switches := []
      aliases := []
      options := OptionPlace.start
      located := []
      tested := false
      handlers := []
      beforeHandler := none
      hidden := []
      isLast := false
      directory := none
      inside := none
      loops := 0
      texts := 0
      line := 0 }
  let state ← startDirectory (state.setVariable "PPID" (toString (← Program.parentPid)))
  return { state with line := 1 }

def runText (kind : TextKind) (text : String) (state : State) : Program Unit := do
  let (state, _) ← evaluateSource evaluate kind (text.length + 1) (Source.ofText text 1) state
  Expansion.endScript evaluate state

/-- What the words in front of a script ask for: whether the next argument is the script
itself, and the switches that are on. -/
structure Opening where
  isGiven : Bool
  switches : List Switch
  shown : String

end JobShell.Script

namespace JobShell.Tool

open Unix (Program)

def refuseScript {α : Type} (own reason : String) : Program α := do
  Program.say Unix.standardError (own ++ ": 0: " ++ reason ++ "\n")
  Program.exit 2

def startScript (own : String) (opening : Script.Opening) (arguments : List String) :
    Program Unit := do
  let run (kind : Script.TextKind) (name : String) (bytes : ByteArray)
      (parameters : List String) (switches : List Script.Switch) : Program Unit := do
    let state ← Script.startState name parameters
    Script.runText kind (Text.Utf8.decodeArray bytes) { state with switches := switches }
  Program.say Unix.standardOutput opening.shown
  match opening.isGiven, arguments with
  | true, [] => refuseScript own "-c requires an argument"
  | true, text :: rest =>
    run .whole (rest.headD own) text.toUTF8 (rest.drop 1) opening.switches
  | false, path :: rest =>
    if opening.switches.contains .fromInput then
      let (bytes, _) ← readAll Unix.standardInput
      run .file own bytes arguments opening.switches
    else
      match ← Script.scriptText path with
      | .error errno =>
        let reason := if errno = .noEntry then "No such file" else errno.message
        refuseScript own ("cannot open " ++ path ++ ": " ++ reason)
      | .ok bytes => run .file path bytes rest opening.switches
  | false, [] =>
    let (bytes, _) ← readAll Unix.standardInput
    let switches := opening.switches.filter fun switch => switch != .fromInput
    run .file own bytes [] (.fromInput :: switches)

def readSwitches (own : String) : Nat → List String → Script.Opening → Program Unit
  | 0, arguments, opening => startScript own opening arguments
  | turns + 1, arguments, opening => do
    match arguments with
    | [] => startScript own opening []
    | word :: rest =>
      match word.toList with
      | ['-'] | ['-', '-'] => startScript own opening rest
      | sign :: letters =>
        if sign == '-' || sign == '+' then
          match Script.Switch.turnWord ['c', 'l'] (sign == '-') letters rest
              opening.switches "" with
          | .refused message => refuseScript own message
          | .turned active shown left =>
            let isGiven := opening.isGiven || letters.contains 'c'
            readSwitches own turns left ⟨isGiven, active, opening.shown ++ shown⟩
        else startScript own opening arguments
      | [] => startScript own opening arguments

def sh (arguments : List String) : Program Unit :=
  readSwitches (arguments.headD "sh") arguments.length (arguments.drop 1) ⟨false, [], ""⟩

end JobShell.Tool
