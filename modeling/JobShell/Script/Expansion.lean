import JobShell.Script.Arithmetic
import JobShell.Script.Match
import JobShell.Script.Reader
import JobShell.Script.State
import JobShell.Text.Utf8
import JobShell.Tool.Basic

/-!
# Expanding words

The parts of a word are worked out, split into fields at blanks where they were
not quoted, and matched against file names where a field is a pattern.
-/

namespace JobShell.Script.Expansion

open Unix (Program Descriptor Signal WaitAnswer)
open Match (Marked)

set_option autoImplicit false

abbrev Evaluator := Command → State → Program (State × Flow)

/-- What a part comes to: characters that stay together, the value of an
unquoted expansion, which may be split, or several fields, with what stands between
them where there can be only one. -/
inductive Piece where
  | fixed (text : String) (quoted : Bool)
  | value (text : String)
  | fields (texts : List String) (quoted : Bool) (joint : String)

def statusOf (answer : WaitAnswer) : Int :=
  match answer with
  | .exited code => code
  | .killed number => 128 + number
  | .stopped signal => 128 + signal.number
  | _ => 127

def closeAll : List Descriptor → Program Unit
  | [] => pure ()
  | descriptor :: rest => do
    let _ ← Program.close descriptor
    closeAll rest

def signalText? (number : Nat) : Option String :=
  match Signal.ofNumber? number with
  | some .int | some .pipe => none
  | _ => some (Unix.describeSignal number)

def awaitChild (child : Unix.Pid) : Program Int := do
  let answer ← Program.wait child false
  match answer with
  | .killed number =>
    match signalText? number with
    | some text => Program.say Unix.standardError (text ++ "\n")
    | none => pure ()
  | _ => pure ()
  return statusOf answer

/-- Runs the handler for the end of the script, if there is one, and ends with
the status from before it unless the handler ends the script itself. -/
def endScript {α : Type} (evaluate : Evaluator) (state : State) : Program α := do
  match state.handler? 0 with
  | none => Program.exit state.status
  | some text =>
    let (after, flow) ← evaluate (.evaluating state.line text)
      { state.setHandler 0 none with beforeHandler := some state.status, isLast := false }
    Program.exit (if flow.ends then after.status else state.status)

/-- Handles signals that have arrived. The status after them is the one from
before unless a handler leaves the script or a function. -/
def handleSignals (evaluate : Evaluator) : List Signal → State → Program (State × Flow)
  | [], state => pure (state, .next)
  | signal :: rest, state => do
    match state.handler? signal.number with
    | none => handleSignals evaluate rest state
    | some text =>
      let (after, flow) ← evaluate (.evaluating state.line text)
        { state with beforeHandler := some state.status, isLast := false }
      let after := { after with beforeHandler := state.beforeHandler }
      match flow with
      | .next => handleSignals evaluate rest (after.withStatus state.status)
      | .exited | .faulted | .returned => return (after, flow)
      | _ => return (after.withStatus state.status, flow)

/-- The state of a child, after its descriptors and signals have been put in
order: what was set aside is closed, and no signal is caught. -/
def enterChild (state : State) : Program State := do
  closeAll state.aside
  let caught := Signal.all.filter fun signal => (state.handler? signal.number).isSome
  if !caught.isEmpty then
    let _ ← Program.setSignals caught .default
  return state.ofChild

def runApart {α : Type} (evaluate : Evaluator) (command : Command) (state : State) :
    Program α := do
  let (after, _) ← evaluate command (← enterChild state)
  endScript evaluate after

def findProgram? (state : State) (name : String) : Program (Option String) := do
  let isProgram (path : String) : Program Bool := do
    match ← Program.inspect path true with
    | .ok status => return status.kind = .regular && status.mode &&& 0o111 != 0
    | .error _ => return false
  if name.contains '/' then return if ← isProgram name then some name else none
  for directory in ((state.valueOf? "PATH").getD "").splitOn ":" do
    let path := if directory.isEmpty then name else directory ++ "/" ++ name
    if ← isProgram path then return some path
  return none

def withoutLastFeeds (text : String) : String :=
  String.ofList (text.toList.reverse.dropWhile (· == '\n')).reverse

def substitute (evaluate : Evaluator) (body : Command) (state : State) :
    Program (State × String) := do
  match ← Program.pipe with
  | .error errno =>
    state.report ("Cannot create pipe: " ++ errno.message)
    return (state.withStatus 2, "")
  | .ok (reader, writer) =>
    match ← Program.fork with
    | .error errno =>
      state.report ("Cannot fork: " ++ errno.message)
      return (state.withStatus 2, "")
    | .ok none =>
      let _ ← Program.close reader
      let _ ← Program.duplicate writer Unix.standardOutput
      let _ ← Program.close writer
      runApart evaluate body state
    | .ok (some child) =>
      let _ ← Program.close writer
      let (bytes, _) ← Tool.readAll reader
      let _ ← Program.close reader
      let status ← awaitChild child
      let text := String.ofList
        ((Text.Utf8.decodeArray bytes).toList.filter fun character => character != '\x00')
      return (state.withStatus status, withoutLastFeeds text)

def joined (pieces : List Piece) : String :=
  String.join (pieces.map fun piece =>
    match piece with
    | .fixed text _ => text
    | .value text => text
    | .fields texts _ joint => joint.intercalate texts)

def marked (pieces : List Piece) : List Marked :=
  pieces.flatMap fun piece =>
    match piece with
    | .fixed text quoted => text.toList.map fun character => (character, quoted)
    | .value text => text.toList.map fun character => (character, false)
    | .fields texts quoted joint =>
      (joint.intercalate texts).toList.map fun character => (character, quoted)

def valuePiece (quoted : Bool) (text : String) : Piece :=
  if quoted then .fixed text true else .value text

/-- The home directory in place of a tilde at the start of a text, which goes on with
a slash or ends there for good. -/
def tilde (state : State) (endsHere : Bool) (text : String) : String :=
  match text.toList with
  | '~' :: rest =>
    if (rest.isEmpty && endsHere) || rest.head? == some '/' then
      match state.valueOf? "HOME" with
      | some home => home ++ String.ofList rest
      | none => text
    else text
  | _ => text

def arithmeticNames (state : State) : Arithmetic.Variables where
  values := state.bindings.filterMap fun entry => entry.value.map fun value => (entry.name, value)
  readOnly := (state.bindings.filter Variable.readOnly).map Variable.name

/-- A result that may be a message for which the script ends. -/
abbrev Outcome (α : Type) := Except String α

def pieces (evaluate : Evaluator) :
    Nat → List Part → State → Program (Outcome (State × List Piece))
  | 0, _, state => pure (.ok (state, []))
  | _, [], state => pure (.ok (state, []))
  | turns + 1, part :: rest, state => do
    match ← one turns part state with
    | .error message => return .error message
    | .ok (state, first) =>
      match ← pieces evaluate turns rest state with
      | .error message => return .error message
      | .ok (state, others) => return .ok (state, first ++ others)
where
  /-- Works out one part. -/
  one (turns : Nat) (part : Part) (state : State) : Program (Outcome (State × List Piece)) := do
    match part with
    | .text text quoted => return .ok (state, [.fixed text quoted])
    | .substitution body quoted =>
      let (state, text) ← substitute evaluate body state
      return .ok (state, [valuePiece quoted text])
    | .arithmetic expression quoted =>
      match ← pieces evaluate turns expression state with
      | .error message => return .error message
      | .ok (state, inner) =>
        let text := joined inner
        match Arithmetic.evaluate text (arithmeticNames state) with
        | .error fault => return .error (fault.message text)
        | .ok (value, values) =>
          let state := values.foldl
            (fun (state : State) (name, value) =>
              if state.valueOf? name == some value then state
              else state.setVariable name value)
            state
          return .ok (state, [valuePiece quoted (toString value)])
    | .parameter "@" .plain quoted =>
      return .ok (state, [.fields state.parameters quoted state.joint])
    | .parameter "*" .plain false =>
      return .ok (state, [.fields state.parameters false state.joint])
    | .parameter name use quoted =>
      let current := state.parameter? name
      let needsValue : Bool :=
        match use with
        | .fallback _ _ _ => false
        | _ => name != "@" && name != "*"
      if state.has .unsetIsFault && needsValue && current.isNone then
        return .error (name ++ ": parameter not set")
      match use with
      | .plain => return .ok (state, [valuePiece quoted (current.getD "")])
      | .length =>
        return .ok (state, [valuePiece quoted (toString (current.getD "").length)])
      | .trim atEnd longest pattern =>
        match ← pieces evaluate turns pattern state with
        | .error message => return .error message
        | .ok (state, inner) =>
          let text := Match.trim atEnd longest (Match.ofMarked (marked inner))
            (current.getD "").toList
          return .ok (state, [valuePiece quoted (String.ofList text)])
      | .fallback kind emptyToo word =>
        let present := match current with
          | none => false
          | some value => !(emptyToo && value.isEmpty)
        match kind, present with
        | .replace, false => return .ok (state, [valuePiece quoted ""])
        | .replace, true | .use, false => pieces evaluate turns word state
        | .use, true | .assign, true | .fail, true =>
          if name == "@" || (name == "*" && !quoted) then
            return .ok (state, [.fields state.parameters quoted state.joint])
          else return .ok (state, [valuePiece quoted (current.getD "")])
        | .assign, false =>
          match ← pieces evaluate turns word state with
          | .error message => return .error message
          | .ok (state, inner) =>
            match state.assign? name (joined inner) with
            | .error message => return .error message
            | .ok state => return .ok (state, [valuePiece quoted (joined inner)])
        | .fail, false =>
          match ← pieces evaluate turns word state with
          | .error message => return .error message
          | .ok (_, inner) =>
            let text := joined inner
            let usual := if emptyToo then "parameter not set or null" else "parameter not set"
            return .error (name ++ ": " ++ if text.isEmpty then usual else text)

/-- Fields under construction: those that are complete, the present one if it has
begun, and whether a blank has ended the last one, so that a separator behind it ends
no other. -/
structure Fields where
  complete : List (List Marked)
  current : Option (List Marked)
  afterBlank : Bool

def Fields.start : Fields :=
  ⟨[], none, false⟩

def Fields.close (fields : Fields) : Fields :=
  match fields.current with
  | none => fields
  | some field => ⟨fields.complete ++ [field], none, false⟩

def Fields.add (fields : Fields) (text : List Char) (quoted : Bool) : Fields :=
  { fields with
    current := some (fields.current.getD [] ++ text.map fun character => (character, quoted))
    afterBlank := false }

def Fields.addValue (separators : List Char) (fields : Fields) (character : Char) : Fields :=
  if !separators.contains character then fields.add [character] false
  else if " \t\n".toList.contains character then
    if fields.current.isSome then { fields.close with afterBlank := true } else fields
  else if fields.afterBlank then { fields with afterBlank := false }
  else { fields with current := some (fields.current.getD []) }.close

def Fields.addPiece (separators : List Char) (fields : Fields) (piece : Piece) : Fields :=
  match piece with
  | .fixed text quoted =>
    if text.isEmpty && !quoted then fields else fields.add text.toList quoted
  | .value text => text.toList.foldl (Fields.addValue separators) fields
  | .fields [] _ _ => fields
  | .fields (first :: rest) true _ =>
    rest.foldl (fun fields text => fields.close.add text.toList true)
      (fields.add first.toList true)
  | .fields (first :: rest) false _ =>
    let add (fields : Fields) (text : String) : Fields :=
      text.toList.foldl (Fields.addValue separators) fields
    rest.foldl (fun fields text => add fields.close text) (add fields first)

def fieldsOf (separators : List Char) (pieces : List Piece) : List (List Marked) :=
  (pieces.foldl (Fields.addPiece separators) Fields.start).close.complete

def plain (field : List Marked) : String :=
  String.ofList (field.map Prod.fst)

def segments (field : List Marked) : List (List Marked) :=
  field.foldr
    (fun character parts =>
      if character.1 == '/' then [] :: parts
      else
        match parts with
        | [] => [[character]]
        | part :: rest => (character :: part) :: rest)
    [[]]

/-- The names in a directory that a pattern accepts. Those that begin with a dot are
wanted only if the pattern does. -/
def acceptedNames (directory : String) (segment : List Marked) : Program (List String) := do
  match ← Program.request (.listDirectory (if directory.isEmpty then "." else directory)) with
  | .error _ => return []
  | .ok names =>
    let pattern := Match.ofMarked segment
    let hidden := segment.head?.map Prod.fst == some '.'
    return ("." :: ".." :: names).filter fun name =>
      (hidden || !name.startsWith ".") && Match.accepts pattern name.toList

/-- The existing paths that begin with a given text and go on by the segments of a
pattern. Segments that are no patterns are taken together, so that only the last of
them has to be looked for. -/
def matchSegments : List (List Marked) → String → Program (List String)
  | [], start => pure [start]
  | segment :: rest, start => do
    let joint := if rest.isEmpty then "" else "/"
    if Match.isPattern segment then
      let names ← acceptedNames start segment
      follow (matchSegments rest) (names.map fun name => start ++ name ++ joint)
    else if rest.any Match.isPattern then
      matchSegments rest (start ++ plain segment ++ joint)
    else
      let path := start ++ "/".intercalate ((segment :: rest).map plain)
      match ← Program.inspect path false with
      | .ok _ => return [path]
      | .error _ => return []
where
  /-- The paths that go on from each of several. -/
  follow (go : String → Program (List String)) : List String → Program (List String)
    | [] => pure []
    | path :: others => do
      let here ← go path
      let later ← follow go others
      return here ++ later

def pathNames (field : List Marked) : Program (List String) := do
  if !Match.isPattern field then return [plain field]
  let found ← matchSegments (segments field) ""
  return if found.isEmpty then [plain field]
    else found.mergeSort fun first second => !(second < first)

def allNames (keeping : Bool) : List (List Marked) → Program (List String)
  | [] => pure []
  | field :: rest => do
    let names ← if keeping then pure [plain field] else pathNames field
    let others ← allNames keeping rest
    return names ++ others

def separatorsOf (state : State) : List Char :=
  ((state.valueOf? "IFS").getD " \t\n").toList

def withTilde (state : State) : List Part → List Part
  | .text text false :: rest => .text (tilde state rest.isEmpty text) false :: rest
  | parts => parts

def withTildes (state : State) : List Part → List Part :=
  let rec go (atStart : Bool) : List Part → List Part
    | [] => []
    | .text text false :: rest =>
      let pieces := text.splitOn ":"
      let replaced := pieces.mapIdx fun index piece =>
        if index = 0 && !atStart then piece
        else tilde state (rest.isEmpty || index + 1 < pieces.length) piece
      .text (":".intercalate replaced) false :: go false rest
    | part :: rest => part :: go false rest
  go true

def wordFields (evaluate : Evaluator) (parts : List Part) (state : State) :
    Program (Outcome (State × List String)) := do
  match ← pieces evaluate Tool.untilEnd (withTilde state parts) state with
  | .error message => return .error message
  | .ok (state, pieces) =>
    let names ← allNames (state.has .keepPatterns) (fieldsOf (separatorsOf state) pieces)
    return .ok (state, names)

def wordsFields (evaluate : Evaluator) :
    List (List Part) → State → Program (Outcome (State × List String))
  | [], state => pure (.ok (state, []))
  | word :: rest, state => do
    match ← wordFields evaluate word state with
    | .error message => return .error message
    | .ok (state, first) =>
      match ← wordsFields evaluate rest state with
      | .error message => return .error message
      | .ok (state, others) => return .ok (state, first ++ others)

def together (evaluate : Evaluator) (parts : List Part) (state : State) :
    Program (Outcome (State × String)) := do
  match ← pieces evaluate Tool.untilEnd parts state with
  | .error message => return .error message
  | .ok (state, pieces) => return .ok (state, joined pieces)

def single (evaluate : Evaluator) (parts : List Part) (state : State) :
    Program (Outcome (State × String)) :=
  together evaluate (withTilde state parts) state

def assigned (evaluate : Evaluator) (parts : List Part) (state : State) :
    Program (Outcome (State × String)) :=
  together evaluate (withTildes state parts) state

def declaringCommands : List String :=
  ["export", "local", "readonly"]

/-- The fields of arguments that may set variables. Those that do are not split. -/
def settingFields (evaluate : Evaluator) :
    List (List Part) → State → Program (Outcome (State × List String))
  | [], state => pure (.ok (state, []))
  | word :: rest, state => do
    let first ←
      match Reader.assignment? word with
      | some (name, value) => do
        match ← assigned evaluate value state with
        | .error message => pure (.error message)
        | .ok (state, text) => pure (.ok (state, [name ++ "=" ++ text]))
      | none => wordFields evaluate word state
    match first with
    | .error message => return .error message
    | .ok (state, first) =>
      match ← settingFields evaluate rest state with
      | .error message => return .error message
      | .ok (state, others) => return .ok (state, first ++ others)

/-- The fields of a command. The first one tells how the words behind it are to be
taken. -/
def commandFields (evaluate : Evaluator) :
    List (List Part) → State → Program (Outcome (State × List String))
  | [], state => pure (.ok (state, []))
  | word :: rest, state => do
    match ← wordFields evaluate word state with
    | .error message => return .error message
    | .ok (state, first) =>
      let behind ←
        match first with
        | [] => commandFields evaluate rest state
        | name :: _ =>
          if name == "command" then commandFields evaluate rest state
          else if declaringCommands.contains name then settingFields evaluate rest state
          else wordsFields evaluate rest state
      match behind with
      | .error message => return .error message
      | .ok (state, others) => return .ok (state, first ++ others)

def pattern (evaluate : Evaluator) (parts : List Part) (state : State) :
    Program (Outcome (State × List Match.Element)) := do
  match ← pieces evaluate Tool.untilEnd parts state with
  | .error message => return .error message
  | .ok (state, pieces) => return .ok (state, Match.ofMarked (marked pieces))

end JobShell.Script.Expansion
