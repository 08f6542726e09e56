import JobShell.Script.Command
import JobShell.Script.Source

/-!
# Reading scripts

A script is read one complete line of commands at a time, so that what stands
before a fault is still run. Commands nest, so every reader that may meet a
nested list of commands is given the reader for such a list.
-/

namespace JobShell.Script.Reader

set_option autoImplicit false

abbrev Nested := Reader Command

def within {α : Type} (text : List Char) (reader : Reader α) : Reader α := do
  let source ← get
  set { source with rest := text }
  let value ← reader
  set source
  return value

/-- The characters up to a closing pair of parentheses, with the parentheses
inside counted. -/
def arithmeticText : Nat → Nat → List Char → Option (List Char × List Char)
  | 0, _, _ => none
  | _, _, [] => none
  | turns + 1, depth, '(' :: rest =>
    (arithmeticText turns (depth + 1) rest).map fun (text, left) => ('(' :: text, left)
  | _ + 1, 0, ')' :: ')' :: rest => some ([], rest)
  | turns + 1, depth + 1, ')' :: rest =>
    (arithmeticText turns depth rest).map fun (text, left) => (')' :: text, left)
  | turns + 1, depth, character :: rest =>
    (arithmeticText turns depth rest).map fun (text, left) => (character :: text, left)

def backquoteText : List Char → Option (List Char × List Char)
  | [] => none
  | '`' :: rest => some ([], rest)
  | '\\' :: character :: rest =>
    (backquoteText rest).map fun (text, left) =>
      (if "$`\\".toList.contains character then (character :: text, left)
        else ('\\' :: character :: text, left))
  | character :: rest => (backquoteText rest).map fun (text, left) => (character :: text, left)

/-- Where the parts of a word are read: inside quotes or not, and up to which
character. Without one they end with the word, or inside quotes with the text. -/
structure Place where
  quoted : Bool
  closer : Option Char

def Place.endsAt (place : Place) (character : Char) : Bool :=
  match place.closer with
  | some closer =>
    character == closer || (closer == '\x7d' && !place.quoted && character == '\n')
  | none => !place.quoted && Source.isMeta character

def Place.isPlain (place : Place) (character : Char) : Bool :=
  !place.endsAt character && character != '\\' && character != '$' && character != '`' &&
    (character != '"' || (place.quoted && place.closer.isNone)) &&
    (place.quoted || character != '\'')

def Place.bare : Place :=
  ⟨false, none⟩

def Place.text : Place :=
  ⟨true, none⟩

def Place.quotes (quoted : Bool) : Place :=
  ⟨quoted, some '"'⟩

def Place.braces (quoted : Bool) : Place :=
  ⟨quoted, some '\x7d'⟩

def bracedName : Reader String := do
  let source ← get
  match source.rest with
  | first :: _ =>
    if Source.isNameStart first then
      let name := source.rest.takeWhile Source.isNamePart
      skip name.length
      return String.ofList name
    else if first.isDigit then
      let digits := source.rest.takeWhile Char.isDigit
      skip digits.length
      return String.ofList digits
    else if Source.isSpecial first then
      skip 1
      return first.toString
    else fail .badSubstitution
  | [] => fail .badSubstitution

def fallbackOf? : Char → Option Fallback
  | '-' => some .use
  | '=' => some .assign
  | '?' => some .fail
  | '+' => some .replace
  | _ => none

/-- Fails for want of a closing brace. A line end counts for the next line. -/
def missingBrace {α : Type} : Reader α := do
  match (← get).rest with
  | '\n' :: _ =>
    skip 1
    fail (.missing "\x7d")
  | _ => failAtEnd (.missing "\x7d")

def bracedUse (parts : Place → Reader (List Part)) (quoted : Bool) : Reader Use := do
  let source ← get
  let word : Reader (List Part) := do
    let word ← parts (.braces quoted)
    if ← accept "\x7d" then return word else missingBrace
  match source.rest with
  | '\x7d' :: _ =>
    skip 1
    return .plain
  | ':' :: operator :: _ =>
    match fallbackOf? operator with
    | some kind =>
      skip 2
      return .fallback kind true (← word)
    | none => if operator == '\x7d' || operator == '\n' then missingBrace else fail .badSubstitution
  | '%' :: '%' :: _ =>
    skip 2
    return .trim true true (← word)
  | '%' :: _ =>
    skip 1
    return .trim true false (← word)
  | '#' :: '#' :: _ =>
    skip 2
    return .trim false true (← word)
  | '#' :: _ =>
    skip 1
    return .trim false false (← word)
  | operator :: _ =>
    match fallbackOf? operator with
    | some kind =>
      skip 1
      return .fallback kind false (← word)
    | none => if operator == '\n' then missingBrace else fail .badSubstitution
  | [] => missingBrace

def dollar (nested : Nested) (parts : Place → Reader (List Part)) (quoted : Bool) :
    Reader Part := do
  let source ← get
  match source.rest with
  | '(' :: '(' :: rest =>
    match arithmeticText (rest.length + 1) 0 rest with
    | some (text, left) =>
      set { source with rest := left }
      return .arithmetic (← within text (parts .text)) quoted
    | none => failAtEnd (.missing "))")
  | '(' :: _ =>
    skip 1
    let body ← nested
    if ← accept ")" then return .substitution body quoted
    else failHere (some "\")\"")
  | '\x7b' :: '#' :: '\x7d' :: _ =>
    skip 3
    return .parameter "#" .plain quoted
  | '\x7b' :: '#' :: _ =>
    skip 2
    let name ← bracedName
    if ← accept "\x7d" then return .parameter name .length quoted else fail .badSubstitution
  | '\x7b' :: _ =>
    skip 1
    let name ← bracedName
    return .parameter name (← bracedUse parts quoted) quoted
  | first :: _ =>
    if Source.isNameStart first then
      let name := source.rest.takeWhile Source.isNamePart
      skip name.length
      return .parameter (String.ofList name) .plain quoted
    else if Source.isSpecial first then
      skip 1
      return .parameter first.toString .plain quoted
    else return .text "$" quoted
  | [] => return .text "$" quoted

def partsAt (nested : Nested) : Nat → Place → Reader (List Part)
  | 0, _ => pure []
  | turns + 1, place => do
    let source ← get
    match source.rest with
    | [] =>
      if place.closer == some '"' then fail .unterminatedQuote else return []
    | character :: rest =>
      if place.endsAt character then return []
      else if place.isPlain character then
        let plain := source.rest.takeWhile place.isPlain
        skip plain.length
        return .text (String.ofList plain) place.quoted :: (← partsAt nested turns place)
      else
        match character with
        | '\\' =>
          match rest with
          | [] =>
            skip 1
            return [.text "\\" place.quoted]
          | '\n' :: _ =>
            skip 2
            partsAt nested turns place
          | next :: _ =>
            skip 2
            let kept := place.quoted && !("$`\"\\".toList.contains next) &&
              place.closer != some next
            let text := if kept then String.ofList ['\\', next] else next.toString
            return .text text true :: (← partsAt nested turns place)
        | '$' =>
          skip 1
          let part ← dollar nested (partsAt nested turns) place.quoted
          return part :: (← partsAt nested turns place)
        | '`' =>
          match backquoteText rest with
          | none => failAtEnd .unterminatedBackquote
          | some (text, left) =>
            set { source with rest := left }
            let body ← within text nested
            return .substitution body place.quoted :: (← partsAt nested turns place)
        | '\'' =>
          let text := rest.takeWhile (· != '\'')
          if text.length = rest.length then failAtEnd .unterminatedQuote
          skip (text.length + 2)
          return .text (String.ofList text) true :: (← partsAt nested turns place)
        | '"' =>
          skip 1
          let inner ← partsAt nested turns (.quotes !place.quoted)
          let _ ← accept "\""
          let quoted := if inner.isEmpty then [.text "" true] else inner
          return quoted ++ (← partsAt nested turns place)
        | _ =>
          skip 1
          return .text character.toString place.quoted :: (← partsAt nested turns place)

def word (nested : Nested) : Reader (List Part) := do
  partsAt nested ((← get).rest.length + 1) .bare

def neededWord (nested : Nested) (expecting : Option String) : Reader (List Part) := do
  skipBlanks
  if ← atRedirection then failAt false expecting
  let parts ← word nested
  if parts.isEmpty then failAt false expecting else return parts

def redirectOperators : List (String × RedirectKind × Nat) :=
  [("<<-", .document, 0), ("<<", .document, 0), ("<&", .duplicate, 0), ("<>", .readWrite, 0),
   ("<", .input, 0), (">>", .append, 1), (">&", .duplicate, 1), (">|", .overwrite, 1),
   (">", .output, 1)]

def plainText (parts : List Part) : String :=
  String.join (parts.map fun part =>
    match part with
    | .text text _ => text
    | _ => "")

def anyQuoted (parts : List Part) : Bool :=
  parts.any fun part =>
    match part with
    | .text _ quoted => quoted
    | _ => false

def documentLines (strip : Bool) (mark : List Char) :
    Nat → List Char → List Char × List Char
  | 0, rest => ([], rest)
  | _, [] => ([], [])
  | turns + 1, rest =>
    let raw := rest.takeWhile (· != '\n')
    let line := if strip then raw.dropWhile (· == '\t') else raw
    let left := rest.drop (raw.length + 1)
    if line = mark then ([], left)
    else
      let (lines, left) := documentLines strip mark turns left
      (line ++ '\n' :: lines, left)

def document (nested : Nested) (strip : Bool) : Reader (List Part) := do
  let mark ← neededWord nested none
  let source ← get
  let current := source.rest.takeWhile (· != '\n')
  let behind := source.rest.drop (current.length + 1)
  let (lines, left) :=
    documentLines strip (plainText mark).toList (behind.length + 1) behind
  let taken := behind.countP (· == '\n') - left.countP (· == '\n')
  set { source with rest := current ++ '\n' :: left, taken := source.taken + taken }
  if anyQuoted mark then return [.text (String.ofList lines) true]
  else within lines (partsAt nested (lines.length + 1) .text)

def redirect? (nested : Nested) : Reader (Option Redirect) := do
  skipBlanks
  let source ← get
  let digits := source.rest.takeWhile Char.isDigit
  let behind := source.rest.drop digits.length
  match redirectOperators.find? fun operator => operator.1.toList.isPrefixOf behind with
  | none => return none
  | some (operator, kind, standard) =>
    skip (digits.length + operator.length)
    let descriptor := if digits.isEmpty then standard
      else digits.foldl (fun value digit => value * 10 + (digit.toNat - '0'.toNat)) 0
    let target ←
      if kind = .document then document nested (operator == "<<-") else neededWord nested none
    return some (.of descriptor kind target)

def redirects (nested : Nested) : Nat → Reader (List Redirect)
  | 0 => pure []
  | turns + 1 => do
    match ← redirect? nested with
    | some first => return first :: (← redirects nested turns)
    | none => return []

def allRedirects (nested : Nested) : Reader (List Redirect) := do
  redirects nested ((← get).rest.length + 1)

def assignment? (parts : List Part) : Option (String × List Part) :=
  match parts with
  | .text text false :: rest =>
    let name := String.ofList (text.toList.takeWhile (· != '='))
    match text.toList.dropWhile (· != '=') with
    | '=' :: value =>
      if Source.isName name then
        some (name, if value.isEmpty then rest else .text (String.ofList value) false :: rest)
      else none
    | _ => none
  | _ => none

def simpleItems (nested : Nested) :
    Nat → List (String × List Part) → List (List Part) → List Redirect →
    Reader (List (String × List Part) × List (List Part) × List Redirect)
  | 0, assignments, words, redirects => pure (assignments, words, redirects)
  | turns + 1, assignments, words, redirects => do
    match ← redirect? nested with
    | some redirect => simpleItems nested turns assignments words (redirects ++ [redirect])
    | none =>
      skipBlanks
      let parts ← word nested
      if parts.isEmpty then return (assignments, words, redirects)
      else
        match words, assignment? parts with
        | [], some assignment =>
          simpleItems nested turns (assignments ++ [assignment]) words redirects
        | _, _ => simpleItems nested turns assignments (words ++ [parts]) redirects

def closers : List String :=
  ["then", "else", "elif", "fi", "do", "done", "esac", "\x7d"]

def bodyUpTo (nested : Nested) (closer : String) : Reader Command := do
  let body ← nested
  expectWord closer
  return body

def branchRest (nested : Nested) : Nat → Reader (Command × Command × Command)
  | 0 => failHere (some "\"fi\"")
  | turns + 1 => do
    let test ← bodyUpTo nested "then"
    let yes ← nested
    skipBlanks
    if ← atWord "elif" then
      skip 4
      let (test', yes', no') ← branchRest nested turns
      return (test, yes, .branch test' yes' no' [])
    else if ← atWord "else" then
      skip 4
      let no ← bodyUpTo nested "fi"
      return (test, yes, no)
    else
      expectWord "fi"
      return (test, yes, .nothing)

def wordList (nested : Nested) : Nat → Reader (List (List Part))
  | 0 => pure []
  | turns + 1 => do
    skipBlanks
    let parts ← word nested
    if parts.isEmpty then return [] else return parts :: (← wordList nested turns)

def eachRest (nested : Nested) : Reader Command := do
  skipBlanks
  let name ← peekWord
  if !Source.isName name then fail .badName
  skip name.length
  skipAllLines
  let words ←
    if ← atWord "in" then
      skip 2
      let words ← wordList nested ((← get).rest.length + 1)
      skipBlanks
      if !(← startsWith "\n") && ((← startsWith ";;") || !(← startsWith ";")) then
        failAt false none
      pure (some words)
    else pure none
  skipBlanks
  let _ ← accept ";"
  skipAllLines
  expectWord "do"
  let body ← bodyUpTo nested "done"
  return .each name words body (← allRedirects nested)

def patterns (nested : Nested) : Nat → Reader (List (List Part))
  | 0 => pure []
  | turns + 1 => do
    let first ← neededWord nested (some "word")
    skipBlanks
    if ← accept "|" then return first :: (← patterns nested turns)
    else if ← accept ")" then return [first]
    else failAt false (some "\")\"")

def clauses (nested : Nested) : Nat → Reader (List (List (List Part) × Command))
  | 0 => failHere (some "\"esac\"")
  | turns + 1 => do
    skipAllLines
    if ← atWord "esac" then
      skip 4
      return []
    let _ ← accept "("
    let patterns ← patterns nested ((← get).rest.length + 1)
    let body ← nested
    skipAllLines
    if ← accept ";;" then return (patterns, body) :: (← clauses nested turns)
    else if ← atWord "esac" then
      skip 4
      return [(patterns, body)]
    else failHere (some "\";;\"")

def choiceRest (nested : Nested) : Reader Command := do
  let subject ← neededWord nested (some "word")
  skipAllLines
  expectWord "in"
  let clauses ← clauses nested ((← get).rest.length + 1)
  return .choice subject clauses (← allRedirects nested)

def loopRest (nested : Nested) (expected : Bool) : Reader Command := do
  let test ← bodyUpTo nested "do"
  let body ← bodyUpTo nested "done"
  return .loop expected test body (← allRedirects nested)

def definition? : Reader (Option String) := do
  let source ← get
  let name ← peekWord
  let behind := (source.rest.drop name.length).dropWhile fun c => c == ' ' || c == '\t'
  if name.isEmpty || name.contains '=' || behind.head? != some '(' then return none
  skip (source.rest.length - behind.length + 1)
  skipBlanks
  if !(← accept ")") then failAt false (some "\")\"")
  if !Source.isName name || languageCommands.contains name then fail .badFunctionName
  return some name

def command (nested : Nested) : Nat → Reader Command
  | 0 => failHere none
  | turns + 1 => do
    skipBlanks
    if ← accept "(" then
      let body ← nested
      if ← accept ")" then return .group true body (← allRedirects nested)
      else failHere (some "\")\"")
    replaceAliases
    skipBlanks
    match ← peekWord with
    | "\x7b" =>
      skip 1
      let body ← bodyUpTo nested "\x7d"
      return .group false body (← allRedirects nested)
    | "if" =>
      skip 2
      let (test, yes, no) ← branchRest nested ((← get).rest.length + 1)
      return .branch test yes no (← allRedirects nested)
    | "while" =>
      skip 5
      loopRest nested true
    | "until" =>
      skip 5
      loopRest nested false
    | "for" =>
      skip 3
      eachRest nested
    | "case" =>
      skip 4
      choiceRest nested
    | word =>
      if closers.contains word || word == "!" || word == "in" then failHere none
      match ← definition? with
      | some name =>
        skipAllLines
        return .define name (← command nested turns)
      | none =>
        let line := (← get).line
        let (assignments, words, redirects) ←
          simpleItems nested ((← get).rest.length + 1) [] [] []
        if assignments.isEmpty && words.isEmpty && redirects.isEmpty then failHere none
        return .simple line assignments words redirects

def pipelineStages (nested : Nested) : Nat → Reader (List Command)
  | 0 => failHere none
  | turns + 1 => do
    let first ← command nested ((← get).rest.length + 1)
    skipBlanks
    if (← startsWith "|") && !(← startsWith "||") then
      skip 1
      skipAllLines
      return first :: (← pipelineStages nested turns)
    else return [first]

def pipeline (nested : Nested) : Reader Command := do
  skipBlanks
  let negated ← atWord "!"
  if negated then skip 1
  let stages ← pipelineStages nested ((← get).rest.length + 1)
  match negated, stages with
  | false, [only] => return only
  | _, _ => return .pipeline negated stages

def chained (nested : Nested) : Nat → Command → Reader Command
  | 0, first => pure first
  | turns + 1, first => do
    skipBlanks
    if ← accept "&&" then
      skipAllLines
      chained nested turns (.both first (← pipeline nested))
    else if ← accept "||" then
      skipAllLines
      chained nested turns (.either first (← pipeline nested))
    else return first

def chain (nested : Nested) : Reader Command := do
  let first ← pipeline nested
  chained nested ((← get).rest.length + 1) first

def atEnd : Reader Bool := do
  if (← get).rest.isEmpty then return true
  if ← startsWith ")" then return true
  if ← startsWith ";;" then return true
  return closers.contains (← peekWord)

def chains (nested : Nested) (acrossLines : Bool) : Nat → Reader (List Command)
  | 0 => pure []
  | turns + 1 => do
    if acrossLines then skipAllLines else skipBlanks
    if ← atEnd then return []
    if !acrossLines && (← startsWith "\n") then return []
    let first ← chain nested
    skipBlanks
    if (← startsWith ";") && !(← startsWith ";;") then
      skip 1
      return first :: (← chains nested acrossLines turns)
    else if ← accept "&" then
      return .background first :: (← chains nested acrossLines turns)
    else if acrossLines && (← startsWith "\n") then
      return first :: (← chains nested acrossLines turns)
    else return [first]

def commandList : Nat → Source → Except (Nat × ReadFault) (Command × Source)
  | 0, source => .error (source.line, .badSubstitution)
  | depth + 1, source =>
    StateT.run
      (do
        let commands ← chains (commandList depth) true ((← get).rest.length + 1)
        return .sequence commands)
      source

def depthLimit : Nat := 1000

/-- Reads one complete line of commands. There is none at the end. -/
def unit? (source : Source) : Except (Nat × ReadFault) (Option Command × Source) :=
  StateT.run
    (do
      skipAllLines
      if (← get).rest.isEmpty then return none
      let commands ← chains (commandList depthLimit) false ((← get).rest.length + 1)
      if commands.isEmpty then failHere none
      skipBlanks
      let source ← get
      match source.rest with
      | [] => return some (.sequence commands)
      | '\n' :: _ =>
        skip 1
        return some (.sequence commands)
      | _ => failHere none)
    source

end JobShell.Script.Reader
