/-!
# Positions in a settings text

Every value remembers where it was written, so that a value of the wrong type
can be shown in its line. Columns count characters, and offsets count bytes.
-/

namespace JobShell.Toml

set_option autoImplicit false

/-- A place in a text. Lines and columns count from zero. -/
structure Position where
  offset : Nat
  line : Nat
  column : Nat
  deriving DecidableEq, Repr

def Position.start : Position :=
  ⟨0, 0, 0⟩

def Position.after (position : Position) (character : Char) : Position :=
  if character == '\n' then ⟨position.offset + 1, position.line + 1, 0⟩
  else ⟨position.offset + character.utf8Size, position.line, position.column + 1⟩

structure Span where
  start : Position
  stop : Position
  deriving DecidableEq, Repr

def Span.size (span : Span) : Nat :=
  span.stop.offset - span.start.offset

structure Source where
  rest : List Char
  position : Position

/-- A reader of a part of a text. A fault in the form has no details. -/
abbrev Reader (α : Type) := StateT Source Option α

namespace Reader

def malformed {α : Type} : Reader α :=
  failure

def peek? : Reader (Option Char) := do
  return (← get).rest.head?

def startsWith (text : String) : Reader Bool := do
  return text.toList.isPrefixOf (← get).rest

def skip (count : Nat) : Reader Unit :=
  modify fun source =>
    ⟨source.rest.drop count, (source.rest.take count).foldl Position.after source.position⟩

def accept (text : String) : Reader Bool := do
  if ← startsWith text then
    skip text.length
    return true
  else return false

def expect (text : String) : Reader Unit := do
  if !(← accept text) then malformed

def takeWhile (test : Char → Bool) : Reader (List Char) := do
  let taken := (← get).rest.takeWhile test
  skip taken.length
  return taken

def spanned {α : Type} (reader : Reader α) : Reader (Span × α) := do
  let start := (← get).position
  let value ← reader
  return (⟨start, (← get).position⟩, value)

def skipBlanks : Reader Unit := do
  let _ ← takeWhile fun character => character == ' ' || character == '\t'

/-- Whether a character may stand in a comment, and in a string if the string's
own marks allow it. -/
def isPlain (character : Char) : Bool :=
  character == '\t' || (' ' ≤ character && character != '\x7f')

def skipComment : Reader Unit := do
  if ← startsWith "#" then
    let _ ← takeWhile isPlain

def acceptLineEnd : Reader Bool := do
  if ← accept "\n" then return true else accept "\r\n"

def skipLinesFor : Nat → Reader Unit
  | 0 => pure ()
  | turns + 1 => do
    skipBlanks
    skipComment
    if ← acceptLineEnd then skipLinesFor turns

def skipLines : Reader Unit := do
  match ← peek? with
  | some ' ' | some '\t' | some '#' | some '\r' | some '\n' =>
    skipLinesFor ((← get).rest.length + 1)
  | _ => pure ()

end Reader

end JobShell.Toml
