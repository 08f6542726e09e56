import JobShell.Toml.Position
import JobShell.Toml.Scalar

/-!
# Strings and keys

Strings come in four forms: with escapes or without, on one line or on several.
Keys are bare words or strings on one line, chained by dots.
-/

namespace JobShell.Toml

set_option autoImplicit false

def character? (code : Nat) : Option Char :=
  if code.isValidChar then some (Char.ofNat code) else none

structure Key where
  name : String
  span : Span
  deriving DecidableEq, Repr

namespace Reader

def escapedCode (digits : Nat) : Reader Char := do
  let written := (← get).rest.take digits
  let values := written.filterMap (Scalar.digitIn? 16)
  if values.length != digits then malformed
  skip digits
  match character? (values.foldl (fun value digit => value * 16 + digit) 0) with
  | some character => return character
  | none => malformed

def escape : Reader Char := do
  match ← peek? with
  | some letter =>
    skip 1
    match letter with
    | 'b' => return '\x08'
    | 't' => return '\t'
    | 'n' => return '\n'
    | 'f' => return '\x0c'
    | 'r' => return '\r'
    | 'e' => return '\x1b'
    | '"' => return '"'
    | '\\' => return '\\'
    | 'x' => escapedCode 2
    | 'u' => escapedCode 4
    | 'U' => escapedCode 8
    | _ => malformed
  | none => malformed

def basicRest : Nat → Reader (List Char)
  | 0 => malformed
  | turns + 1 => do
    let plain ← takeWhile fun c => isPlain c && c != '"' && c != '\\'
    if ← accept "\"" then return plain
    else if ← accept "\\" then
      let character ← escape
      return plain ++ character :: (← basicRest turns)
    else malformed

def literalRest : Reader (List Char) := do
  let plain ← takeWhile fun c => isPlain c && c != '\''
  expect "'"
  return plain

def skipJoint : Nat → Reader Unit
  | 0 => pure ()
  | turns + 1 => do
    skipBlanks
    if ← acceptLineEnd then skipJoint turns

/-- Whether a backslash joins lines: only blanks stand before the line's end. -/
def atJoint : Reader Bool := do
  let behind := (← get).rest.dropWhile fun c => c == ' ' || c == '\t'
  return behind.head? == some '\n' || ['\r', '\n'].isPrefixOf behind

/-- Reads the quotes that close a string on several lines. Up to two more of
them belong to the string. -/
def closingQuotes (quote : Char) : Reader (Option (List Char)) := do
  let quotes := ((← get).rest.takeWhile (· == quote)).length
  if quotes < 3 then return none
  else
    let extra := min (quotes - 3) 2
    skip (extra + 3)
    return some (List.replicate extra quote)

def longRest (quote : Char) (escapes : Bool) : Nat → Reader (List Char)
  | 0 => malformed
  | turns + 1 => do
    let plain ← takeWhile fun c => isPlain c && c != quote && !(escapes && c == '\\')
    match ← closingQuotes quote with
    | some quotes => return plain ++ quotes
    | none =>
      if ← accept quote.toString then return plain ++ quote :: (← longRest quote escapes turns)
      else if ← accept "\n" then return plain ++ '\n' :: (← longRest quote escapes turns)
      else if ← accept "\r\n" then
        return plain ++ '\r' :: '\n' :: (← longRest quote escapes turns)
      else if escapes then
        expect "\\"
        if ← atJoint then
          skipJoint ((← get).rest.length + 1)
          return plain ++ (← longRest quote escapes turns)
        else
          let character ← escape
          return plain ++ character :: (← longRest quote escapes turns)
      else malformed

def string? : Reader (Option String) := do
  let turns : Reader Nat := do return (← get).rest.length + 1
  let long (quote : Char) (escapes : Bool) : Reader (Option String) := do
    let _ ← acceptLineEnd
    return some (String.ofList (← longRest quote escapes (← turns)))
  if ← accept "\"\"\"" then long '"' true
  else if ← accept "'''" then long '\'' false
  else if ← accept "\"" then return some (String.ofList (← basicRest (← turns)))
  else if ← accept "'" then return some (String.ofList (← literalRest))
  else return none

def isBare (character : Char) : Bool :=
  character.isAlphanum || character == '_' || character == '-'

def key : Reader Key := do
  let (span, name) ← spanned do
    if ← accept "\"" then
      return String.ofList (← basicRest ((← get).rest.length + 1))
    else if ← accept "'" then return String.ofList (← literalRest)
    else
      let bare ← takeWhile isBare
      if bare.isEmpty then malformed else return String.ofList bare
  return ⟨name, span⟩

def pathLimit : Nat := 80

def keysFor : Nat → Reader (List Key)
  | 0 => malformed
  | more + 1 => do
    skipBlanks
    let first ← key
    skipBlanks
    if ← accept "." then return first :: (← keysFor more) else return [first]

def keys : Reader (List Key) :=
  keysFor pathLimit

end Reader

end JobShell.Toml
