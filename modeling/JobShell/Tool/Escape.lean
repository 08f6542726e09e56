import JobShell.Text.Column
import JobShell.Tool.Basic

/-!
# Escapes

Letters, octal and hexadecimal codes behind a backslash, as the tools that print
their arguments read them. They differ in which escapes they know.
-/

namespace JobShell.Tool

set_option autoImplicit false

def octalDigit? (character : Char) : Option Nat :=
  if '0' ≤ character && character ≤ '7' then some (character.toNat - '0'.toNat) else none

def decimalDigit? (character : Char) : Option Nat :=
  if character.isDigit then some (character.toNat - '0'.toNat) else none

def hexDigit? (character : Char) : Option Nat :=
  if character.isDigit then some (character.toNat - '0'.toNat)
  else if 'a' ≤ character && character ≤ 'f' then some (character.toNat - 'a'.toNat + 10)
  else if 'A' ≤ character && character ≤ 'F' then some (character.toNat - 'A'.toNat + 10)
  else none

def digitsValue (base : Nat) (digits : List Nat) : Nat :=
  digits.foldl (fun value digit => value * base + digit) 0

def letterEscape? : Char → Option UInt8
  | 'a' => some 7
  | 'b' => some 8
  | 'e' => some 27
  | 'f' => some 12
  | 'n' => some 10
  | 'r' => some 13
  | 't' => some 9
  | 'v' => some 11
  | '\\' => some 92
  | _ => none

def characterBytes (character : Char) : ByteArray :=
  character.toString.toUTF8

/-- Which escapes are known besides letters and octal codes: whether a zero in
front of an octal code does not count as one of its three digits, whether the
output can be stopped, whether there are hexadecimal codes, whether a double
quote may be escaped, and whether there are codes of characters and a code must
be complete. -/
structure EscapeStyle where
  zeroLed : Bool
  stops : Bool
  hexadecimal : Bool
  quotes : Bool
  strict : Bool

inductive EscapeEnd where
  | stopped
  | faulty (message : String)
  deriving DecidableEq, Repr

structure EscapeReading where
  bytes : ByteArray
  rest : List Char
  ending : Option EscapeEnd

namespace EscapeStyle

def ended (ending : EscapeEnd) : EscapeReading :=
  ⟨ByteArray.empty, [], some ending⟩

/-- The code of a character in so many hexadecimal digits. Characters beyond the basic
ones are written as an escape again. -/
def readCode (mark : Char) (length : Nat) (rest : List Char) : EscapeReading :=
  let digits := (rest.take length).filterMap hexDigit?
  let code := digitsValue 16 digits
  let shown (width : Nat) : String := Text.padLeftWith '0' width (Text.hexadecimal code)
  if digits.length < length then ended (.faulty "missing hexadecimal number in escape")
  else if 0xd800 ≤ code && code ≤ 0xdfff then
    ended (.faulty ("invalid universal character name \\" ++ mark.toString ++ shown length))
  else if code < 0x80 then ⟨ByteArray.empty.push (UInt8.ofNat code), rest.drop length, none⟩
  else
    let text := if code ≤ 0xffff then "\\u" ++ (shown 4).toUpper else "\\U" ++ (shown 8).toUpper
    ⟨text.toUTF8, rest.drop length, none⟩

def readOne (style : EscapeStyle) (letter : Char) (rest : List Char) : EscapeReading :=
  let byte (value : Nat) (rest : List Char) : EscapeReading :=
    ⟨ByteArray.empty.push (UInt8.ofNat value), rest, none⟩
  let unknown : EscapeReading := ⟨characterBytes '\\' ++ characterBytes letter, rest, none⟩
  if (octalDigit? letter).isSome then
    let length := if style.zeroLed && letter == '0' then 4 else 3
    let digits := ((letter :: rest).take length).takeWhile fun c => (octalDigit? c).isSome
    byte (digitsValue 8 (digits.filterMap octalDigit?)) ((letter :: rest).drop digits.length)
  else if letter == 'c' && style.stops then ended .stopped
  else if letter == '"' && style.quotes then byte 34 rest
  else if letter == 'x' && style.hexadecimal then
    let digits := (rest.take 2).takeWhile fun c => (hexDigit? c).isSome
    if !digits.isEmpty then
      byte (digitsValue 16 (digits.filterMap hexDigit?)) (rest.drop digits.length)
    else if style.strict then ended (.faulty "missing hexadecimal number in escape")
    else unknown
  else if letter == 'u' && style.strict then readCode letter 4 rest
  else if letter == 'U' && style.strict then readCode letter 8 rest
  else
    match letterEscape? letter with
    | some value => byte value.toNat rest
    | none => unknown

/-- A text with its escapes replaced, and whether the reading ended before it. There
are fewer escapes than the given number of turns. -/
def replace (style : EscapeStyle) : Nat → List Char → ByteArray → ByteArray × Option EscapeEnd
  | 0, _, held => (held, none)
  | _, [], held => (held, none)
  | turns + 1, '\\' :: letter :: rest, held =>
    let reading := style.readOne letter rest
    match reading.ending with
    | some ending => (held ++ reading.bytes, some ending)
    | none => style.replace turns reading.rest (held ++ reading.bytes)
  | turns + 1, character :: rest, held =>
    style.replace turns rest (held ++ characterBytes character)

def apply (style : EscapeStyle) (text : List Char) : ByteArray × Option EscapeEnd :=
  style.replace (text.length + 1) text ByteArray.empty

end EscapeStyle

end JobShell.Tool
