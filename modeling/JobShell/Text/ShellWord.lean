import JobShell.Text.Column
import JobShell.Text.Utf8

/-!
# Names as words of a command line

Messages show a name so that it could be typed again: between single quotes,
with quotes and unprintable bytes spelled in a way that a command line
understands. A name that needs no quotes may also be shown as it is.
-/

namespace JobShell.Text.ShellWord

set_option autoImplicit false

def isPrintable (byte : UInt8) : Bool :=
  32 ≤ byte && byte ≤ 126

def controlLetter? (byte : UInt8) : Option Char :=
  match byte with
  | 7 => some 'a'
  | 8 => some 'b'
  | 9 => some 't'
  | 10 => some 'n'
  | 11 => some 'v'
  | 12 => some 'f'
  | 13 => some 'r'
  | _ => none

def spelled (byte : UInt8) : String :=
  match controlLetter? byte with
  | some letter => "\\" ++ letter.toString
  | none => "\\" ++ padLeftWith '0' 3 (octal byte.toNat)

def specials : List Char :=
  " !\"$&()*;<=>[^`|?\\':".toList

/-- Whether a name must be put between quotes. Some characters are special only
at the start, and braces only when they stand alone. -/
def needsQuotes (bytes : List UInt8) : Bool :=
  match bytes with
  | [] => true
  | first :: rest =>
    first == 35 || first == 126 || (rest.isEmpty && (first == 123 || first == 125)) ||
      bytes.any fun byte => !isPrintable byte || specials.contains (Char.ofNat byte.toNat)

/-- Whether a character means the same between double quotes, given whether it is
the first and whether it stands alone. -/
def isSameInDoubleQuotes (isFirst isAlone : Bool) (byte : UInt8) : Bool :=
  match Char.ofNat byte.toNat with
  | '#' | '~' => isFirst
  | '\x7b' | '\x7d' => isAlone
  | ' ' | '\'' | ':' => true
  | character => isPrintable byte && !specials.contains character

def fitsDoubleQuotes (bytes : List UInt8) : Bool :=
  match bytes with
  | [] => false
  | first :: rest =>
    isSameInDoubleQuotes true rest.isEmpty first && rest.all (isSameInDoubleQuotes false false)

/-- Spells a name between single quotes, given whether the last byte was an
unprintable one. -/
def insideQuotes : Bool → List UInt8 → String
  | _, [] => ""
  | afterSpelled, byte :: rest =>
    if byte == 39 then "'\\''" ++ insideQuotes false rest
    else if isPrintable byte then
      (if afterSpelled then "''" else "") ++ (Char.ofNat byte.toNat).toString ++
        insideQuotes false rest
    else (if afterSpelled then "" else "'$'") ++ spelled byte ++ insideQuotes true rest

/-- A name between quotes. Double quotes are used around single ones if that
needs nothing else. -/
def quoted (name : String) : String :=
  let bytes := name.toUTF8.data.toList
  if bytes.contains 39 && fitsDoubleQuotes bytes then "\"" ++ name ++ "\""
  else "'" ++ insideQuotes false bytes ++ "'"

def shown (name : String) : String :=
  if needsQuotes name.toUTF8.data.toList then quoted name else name

def citedByte (byte : UInt8) : String :=
  if byte == 39 then "\\'"
  else if byte == 92 then "\\\\"
  else if isPrintable byte then (Char.ofNat byte.toNat).toString
  else spelled byte

/-- A text between quotes as it was given, for a complaint about it. -/
def cited (text : String) : String :=
  "'" ++ String.join (text.toUTF8.data.toList.map citedByte) ++ "'"

end JobShell.Text.ShellWord
