import JobShell.Text.Double

/-!
# Numbers, truth values and dates

A word that is no string is a number, a truth value, or a date or time. Digits
may be grouped by single underscores, and a decimal integer has no leading
zeros. Of a date only its form matters here.
-/

namespace JobShell.Toml

set_option autoImplicit false

/-- A value without parts. A decimal fraction keeps the digits it was written
with. An integer is only read when it is looked at, so its word may turn out to
write no number. -/
inductive Scalar where
  | string (text : String)
  | integer (value : Int)
  | unreadableInteger
  | decimal (negative : Bool) (size : Text.DecimalFraction)
  | infinity (negative : Bool)
  | notANumber
  | boolean (value : Bool)
  | date
  deriving DecidableEq, Repr

namespace Scalar

def digitIn? (base : Nat) (character : Char) : Option Nat :=
  let value? :=
    if character.isDigit then some (character.toNat - '0'.toNat)
    else if 'a' ≤ character && character ≤ 'f' then some (character.toNat - 'a'.toNat + 10)
    else if 'A' ≤ character && character ≤ 'F' then some (character.toNat - 'A'.toNat + 10)
    else none
  value?.filter (· < base)

/-- The digits of a word in which single underscores stand between digits. -/
def groupedDigits? (base : Nat) : Bool → List Char → Option (List Nat)
  | afterDigit, [] => if afterDigit then some [] else none
  | afterDigit, '_' :: rest => if afterDigit then groupedDigits? base false rest else none
  | _, character :: rest => do
    let digit ← digitIn? base character
    let digits ← groupedDigits? base true rest
    return digit :: digits

def ofDigits (base : Nat) (digits : List Nat) : Nat :=
  digits.foldl (fun value digit => value * base + digit) 0

def unsigned (word : List Char) : Bool × List Char :=
  match word with
  | '-' :: rest => (true, rest)
  | '+' :: rest => (false, rest)
  | _ => (false, word)

def signed (negative : Bool) (digits : List Nat) : Int :=
  let value : Int := ofDigits 10 digits
  if negative then -value else value

def plainDigits? (word : List Char) : Option (List Nat) :=
  match word with
  | '0' :: _ :: _ => none
  | _ => groupedDigits? 10 false word

def markedBase? (mark : Char) : Option Nat :=
  match mark with
  | 'x' => some 16
  | 'o' => some 8
  | 'b' => some 2
  | _ => none

def marked? (base : Nat) (digits : List Char) : Option Scalar :=
  if digits.isEmpty then some .unreadableInteger
  else (groupedDigits? base false digits).map fun d => .integer (ofDigits base d)

/-- Whether each underscore of a word stands between two digits, in whatever
base. The first argument tells whether an underscore may come first. -/
def isLooselyGrouped : Bool → List Char → Bool
  | _, [] => true
  | allowed, '_' :: rest =>
    allowed && (rest.head?.bind (digitIn? 16)).isSome && isLooselyGrouped false rest
  | _, character :: rest => isLooselyGrouped (digitIn? 16 character).isSome rest

/-- Reads an integer with underscores. They may group any digits here, and one
may also follow the sign, so what is left without them need not write a number. -/
def grouped? (word : List Char) : Option Scalar :=
  let (negative, body) := unsigned word
  if body.head? == some '0' || !isLooselyGrouped (body.length != word.length) body then none
  else
    match groupedDigits? 10 false (body.filter (· != '_')) with
    | some digits => some (.integer (signed negative digits))
    | none => some .unreadableInteger

def exponent? (word : List Char) : Option Int :=
  match word with
  | [] => some 0
  | mark :: rest =>
    if mark == 'e' || mark == 'E' then
      let (negative, digits) := unsigned rest
      (groupedDigits? 10 false digits).map (signed negative)
    else none

def isGrouped (character : Char) : Bool :=
  character.isDigit || character == '_'

/-- Reads the whole part of a decimal fraction. Behind a sign an underscore may
come first, and then leading zeros are let through too. -/
def wholePart? (hasSign : Bool) (written : List Char) : Option (List Nat) :=
  match written with
  | '_' :: rest => if hasSign then groupedDigits? 10 false rest else none
  | _ => plainDigits? written

/-- Reads a decimal fraction: an integer followed by a fraction, an exponent or
both. -/
def decimal? (word : List Char) : Option Scalar := do
  let (negative, body) := unsigned word
  let whole ← wholePart? (body.length != word.length) (body.takeWhile isGrouped)
  match body.dropWhile isGrouped with
  | [] => none
  | '.' :: rest =>
    let fraction ← groupedDigits? 10 false (rest.takeWhile isGrouped)
    let exponent ← exponent? (rest.dropWhile isGrouped)
    return .decimal negative ⟨ofDigits 10 (whole ++ fraction), exponent - fraction.length⟩
  | tail =>
    let exponent ← exponent? tail
    return .decimal negative ⟨ofDigits 10 whole, exponent⟩

/-- The number written by exactly the given count of digits, and what follows. -/
def fixedDigits? (count : Nat) (word : List Char) : Option (Nat × List Char) :=
  let digits := word.take count
  if digits.length = count && digits.all Char.isDigit then
    some (ofDigits 10 (digits.map fun digit => digit.toNat - '0'.toNat), word.drop count)
  else none

def passed? (character : Char) (word : List Char) : Option (List Char) :=
  match word with
  | first :: rest => if first == character then some rest else none
  | [] => none

def daysIn (year month : Nat) : Nat :=
  let leap := year % 4 = 0 && (year % 100 != 0 || year % 400 = 0)
  match month with
  | 2 => if leap then 29 else 28
  | 4 | 6 | 9 | 11 => 30
  | _ => 31

def day? (word : List Char) : Option (List Char) := do
  let (year, word) ← fixedDigits? 4 word
  let word ← passed? '-' word
  let (month, word) ← fixedDigits? 2 word
  let word ← passed? '-' word
  let (day, word) ← fixedDigits? 2 word
  if 1 ≤ month && month ≤ 12 && 1 ≤ day && day ≤ daysIn year month then return word else none

def secondFraction? (word : List Char) : Option (List Char) :=
  match word with
  | '.' :: rest =>
    if (rest.takeWhile Char.isDigit).isEmpty then none else some (rest.dropWhile Char.isDigit)
  | _ => some word

def time? (word : List Char) : Option (List Char) := do
  let (hour, word) ← fixedDigits? 2 word
  let word ← passed? ':' word
  let (minute, word) ← fixedDigits? 2 word
  if 23 < hour || 59 < minute then none
  else
    match word with
    | ':' :: rest =>
      let (second, word) ← fixedDigits? 2 rest
      if 60 < second then none else secondFraction? word
    | _ => return word

def isOffset (word : List Char) : Bool :=
  match word with
  | ['Z'] | ['z'] => true
  | sign :: rest =>
    (sign == '+' || sign == '-') &&
      (match fixedDigits? 2 rest with
        | some (hour, ':' :: minutes) =>
          match fixedDigits? 2 minutes with
          | some (minute, []) => hour ≤ 23 && minute ≤ 59
          | _ => false
        | _ => false)
  | [] => false

def isDate (word : List Char) : Bool :=
  match day? word with
  | some [] => true
  | some (separator :: rest) =>
    (separator == 'T' || separator == 't' || separator == ' ') &&
      (match time? rest with
        | some [] => true
        | some offset => isOffset offset
        | none => false)
  | none =>
    match time? word with
    | some [] => true
    | _ => false

def isDecimalMark (character : Char) : Bool :=
  character == '.' || character == 'e' || character == 'E'

/-- Reads a word that has no mark of a base. What follows its first digits tells
what it is. -/
def numberOrDate? (word : List Char) : Option Scalar :=
  let (negative, body) := unsigned word
  if body = ['i', 'n', 'f'] then some (.infinity negative)
  else if body = ['n', 'a', 'n'] then some .notANumber
  else
    match body.dropWhile Char.isDigit with
    | [] => (plainDigits? body).map fun digits => .integer (signed negative digits)
    | first :: rest =>
      if first == '-' || first == ':' || rest.contains ' ' then
        if isDate word then some .date else none
      else if isDecimalMark first || rest.any isDecimalMark then decimal? word
      else if first == '_' then grouped? word
      else none

def ofWord? (word : List Char) : Option Scalar :=
  if word = "true".toList then some (.boolean true)
  else if word = "false".toList then some (.boolean false)
  else
    match word with
    | '0' :: mark :: digits =>
      match markedBase? mark with
      | some base => marked? base digits
      | none => numberOrDate? word
    | _ => numberOrDate? word

end Scalar

end JobShell.Toml
