import JobShell.Tool.Decimal

/-!
# Numbers of a machine

Fractions are read from arguments and rounded to the numbers that a machine has: whole
multiples of powers of two with a bounded number of bits. They may be written in
decimal or in hexadecimal digits, and some are no finite numbers.
-/

namespace JobShell.Tool

open Text (DecimalFraction)

set_option autoImplicit false

/-- A number that is `units · 2 ^ exponent`, infinite, or none at all. -/
inductive Floating where
  | finite (negative : Bool) (units : Nat) (exponent : Int)
  | infinite (negative : Bool)
  | notNumber (negative : Bool)
  deriving DecidableEq, Repr

def Floating.zero : Floating :=
  .finite false 0 0

/-- The numbers of a machine: how many bits count, the least exponent, and the power of
two that no number reaches. -/
structure FloatingFormat where
  bits : Nat
  least : Int
  bound : Int
  deriving DecidableEq, Repr

/-- What a text is read as: a value, what follows it, whether anything was read, whether
that was out of range, and characters that were ignored. -/
structure NumberReading (α : Type) where
  value : α
  rest : List Char
  began : Bool
  outOfRange : Bool
  ignored : List Char

def isNumberSpace (character : Char) : Bool :=
  character == ' ' || ('\t' ≤ character && character ≤ '\r')

namespace FloatingFormat

def double : FloatingFormat :=
  ⟨53, -1074, 1024⟩

def extended : FloatingFormat :=
  ⟨64, -16445, 16384⟩

/-- The number nearest to a quotient, and whether that is out of range: too large, or so
small that bits were lost. -/
def ofQuotient (format : FloatingFormat) (negative : Bool) (numerator denominator : Nat) :
    Floating × Bool :=
  if numerator = 0 then (.finite negative 0 0, false)
  else
    let scaled (exponent : Int) : Nat × Nat :=
      (numerator * Nat.pow 2 (-exponent).toNat, denominator * Nat.pow 2 exponent.toNat)
    let size : Int := (Nat.log2 numerator : Int) - Nat.log2 denominator
    let low := max format.least (size - format.bits)
    let (above, below) := scaled low
    let exponent := if above / below < Nat.pow 2 format.bits then low else low + 1
    let (above, below) := scaled exponent
    let units := Text.Double.roundDiv above below
    if format.bound ≤ (Nat.log2 units : Int) + exponent then (.infinite negative, true)
    else
      (.finite negative units exponent,
        units < Nat.pow 2 (format.bits - 1) && above % below != 0)

def ofDecimal (format : FloatingFormat) (fraction : SignedFraction) : Floating × Bool :=
  let decimal := fraction.size
  let size : Int := (toString decimal.digits).length + decimal.scale
  if decimal.digits = 0 then (.finite fraction.negative 0 0, false)
  else if 5000 < size then (.infinite fraction.negative, true)
  else if size < -5100 then (.finite fraction.negative 0 0, true)
  else
    format.ofQuotient fraction.negative (decimal.digits * Nat.pow 10 decimal.scale.toNat)
      (Nat.pow 10 (-decimal.scale).toNat)

def binaryExponentBound : Nat := 40000

def readBinaryExponent (text : List Char) : Int × List Char :=
  match text with
  | mark :: rest =>
    if mark == 'p' || mark == 'P' then
      let (negative, body) :=
        match rest with
        | '-' :: rest => (true, rest)
        | '+' :: rest => (false, rest)
        | _ => (false, rest)
      let digits := body.takeWhile Char.isDigit
      let size : Int := min (SignedFraction.ofDigits digits) binaryExponentBound
      if digits.isEmpty then (0, text)
      else (if negative then -size else size, body.drop digits.length)
    else (0, text)
  | [] => (0, text)

def readHexadecimal? (format : FloatingFormat) (negative : Bool) (text : List Char) :
    Option (NumberReading Floating) :=
  let isDigit (c : Char) : Bool := (hexDigit? c).isSome
  let whole := text.takeWhile isDigit
  let (places, rest) :=
    match text.drop whole.length with
    | '.' :: rest => (rest.takeWhile isDigit, rest.dropWhile isDigit)
    | rest => ([], rest)
  let digits := (whole ++ places).filterMap hexDigit?
  if digits.isEmpty then none
  else
    let (exponent, rest) := readBinaryExponent rest
    let power : Int := exponent - 4 * places.length
    let (value, outOfRange) := format.ofQuotient negative
      (digitsValue 16 digits * Nat.pow 2 power.toNat) (Nat.pow 2 (-power).toNat)
    some ⟨value, rest, true, outOfRange, []⟩

def afterName? (name : String) (text : List Char) : Option (List Char) :=
  if (text.take name.length).map Char.toLower == name.toList then some (text.drop name.length)
  else none

/-- What follows the remark in brackets that may stand behind the name of no number. -/
def afterRemark (text : List Char) : List Char :=
  match text with
  | '(' :: rest =>
    match rest.dropWhile fun c => c.isAlphanum || c == '_' with
    | ')' :: rest => rest
    | _ => text
  | _ => text

def read (format : FloatingFormat) (text : List Char) : NumberReading Floating :=
  let start := text.dropWhile isNumberSpace
  let (negative, body) :=
    match start with
    | '-' :: rest => (true, rest)
    | '+' :: rest => (false, rest)
    | _ => (false, start)
  let found (value : Floating) (rest : List Char) : NumberReading Floating :=
    ⟨value, rest, true, false, []⟩
  let decimal : NumberReading Floating :=
    match SignedFraction.read? start with
    | none => ⟨.zero, text, false, false, []⟩
    | some (fraction, rest) =>
      let (value, outOfRange) := format.ofDecimal fraction
      ⟨value, rest, true, outOfRange, []⟩
  match afterName? "infinity" body, afterName? "inf" body, afterName? "nan" body,
      afterName? "0x" body with
  | some rest, _, _, _ | none, some rest, _, _ => found (.infinite negative) rest
  | none, none, some rest, _ => found (.notNumber negative) (afterRemark rest)
  | none, none, none, some rest => (format.readHexadecimal? negative rest).getD decimal
  | none, none, none, none => decimal

/-- The number in hexadecimal digits behind a mark for those: the first digit, a point
with places, and an exponent of two. Without a number of places there are as many as
are needed. -/
def hexadecimal (format : FloatingFormat) (always : Bool) (places : Option Nat) (units : Nat)
    (exponent : Int) : String :=
  let all := (format.bits - 1) / 4
  let shift := min (format.bits - 1 - Nat.log2 units) (exponent - format.least).toNat
  let (units, exponent) :=
    if units = 0 then (0, -(4 * all : Int))
    else if Nat.pow 2 format.bits ≤ units then (units / 2, exponent + 1)
    else (units * Nat.pow 2 shift, exponent - shift)
  let kept := min all (places.getD all)
  let rounded := Text.Double.roundDiv units (Nat.pow 16 (all - kept))
  let first := rounded / Nat.pow 16 kept
  let (first, power) :=
    if first < 16 then (first, exponent + 4 * all) else (first / 16, exponent + 4 * all + 4)
  let digits := Text.padLeftWith '0' kept (Text.hexadecimal (rounded % Nat.pow 16 kept))
  let behind : List Char :=
    match places with
    | none => ((if kept = 0 then [] else digits.toList).reverse.dropWhile (· == '0')).reverse
    | some places =>
      (if kept = 0 then [] else digits.toList) ++ List.replicate (places - kept) '0'
  Text.hexadecimal first ++ (if behind.isEmpty && !always then "" else ".") ++
    String.ofList behind ++ "p" ++ (if power < 0 then "-" else "+") ++ toString power.natAbs

end FloatingFormat

def binaryDecimal (units : Nat) (exponent : Int) : DecimalFraction :=
  if 0 ≤ exponent then ⟨units * Nat.pow 2 exponent.toNat, 0⟩
  else ⟨units * Nat.pow 5 (-exponent).toNat, exponent⟩

end JobShell.Tool
