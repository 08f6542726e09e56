import JobShell.Text.Column
import JobShell.Text.Double
import JobShell.Tool.Escape

/-!
# Decimal fractions of the tools

Fractions are read from arguments and written with a fixed number of places, or
with an exponent. They are rounded once, halves to the even neighbour.
-/

namespace JobShell.Tool

open Text (DecimalFraction)

set_option autoImplicit false

structure SignedFraction where
  negative : Bool
  size : DecimalFraction
  deriving DecidableEq, Repr

namespace SignedFraction

def ofDigits (digits : List Char) : Nat :=
  digitsValue 10 (digits.map fun digit => digit.toNat - '0'.toNat)

def exponentBound : Int := 5000

def readExponent (text : List Char) : Int × List Char :=
  match text with
  | mark :: rest =>
    if mark == 'e' || mark == 'E' then
      let (negative, body) :=
        match rest with
        | '-' :: rest => (true, rest)
        | '+' :: rest => (false, rest)
        | _ => (false, rest)
      let digits := body.takeWhile Char.isDigit
      if digits.isEmpty then (0, text)
      else
        let value : Int := ofDigits digits
        let size := min value exponentBound
        (if negative then -size else size, body.drop digits.length)
    else (0, text)
  | [] => (0, text)

def read? (text : List Char) : Option (SignedFraction × List Char) :=
  let (negative, body) :=
    match text with
    | '-' :: rest => (true, rest)
    | '+' :: rest => (false, rest)
    | _ => (false, text)
  let whole := body.takeWhile Char.isDigit
  let (places, rest) :=
    match body.drop whole.length with
    | '.' :: rest => (rest.takeWhile Char.isDigit, rest.dropWhile Char.isDigit)
    | rest => ([], rest)
  if whole.isEmpty && places.isEmpty then none
  else
    let (exponent, rest) := readExponent rest
    some (⟨negative, ⟨ofDigits (whole ++ places), exponent - places.length⟩⟩, rest)

end SignedFraction

def unitsAt (places : Int) (size : DecimalFraction) : Nat :=
  let shift := size.scale + places
  if 0 ≤ shift then size.digits * Nat.pow 10 shift.toNat
  else Text.Double.roundDiv size.digits (Nat.pow 10 (-shift).toNat)

/-- A number of units of a decimal place with a point in front of that many
places. There is no point without places unless it is always wanted. -/
def withPoint (always : Bool) (places units : Nat) : String :=
  let digits := Text.padLeftWith '0' (places + 1) (toString units)
  if places = 0 then (if always then digits ++ "." else digits)
  else
    (digits.take (digits.length - places)).toString ++ "." ++
      (digits.drop (digits.length - places)).toString

def fixed (always : Bool) (places : Nat) (size : DecimalFraction) : String :=
  withPoint always places (unitsAt places size)

/-- The units of a fraction that has so many places behind its first digit, and
the exponent of that digit. -/
def normalized (places : Nat) (size : DecimalFraction) : Nat × Int :=
  if size.digits = 0 then (0, 0)
  else
    let exponent : Int := (toString size.digits).length - 1 + size.scale
    let units := unitsAt (places - exponent) size
    if (toString units).length ≤ places + 1 then (units, exponent) else (units / 10, exponent + 1)

def exponentText (exponent : Int) : String :=
  "e" ++ (if exponent < 0 then "-" else "+") ++ Text.padLeftWith '0' 2 (toString exponent.natAbs)

def scientific (always : Bool) (places : Nat) (size : DecimalFraction) : String :=
  let (units, exponent) := normalized places size
  withPoint always places units ++ exponentText exponent

def withoutLastZeros (text : String) : String :=
  if text.contains '.' then
    let kept := text.toList.reverse.dropWhile (· == '0')
    String.ofList (if kept.head? == some '.' then kept.drop 1 else kept).reverse
  else text

/-- A fraction with so many digits that count, in the shorter of both ways. -/
def general (keepZeros : Bool) (digits : Nat) (size : DecimalFraction) : String :=
  let digits := max digits 1
  let trim (text : String) : String := if keepZeros then text else withoutLastZeros text
  let (units, exponent) := normalized (digits - 1) size
  if -4 ≤ exponent && exponent < digits then
    trim (fixed keepZeros (digits - 1 - exponent).toNat size)
  else trim (withPoint keepZeros (digits - 1) units) ++ exponentText exponent

end JobShell.Tool
