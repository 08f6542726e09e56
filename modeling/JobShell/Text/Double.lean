/-!
# Numbers of double precision in decimal

A decimal fraction is rounded to the nearest number of double precision, halves
going to the even neighbour, and such a number is written with the fewest digits
that round to it again. All of this is done exactly on whole numbers.
-/

namespace JobShell.Text

set_option autoImplicit false

/-- The number `mantissa · 2 ^ exponent`, with a mantissa below `2 ^ 53` and an
exponent of at least `-1074`. -/
structure Double where
  mantissa : Nat
  exponent : Int
  deriving DecidableEq, Repr

structure DecimalFraction where
  digits : Nat
  scale : Int
  deriving DecidableEq, Repr

namespace Double

def leastExponent : Int := -1074

def greatestExponent : Int := 971

def precision : Nat := 53

def mantissaBound : Nat := Nat.pow 2 precision

def power (base : Nat) (exponent : Int) : Nat × Nat :=
  (Nat.pow base exponent.toNat, Nat.pow base (-exponent).toNat)

/-- The whole number next to a quotient; a half goes to the even neighbour. -/
def roundDiv (numerator denominator : Nat) : Nat :=
  let quotient := numerator / denominator
  let rest := 2 * (numerator % denominator)
  if rest < denominator then quotient
  else if denominator < rest then quotient + 1
  else quotient + quotient % 2

def ofQuotient? (numerator denominator : Nat) : Option Double :=
  let bits : Int := (Nat.log2 numerator : Int) - Nat.log2 denominator
  let scaled (exponent : Int) : Nat × Nat :=
    let (up, down) := power 2 exponent
    (numerator * down, denominator * up)
  let low := max leastExponent (bits - precision)
  let (above, below) := scaled low
  let exponent := if above / below < mantissaBound then low else low + 1
  let (above, below) := scaled exponent
  let mantissa := roundDiv above below
  let rounded : Double :=
    if mantissa < mantissaBound then ⟨mantissa, exponent⟩ else ⟨mantissa / 2, exponent + 1⟩
  if rounded.exponent ≤ greatestExponent then some rounded else none

/-- The number nearest to a decimal fraction, if it is not too large. Fractions
that are far out of range are not worked out. -/
def ofDecimal? (decimal : DecimalFraction) : Option Double :=
  let size : Int := (Nat.toDigits 10 decimal.digits).length + decimal.scale
  if decimal.digits = 0 || size < -400 then some ⟨0, leastExponent⟩
  else if 400 < size then none
  else
    let (up, down) := power 10 decimal.scale
    ofQuotient? (decimal.digits * up) down

/-- The multiple of a power of ten that rounds to a number, if there is one. Of
two it is the nearer, and the greater of two equally near ones. -/
def onGrid? (double : Double) (scale : Int) : Option Nat :=
  let unit := double.exponent - 2
  let middle := 4 * double.mantissa
  -- Below a power of two the neighbour is only half as far away.
  let atEdge := 2 * double.mantissa = mantissaBound && leastExponent < double.exponent
  let low := if atEdge then middle - 1 else middle - 2
  let high := middle + 2
  let (tenUp, tenDown) := power 10 scale
  let (twoUp, twoDown) := power 2 unit
  let weight := tenUp * twoDown
  let factor := twoUp * tenDown
  let closed := double.mantissa % 2 = 0
  let fits (candidate : Nat) : Bool :=
    let place := candidate * weight
    if closed then low * factor ≤ place && place ≤ high * factor
    else low * factor < place && place < high * factor
  let first := middle * factor / weight
  let second := first + 1
  let secondIsNearer := (first + second) * weight ≤ 2 * middle * factor
  match fits first, fits second with
  | true, true => some (if secondIsNearer then second else first)
  | true, false => some first
  | false, true => some second
  | false, false => none

def digitsFrom (double : Double) : Nat → Int → DecimalFraction
  | 0, _ => ⟨0, 0⟩
  | grids + 1, scale =>
    match onGrid? double scale with
    | some digits => ⟨digits, scale⟩
    | none => digitsFrom double grids (scale - 1)

def digits (double : Double) : DecimalFraction :=
  if double.mantissa = 0 then ⟨0, 0⟩ else digitsFrom double 700 310

/-- Writes digits without an exponent and with at least one place behind the
point. -/
def positional (decimal : DecimalFraction) : String :=
  let written := Nat.toDigits 10 decimal.digits
  if 0 ≤ decimal.scale then
    String.ofList (written ++ List.replicate decimal.scale.toNat '0') ++ ".0"
  else
    let places := (-decimal.scale).toNat
    let padded := List.replicate (places + 1 - written.length) '0' ++ written
    let whole := padded.length - places
    String.ofList (padded.take whole ++ '.' :: padded.drop whole)

def text (double : Double) : String :=
  positional double.digits

end Double

end JobShell.Text
