/-!
# Unsigned decimal numerals with an upper bound

Slot counts, history sizes, process numbers and history indices are written in
decimal. A numeral may begin with one plus sign. It is read from the left and
the first fault found decides the error, so a numeral that has already passed
the bound is too large even when a later character is no digit.
-/

namespace JobShell.Text.Decimal

set_option autoImplicit false

inductive Fault where
  | empty
  | invalidDigit
  | tooLarge
  deriving DecidableEq, Repr

def Fault.message : Fault → String
  | .empty => "cannot parse integer from empty string"
  | .invalidDigit => "invalid digit found in string"
  | .tooLarge => "number too large to fit in target type"

def digit? (character : Char) : Option Nat :=
  if character.isDigit then some (character.toNat - '0'.toNat) else none

def digits? (text : String) : Option Nat :=
  if text.isEmpty then none
  else text.toList.foldlM (fun value character => (digit? character).map (value * 10 + ·)) 0

def continueFrom (bound : Nat) : Nat → List Char → Except Fault Nat
  | value, [] => .ok value
  | value, character :: rest =>
    match digit? character with
    | none => .error .invalidDigit
    | some digit =>
      if value * 10 + digit ≤ bound then continueFrom bound (value * 10 + digit) rest
      else .error .tooLarge

def read (bound : Nat) (text : String) : Except Fault Nat :=
  match text.toList with
  | [] => .error .empty
  | ['+'] => .error .invalidDigit
  | '+' :: digits => continueFrom bound 0 digits
  | digits => continueFrom bound 0 digits

def read? (bound : Nat) (text : String) : Option Nat :=
  (read bound text).toOption

def wordBound : Nat := 0xFFFFFFFFFFFFFFFF

def pidBound : Nat := 0xFFFFFFFF

end JobShell.Text.Decimal
