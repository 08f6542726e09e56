import JobShell.Text.Decimal
import Mathlib.Data.List.Basic

/-!
# Numerals

Digits alone write one number, however many they are. Reading them against a bound gives
that number when it is within the bound, and nothing else. The digits that a number is
printed with write the number.
-/

namespace JobShell.Text.Decimal

set_option autoImplicit false

structure IsNumeral (digits : List Char) : Prop where
  nonempty : digits ≠ []
  plain : ∀ character ∈ digits, character.isDigit = true

instance (digits : List Char) : Decidable (IsNumeral digits) :=
  decidable_of_iff (digits.isEmpty = false ∧ digits.all Char.isDigit = true) <| by
    simp only [List.isEmpty_eq_false_iff, List.all_eq_true]
    exact ⟨fun ⟨nonempty, plain⟩ => ⟨nonempty, plain⟩, fun ⟨nonempty, plain⟩ => ⟨nonempty, plain⟩⟩

theorem IsNumeral.not_mem {digits : List Char} {character : Char} (isNumeral : IsNumeral digits)
    (notDigit : character.isDigit = false) : character ∉ digits := by
  intro member
  rw [isNumeral.plain character member] at notDigit
  cases notDigit

def valueOf (digits : List Char) : Nat :=
  Nat.ofDigitChars 10 digits 0

theorem digit_of_is_digit {character : Char} (isDigit : character.isDigit = true) :
    digit? character = some (character.toNat - '0'.toNat) := by
  simp [digit?, isDigit]

theorem value_le_of_digits (digits : List Char) (value : Nat) :
    value ≤ Nat.ofDigitChars 10 digits value := by
  induction digits generalizing value with
  | nil => simp
  | cons character digits ih =>
      rw [Nat.ofDigitChars_cons]
      have longer := ih (10 * value + (character.toNat - '0'.toNat))
      omega

/-- A number that has passed the bound stays beyond it whatever digits follow. -/
theorem continue_from_digits {bound value : Nat} {digits : List Char}
    (plain : ∀ character ∈ digits, character.isDigit = true) (within : value ≤ bound) :
    continueFrom bound value digits =
      if Nat.ofDigitChars 10 digits value ≤ bound then
        .ok (Nat.ofDigitChars 10 digits value)
      else .error .tooLarge := by
  induction digits generalizing value with
  | nil => simp [continueFrom, within]
  | cons character digits ih =>
      rw [List.forall_mem_cons] at plain
      have next : 10 * value + (character.toNat - '0'.toNat) =
          value * 10 + (character.toNat - '0'.toNat) := by omega
      rw [Nat.ofDigitChars_cons, next]
      simp only [continueFrom, digit_of_is_digit plain.1]
      by_cases still : value * 10 + (character.toNat - '0'.toNat) ≤ bound
      · rw [if_pos still, ih plain.2 still]
      · have beyond := value_le_of_digits digits (value * 10 + (character.toNat - '0'.toNat))
        rw [if_neg still, if_neg (by omega)]

theorem read_numeral (bound : Nat) {digits : List Char} (isNumeral : IsNumeral digits) :
    read? bound (String.ofList digits) =
      if valueOf digits ≤ bound then some (valueOf digits) else none := by
  have reads : read bound (String.ofList digits) = continueFrom bound 0 digits := by
    unfold read
    rw [String.toList_ofList]
    split
    · exact absurd rfl isNumeral.nonempty
    · exact absurd (isNumeral.plain '+' (by simp)) (by decide)
    · exact absurd (isNumeral.plain '+' (by simp)) (by decide)
    · rfl
  rw [read?, reads, continue_from_digits isNumeral.plain (Nat.zero_le bound), valueOf]
  split <;> rfl

theorem to_string_is_numeral (number : Nat) : IsNumeral (toString number).toList := by
  rw [Nat.toString_eq_repr, Nat.toList_repr]
  refine ⟨Nat.toDigits_ne_nil, fun character member => ?_⟩
  exact Nat.isDigit_of_mem_toDigits (by decide) (by decide) member

@[simp]
theorem value_of_to_string (number : Nat) : valueOf (toString number).toList = number := by
  rw [Nat.toString_eq_repr, Nat.toList_repr, valueOf]
  exact Nat.ofDigitChars_toDigits (by decide) (by decide)

end JobShell.Text.Decimal
