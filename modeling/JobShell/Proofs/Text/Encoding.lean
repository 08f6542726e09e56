import JobShell.Text.Utf8

/-!
# Lead bytes and encodings

The decoder classifies a lead byte and bounds the byte behind it. The byte sequences that it
reads as a character in this way are exactly the encodings of the characters.
-/

namespace JobShell.Text.Utf8

set_option autoImplicit false

def Unfinished.behind (sequence : Unfinished) (byte : UInt8) : Unfinished :=
  ⟨sequence.value * 64 + (byte.toNat - 0x80), sequence.missing - 1, 0x80, 0xBF⟩

@[simp]
theorem Unfinished.behind_value (sequence : Unfinished) (byte : UInt8) :
    (sequence.behind byte).value = sequence.value * 64 + (byte.toNat - 0x80) :=
  rfl

@[simp]
theorem Unfinished.behind_missing (sequence : Unfinished) (byte : UInt8) :
    (sequence.behind byte).missing = sequence.missing - 1 :=
  rfl

theorem Unfinished.behind_low (sequence : Unfinished) (byte : UInt8) :
    (sequence.behind byte).low = 0x80 :=
  rfl

theorem Unfinished.behind_is_open (sequence : Unfinished) (byte : UInt8) :
    (sequence.behind byte).low ≤ (sequence.behind byte).high := by
  change (0x80 : UInt8) ≤ 0xBF
  decide

inductive Unfinished.Completes : Unfinished → List UInt8 → Char → Prop where
  | last {sequence : Unfinished} {byte : UInt8} (fits : sequence.low ≤ byte ∧ byte ≤ sequence.high)
      (isLast : sequence.missing ≤ 1) :
      Completes sequence [byte] (Char.ofNat (sequence.behind byte).value)
  | more {sequence : Unfinished} {byte : UInt8} {bytes : List UInt8} {character : Char}
      (fits : sequence.low ≤ byte ∧ byte ≤ sequence.high) (notLast : ¬ sequence.missing ≤ 1)
      (later : Completes (sequence.behind byte) bytes character) :
      Completes sequence (byte :: bytes) character

/-- A lead byte and the bytes behind it that make up one character. -/
inductive Spells : List UInt8 → Char → Prop where
  | whole {byte : UInt8} {character : Char} (isWhole : lead byte = .whole character) :
      Spells [byte] character
  | opened {byte : UInt8} {bytes : List UInt8} {sequence : Unfinished} {character : Char}
      (opens : lead byte = .opens sequence) (completes : sequence.Completes bytes character) :
      Spells (byte :: bytes) character

theorem lead_of_two {byte : UInt8} (lower : 0xC2 ≤ byte.toNat) (upper : byte.toNat < 0xE0) :
    lead byte = .opens ⟨byte.toNat - 0xC0, 1, 0x80, 0xBF⟩ := by
  grind [lead]

theorem lead_of_three {byte : UInt8} (lower : 0xE0 ≤ byte.toNat) (upper : byte.toNat < 0xF0) :
    lead byte = .opens ⟨byte.toNat - 0xE0, 2, if byte.toNat = 0xE0 then 0xA0 else 0x80,
      if byte.toNat = 0xED then 0x9F else 0xBF⟩ := by
  grind [lead]

theorem lead_of_four {byte : UInt8} (lower : 0xF0 ≤ byte.toNat) (upper : byte.toNat < 0xF5) :
    lead byte = .opens ⟨byte.toNat - 0xF0, 3, if byte.toNat = 0xF0 then 0x90 else 0x80,
      if byte.toNat = 0xF4 then 0x8F else 0xBF⟩ := by
  grind [lead]

theorem spells_cons {byte : UInt8} {bytes : List UInt8} {character : Char}
    (spelled : Spells (byte :: bytes) character) :
    lead byte = .whole character ∧ bytes = [] ∨
      ∃ sequence, lead byte = .opens sequence ∧ sequence.Completes bytes character := by
  cases spelled with
  | whole isWhole => exact .inl ⟨isWhole, rfl⟩
  | opened opens completes => exact .inr ⟨_, opens, completes⟩

theorem fits_iff {low byte high : UInt8} :
    low ≤ byte ∧ byte ≤ high ↔ low.toNat ≤ byte.toNat ∧ byte.toNat ≤ high.toNat := by
  rw [UInt8.le_iff_toNat_le, UInt8.le_iff_toNat_le]

theorem to_nat_of_small {value : Nat} (small : value < 256) : (UInt8.ofNat value).toNat = value :=
  UInt8.toNat_ofNat_of_lt' small

namespace Unfinished.Completes

theorem last_of {sequence : Unfinished} {byte : UInt8} {value : Nat}
    (fits : sequence.low ≤ byte ∧ byte ≤ sequence.high) (isLast : sequence.missing ≤ 1)
    (made : (sequence.behind byte).value = value) :
    sequence.Completes [byte] (Char.ofNat value) := by
  rw [← made]
  exact .last fits isLast

end Unfinished.Completes

theorem continuation_fits (value : Nat) :
    (0x80 : UInt8) ≤ UInt8.ofNat (value % 64 + 128) ∧ UInt8.ofNat (value % 64 + 128) ≤ 0xBF := by
  rw [fits_iff, to_nat_of_small (by omega)]
  exact ⟨Nat.le_add_left _ _, by change _ ≤ 191; omega⟩

theorem continuation_value (sequence : Unfinished) (value : Nat) :
    (sequence.behind (UInt8.ofNat (value % 64 + 128))).value =
      sequence.value * 64 + value % 64 := by
  have isByte : (UInt8.ofNat (value % 64 + 128)).toNat = value % 64 + 128 :=
    to_nat_of_small (by omega)
  rw [Unfinished.behind_value, isByte]
  omega

theorem spells_two {value : Nat} (lower : 127 < value) (upper : value ≤ 2047) :
    Spells [UInt8.ofNat (value / 64 % 32 + 192), UInt8.ofNat (value % 64 + 128)]
      (Char.ofNat value) := by
  have isLead : (UInt8.ofNat (value / 64 % 32 + 192)).toNat = value / 64 % 32 + 192 :=
    to_nat_of_small (by omega)
  refine .opened (lead_of_two (by omega) (by omega)) ?_
  refine .last_of (continuation_fits value) (Nat.le_refl 1) ?_
  simp only [continuation_value]
  omega

theorem spells_three {value : Nat} (lower : 2047 < value) (upper : value ≤ 65535)
    (noSurrogate : value < 0xD800 ∨ 0xDFFF < value) :
    Spells [UInt8.ofNat (value / 4096 % 16 + 224), UInt8.ofNat (value / 64 % 64 + 128),
      UInt8.ofNat (value % 64 + 128)] (Char.ofNat value) := by
  have isLead : (UInt8.ofNat (value / 4096 % 16 + 224)).toNat = value / 4096 % 16 + 224 :=
    to_nat_of_small (by omega)
  have isSecond : (UInt8.ofNat (value / 64 % 64 + 128)).toNat = value / 64 % 64 + 128 :=
    to_nat_of_small (by omega)
  refine .opened (lead_of_three (by omega) (by omega)) (.more ?_ (by simp) ?_)
  · rw [fits_iff, isLead, isSecond]
    dsimp only
    constructor
    · split <;> simp
      omega
    · split <;> simp <;> omega
  · refine .last_of (continuation_fits value) (Nat.le_refl 1) ?_
    simp only [continuation_value]
    omega

theorem spells_four {value : Nat} (lower : 65535 < value) (upper : value < 0x110000) :
    Spells [UInt8.ofNat (value / 262144 % 8 + 240), UInt8.ofNat (value / 4096 % 64 + 128),
      UInt8.ofNat (value / 64 % 64 + 128), UInt8.ofNat (value % 64 + 128)] (Char.ofNat value) := by
  have isLead : (UInt8.ofNat (value / 262144 % 8 + 240)).toNat = value / 262144 % 8 + 240 :=
    to_nat_of_small (by omega)
  have isSecond : (UInt8.ofNat (value / 4096 % 64 + 128)).toNat = value / 4096 % 64 + 128 :=
    to_nat_of_small (by omega)
  refine .opened (lead_of_four (by omega) (by omega)) (.more ?_ (by simp) ?_)
  · rw [fits_iff, isLead, isSecond]
    dsimp only
    constructor
    · split <;> simp
      omega
    · split <;> simp <;> omega
  · refine .more (continuation_fits _) (by simp) ?_
    refine .last_of (continuation_fits value) (Nat.le_refl 1) ?_
    simp only [continuation_value]
    omega

theorem spells_encoding (character : Char) :
    Spells (String.utf8EncodeChar character) character := by
  have valid : character.val.toNat < 0xD800 ∨
      0xDFFF < character.val.toNat ∧ character.val.toNat < 0x110000 := character.valid
  have back : Char.ofNat character.val.toNat = character := Char.ofNat_toNat character
  unfold String.utf8EncodeChar
  dsimp only
  generalize character.val.toNat = value at valid back ⊢
  subst back
  split
  · have isByte : (UInt8.ofNat value).toNat = value := to_nat_of_small (by omega)
    exact .whole (by grind [lead])
  split
  · exact spells_two (by omega) (by omega)
  split
  · exact spells_three (by omega) (by omega) (by omega)
  · exact spells_four (by omega) (by omega)

theorem lead_whole {byte : UInt8} {character : Char} (isWhole : lead byte = .whole character) :
    byte.toNat < 0x80 ∧ character = Char.ofNat byte.toNat := by
  by_cases below : byte.toNat < 0xF0 <;> grind [lead]

theorem lead_opens {byte : UInt8} {sequence : Unfinished} (opens : lead byte = .opens sequence) :
    0xC2 ≤ byte.toNat ∧ byte.toNat < 0xF5 := by
  grind [lead]

theorem lead_is_open {byte : UInt8} {sequence : Unfinished} (opens : lead byte = .opens sequence) :
    0x80 ≤ sequence.low.toNat ∧ sequence.low ≤ sequence.high := by
  obtain ⟨lower, upper⟩ := lead_opens opens
  by_cases two : byte.toNat < 0xE0
  · rw [lead_of_two lower two, Lead.opens.injEq] at opens
    subst opens
    exact ⟨by simp, by simp⟩
  by_cases three : byte.toNat < 0xF0
  · rw [lead_of_three (by omega) three, Lead.opens.injEq] at opens
    subst opens
    dsimp only
    split <;> split <;> first | decide | omega
  · rw [lead_of_four (by omega) upper, Lead.opens.injEq] at opens
    subst opens
    dsimp only
    split <;> split <;> first | decide | omega

theorem encode_value {value : Nat} (valid : value.isValidChar) :
    (Char.ofNat value).val.toNat = value := by
  rw [Char.ofNat, dif_pos valid]
  rfl

theorem of_nat_eq {value : Nat} {byte : UInt8} (same : byte.toNat = value) :
    UInt8.ofNat value = byte := by
  rw [← same, UInt8.ofNat_toNat]

theorem encode_two {value : Nat} {first second : UInt8} (lower : 0xC2 ≤ first.toNat)
    (upper : first.toNat < 0xE0) (fits : 0x80 ≤ second.toNat ∧ second.toNat ≤ 0xBF)
    (made : value = (first.toNat - 0xC0) * 64 + (second.toNat - 0x80)) :
    String.utf8EncodeChar (Char.ofNat value) = [first, second] := by
  have isFirst : UInt8.ofNat (value / 64 % 32 + 192) = first := of_nat_eq (by omega)
  have isSecond : UInt8.ofNat (value % 64 + 128) = second := of_nat_eq (by omega)
  unfold String.utf8EncodeChar
  rw [encode_value (.inl (by omega))]
  dsimp only
  rw [if_neg (by omega), if_pos (by omega), isFirst, isSecond]

theorem encode_three {value : Nat} {first second third : UInt8} (lower : 0xE0 ≤ first.toNat)
    (upper : first.toNat < 0xF0)
    (fits : (if first.toNat = 0xE0 then 0xA0 else 0x80) ≤ second.toNat ∧
      second.toNat ≤ if first.toNat = 0xED then 0x9F else 0xBF)
    (fitsThird : 0x80 ≤ third.toNat ∧ third.toNat ≤ 0xBF)
    (made : value =
      ((first.toNat - 0xE0) * 64 + (second.toNat - 0x80)) * 64 + (third.toNat - 0x80)) :
    String.utf8EncodeChar (Char.ofNat value) = [first, second, third] := by
  have bounds : 0x80 ≤ second.toNat ∧ second.toNat ≤ 0xBF := by
    split at fits <;> split at fits <;> omega
  have valid : 2047 < value ∧ value.isValidChar := by
    unfold Nat.isValidChar
    split at fits <;> split at fits <;> omega
  have isFirst : UInt8.ofNat (value / 4096 % 16 + 224) = first := of_nat_eq (by omega)
  have isSecond : UInt8.ofNat (value / 64 % 64 + 128) = second := of_nat_eq (by omega)
  have isThird : UInt8.ofNat (value % 64 + 128) = third := of_nat_eq (by omega)
  unfold String.utf8EncodeChar
  rw [encode_value valid.2]
  dsimp only
  rw [if_neg (by omega), if_neg (by omega), if_pos (by omega), isFirst, isSecond, isThird]

theorem encode_four {value : Nat} {first second third fourth : UInt8} (lower : 0xF0 ≤ first.toNat)
    (upper : first.toNat < 0xF5)
    (fits : (if first.toNat = 0xF0 then 0x90 else 0x80) ≤ second.toNat ∧
      second.toNat ≤ if first.toNat = 0xF4 then 0x8F else 0xBF)
    (fitsThird : 0x80 ≤ third.toNat ∧ third.toNat ≤ 0xBF)
    (fitsFourth : 0x80 ≤ fourth.toNat ∧ fourth.toNat ≤ 0xBF)
    (made : value =
      (((first.toNat - 0xF0) * 64 + (second.toNat - 0x80)) * 64 + (third.toNat - 0x80)) * 64 +
        (fourth.toNat - 0x80)) :
    String.utf8EncodeChar (Char.ofNat value) = [first, second, third, fourth] := by
  have bounds : 0x80 ≤ second.toNat ∧ second.toNat ≤ 0xBF := by
    split at fits <;> split at fits <;> omega
  have valid : 65535 < value ∧ value.isValidChar := by
    unfold Nat.isValidChar
    split at fits <;> split at fits <;> omega
  have isFirst : UInt8.ofNat (value / 262144 % 8 + 240) = first := of_nat_eq (by omega)
  have isSecond : UInt8.ofNat (value / 4096 % 64 + 128) = second := of_nat_eq (by omega)
  have isThird : UInt8.ofNat (value / 64 % 64 + 128) = third := of_nat_eq (by omega)
  have isFourth : UInt8.ofNat (value % 64 + 128) = fourth := of_nat_eq (by omega)
  unfold String.utf8EncodeChar
  rw [encode_value valid.2]
  dsimp only
  rw [if_neg (by omega), if_neg (by omega), if_neg (by omega), isFirst, isSecond, isThird, isFourth]

namespace Unfinished

variable {sequence : Unfinished} {bytes : List UInt8} {character : Char}

theorem completes_last (completes : sequence.Completes bytes character)
    (isLast : sequence.missing ≤ 1) :
    ∃ byte value, bytes = [byte] ∧ character = Char.ofNat value ∧
      (sequence.low.toNat ≤ byte.toNat ∧ byte.toNat ≤ sequence.high.toNat) ∧
      value = sequence.value * 64 + (byte.toNat - 0x80) := by
  rcases completes with ⟨fits, _⟩ | ⟨_, notLast, _⟩
  · exact ⟨_, _, rfl, rfl, fits_iff.mp fits, rfl⟩
  · exact absurd isLast notLast

theorem completes_more (completes : sequence.Completes bytes character)
    (notLast : ¬ sequence.missing ≤ 1) :
    ∃ byte rest, bytes = byte :: rest ∧
      (sequence.low.toNat ≤ byte.toNat ∧ byte.toNat ≤ sequence.high.toNat) ∧
      (sequence.behind byte).Completes rest character := by
  rcases completes with ⟨_, isLast⟩ | ⟨fits, _, later⟩
  · exact absurd isLast notLast
  · exact ⟨_, _, rfl, fits_iff.mp fits, later⟩

end Unfinished

theorem spells_iff {bytes : List UInt8} {character : Char} :
    Spells bytes character ↔ String.utf8EncodeChar character = bytes := by
  constructor
  · rintro (⟨isWhole⟩ | ⟨opens, completes⟩)
    · obtain ⟨small, rfl⟩ := lead_whole isWhole
      unfold String.utf8EncodeChar
      rw [encode_value (.inl (by omega))]
      dsimp only
      rw [if_pos (by omega), UInt8.ofNat_toNat]
    · rename_i byte bytes sequence
      obtain ⟨lower, upper⟩ := lead_opens opens
      by_cases two : byte.toNat < 0xE0
      · rw [lead_of_two lower two, Lead.opens.injEq] at opens
        subst opens
        obtain ⟨second, value, rfl, rfl, fits, made⟩ :=
          Unfinished.completes_last completes (by simp)
        exact encode_two lower two fits made
      by_cases three : byte.toNat < 0xF0
      · rw [lead_of_three (by omega) three, Lead.opens.injEq] at opens
        subst opens
        obtain ⟨second, bytes, rfl, fits, later⟩ := Unfinished.completes_more completes (by simp)
        obtain ⟨third, value, rfl, rfl, fitsThird, made⟩ :=
          Unfinished.completes_last later (by simp)
        simp only [apply_ite UInt8.toNat] at fits
        exact encode_three (by omega) three fits fitsThird made
      · rw [lead_of_four (by omega) upper, Lead.opens.injEq] at opens
        subst opens
        obtain ⟨second, bytes, rfl, fits, later⟩ := Unfinished.completes_more completes (by simp)
        obtain ⟨third, bytes, rfl, fitsThird, later⟩ := Unfinished.completes_more later (by simp)
        obtain ⟨fourth, value, rfl, rfl, fitsFourth, made⟩ :=
          Unfinished.completes_last later (by simp)
        simp only [apply_ite UInt8.toNat] at fits
        exact encode_four (by omega) upper fits fitsThird fitsFourth made
  · rintro rfl
    exact spells_encoding character

end JobShell.Text.Utf8
