import JobShell.History.Replay
import JobShell.Proofs.Text.Numeral
import Mathlib.Data.List.DropRight

/-!
# What a history keeps and gives back

Recording keeps the last lines that are not blank, as many as the capacity allows, so a list
of lines that were recorded can be cut to the capacity before or after another one. A line is
replaced when it names an entry by its number, and by nothing that is blank.
-/

namespace JobShell.History

set_option autoImplicit false

theorem rtake_append {α : Type} (first second : List α) (count : Nat) :
    (first.rtake count ++ second).rtake count = (first ++ second).rtake count := by
  have room : min (count - second.length) count = count - second.length := by omega
  simp only [List.rtake_eq_reverse_take_reverse, List.reverse_append, List.reverse_reverse,
    List.take_append, List.take_take, List.length_reverse, room]

theorem parts_of_front {α : Type} {test : α → Bool} {front rest : List α}
    (passes : ∀ element ∈ front, test element = true)
    (stops : ∀ element ∈ rest.head?, test element = false) :
    (front ++ rest).takeWhile test = front ∧ (front ++ rest).dropWhile test = rest := by
  rw [List.takeWhile_append_of_pos passes, List.dropWhile_append_of_pos passes]
  cases rest with
  | nil => simp
  | cons first rest =>
      have stop : test first = false := stops first rfl
      simp [stop]

variable {history : History} {line : String}

theorem entries_push (history : History) (line : String) :
    (history.push line).entries = (history.entries ++ [line]).rtake history.capacity := by
  simp [push, List.rtake]

theorem rtake_entries (history : History) :
    history.entries.rtake history.capacity = history.entries := by
  rw [List.rtake, Nat.sub_eq_zero_of_le history.fits, List.drop_zero]

theorem entries_record (history : History) (line : String) :
    (history.record line).entries =
      (history.entries ++ [line].filter fun line => !Text.isBlank line).rtake
        history.capacity := by
  unfold record
  cases blank : Text.isBlank line with
  | true => simp [blank, rtake_entries]
  | false => simp [blank, entries_push]

/-- A line that is not blank becomes the newest entry. With room left nothing else changes,
and otherwise the oldest entry goes. -/
theorem record_visible (visible : Text.isBlank line = false) (capable : 0 < history.capacity) :
    (history.record line).entries =
      if history.length < history.capacity then history.entries ++ [line]
      else history.entries.tail ++ [line] := by
  have fits := history.fits
  have lengthEq : history.length = history.entries.length := rfl
  rw [entries_record]
  simp only [visible, Bool.not_false, List.filter_cons_of_pos, List.filter_nil, List.rtake,
    List.length_append, List.length_singleton]
  by_cases room : history.length < history.capacity
  · have noMore : history.entries.length + 1 - history.capacity = 0 := by omega
    rw [if_pos room, noMore, List.drop_zero]
  · have oneMore : history.entries.length + 1 - history.capacity = 1 := by omega
    rw [if_neg room, oneMore, List.drop_append_of_le_length (by omega), List.drop_one]

theorem last_of_record (visible : Text.isBlank line = false) (capable : 0 < history.capacity) :
    (history.record line).entries.getLast? = some line := by
  rw [record_visible visible capable]
  split <;> simp

theorem length_record (visible : Text.isBlank line = false) :
    (history.record line).length = min (history.length + 1) history.capacity := by
  simp only [record, visible, Bool.false_eq_true, if_false, push, length, List.length_drop,
    List.length_append, List.length_singleton]
  omega

theorem record_of_no_capacity (incapable : history.capacity = 0) :
    (history.record line).entries = [] := by
  rw [entries_record, incapable, List.rtake_zero]

theorem get_of_within {number : Nat} (positive : 1 ≤ number) (within : number ≤ history.length) :
    ∃ entry, history.get? number = some entry ∧
      history.entries[number - 1]? = some entry := by
  obtain ⟨index, rfl⟩ : ∃ index, number = index + 1 := ⟨number - 1, by omega⟩
  have isEntry : index < history.entries.length := within
  exact ⟨history.entries[index], by simp [get?, isEntry], by simp [isEntry]⟩

theorem get_of_beyond {number : Nat} (beyond : number = 0 ∨ history.length < number) :
    history.get? number = none := by
  cases number with
  | zero => rfl
  | succ index =>
      have noEntry : history.entries.length ≤ index := by
        simp only [History.length] at beyond
        omega
      simp [get?, noEntry]

theorem mem_of_get {number : Nat} {entry : String} (named : history.get? number = some entry) :
    entry ∈ history.entries := by
  cases number with
  | zero => simp [get?] at named
  | succ index => exact List.mem_of_getElem? named

def expansion? (history : History) (line : String) : Option String :=
  (afterMark? line.toList).bind fun arguments =>
    ((leadingNumber? (arguments.takeWhile (· != ' '))).bind history.get?).map fun entry =>
      entry ++ String.ofList (arguments.dropWhile (· != ' '))

theorem substitute_eq_expansion (history : History) (line : String) :
    history.substitute line = (history.expansion? line).getD line := by
  unfold substitute expansion?
  cases afterMark? line.toList with
  | none => rfl
  | some arguments =>
      simp only [Option.bind_some]
      cases (leadingNumber? (arguments.takeWhile (· != ' '))).bind history.get? <;> rfl

theorem expansion_begins {expanded : String} (expands : history.expansion? line = some expanded) :
    ∃ entry ∈ history.entries, ∃ rest, expanded = entry ++ rest := by
  unfold expansion? at expands
  cases marked : afterMark? line.toList with
  | none => simp [marked] at expands
  | some arguments =>
      rw [marked, Option.bind_some, Option.map_eq_some_iff] at expands
      obtain ⟨entry, found, rfl⟩ := expands
      obtain ⟨number, _, named⟩ := Option.bind_eq_some_iff.mp found
      exact ⟨entry, mem_of_get named, _, rfl⟩

theorem expansion_visible {expanded : String}
    (visible : ∀ entry ∈ history.entries, Text.isBlank entry = false)
    (expands : history.expansion? line = some expanded) : Text.isBlank expanded = false := by
  obtain ⟨entry, member, rest, rfl⟩ := expansion_begins expands
  have isVisible := visible entry member
  unfold Text.isBlank at isVisible ⊢
  rw [String.toList_append, List.all_append, isVisible, Bool.false_and]

theorem capable_of_mem {entry : String} (member : entry ∈ history.entries) :
    0 < history.capacity :=
  Nat.lt_of_lt_of_le (List.length_pos_of_mem member) history.fits

def indexLine (digits : List Char) : String :=
  "replay " ++ String.ofList digits

theorem index_line_characters (digits : List Char) :
    (indexLine digits).toList = replayMark ++ digits := by
  simp [indexLine, replayMark]

theorem index_line_visible (digits : List Char) : Text.isBlank (indexLine digits) = false := by
  have letter : Text.isBlankCharacter 'r' = false := by decide
  simp [Text.isBlank, index_line_characters, replayMark, letter]

theorem index_line_of_number (number : Nat) :
    indexLine (toString number).toList = "replay " ++ toString number := by
  rw [indexLine, String.ofList_toList]

theorem expansion_of_index (history : History) (spaces digits junk rest : List Char)
    (onlySpaces : ∀ character ∈ spaces, character = ' ')
    (isNumeral : Text.Decimal.IsNumeral digits)
    (numberEnds : ∀ character ∈ junk.head?, character.isDigit = false) (noSpace : ' ' ∉ junk)
    (begins : ∀ character ∈ rest.head?, character = ' ') :
    history.expansion? (String.ofList (replayMark ++ spaces ++ digits ++ junk ++ rest)) =
      if Text.Decimal.valueOf digits ≤ Text.Decimal.wordBound then
        (history.get? (Text.Decimal.valueOf digits)).map (· ++ String.ofList rest)
      else none := by
  have skipped : ∀ character ∈ spaces, (character == ' ') = true := by
    intro character member
    rw [onlySpaces character member, beq_self_eq_true]
  have wordStarts : ∀ character ∈ (digits ++ junk ++ rest).head?, (character == ' ') = false := by
    intro character isFirst
    obtain ⟨first, others, rfl⟩ := List.exists_cons_of_ne_nil isNumeral.nonempty
    obtain rfl : first = character := by simpa using isFirst
    rw [beq_eq_false_iff_ne]
    rintro rfl
    exact isNumeral.not_mem (by decide) List.mem_cons_self
  have wordGoesOn : ∀ character ∈ digits ++ junk, (character != ' ') = true := by
    intro character member
    rw [bne_iff_ne]
    rintro rfl
    rcases List.mem_append.mp member with inDigits | inJunk
    · exact isNumeral.not_mem (by decide) inDigits
    · exact noSpace inJunk
  have wordEnds : ∀ character ∈ rest.head?, (character != ' ') = false := by
    intro character isFirst
    rw [begins character isFirst, bne_self_eq_false]
  have marked : afterMark? (replayMark ++ spaces ++ digits ++ junk ++ rest) =
      some (digits ++ junk ++ rest) := by
    have onward := (parts_of_front skipped wordStarts).2
    simp only [List.append_assoc] at onward ⊢
    rw [afterMark?, if_pos (List.isPrefixOf_iff_prefix.mpr (List.prefix_append _ _)),
      List.drop_left, onward]
  have word := parts_of_front wordGoesOn wordEnds
  have number := (parts_of_front isNumeral.plain numberEnds).1
  rw [expansion?, String.toList_ofList, marked, Option.bind_some, word.1, word.2, leadingNumber?,
    number, Text.Decimal.read_numeral Text.Decimal.wordBound isNumeral]
  split <;> rfl

theorem expansion_of_numeral (history : History) {digits : List Char}
    (isNumeral : Text.Decimal.IsNumeral digits) :
    history.expansion? (indexLine digits) =
      if Text.Decimal.valueOf digits ≤ Text.Decimal.wordBound then
        history.get? (Text.Decimal.valueOf digits)
      else none := by
  have expands := history.expansion_of_index [] digits [] [] nofun isNumeral nofun
    List.not_mem_nil nofun
  have sameLine : String.ofList (replayMark ++ [] ++ digits ++ [] ++ []) = indexLine digits := by
    rw [← String.toList_inj, index_line_characters]
    simp
  rw [sameLine] at expands
  rw [expands]
  split
  · cases history.get? (Text.Decimal.valueOf digits) <;> simp
  · rfl

theorem substitute_number {number : Nat} {entry : String}
    (fits : number ≤ Text.Decimal.wordBound) (named : history.get? number = some entry) :
    history.substitute ("replay " ++ toString number) = entry := by
  rw [substitute_eq_expansion, ← index_line_of_number,
    expansion_of_numeral history (Text.Decimal.to_string_is_numeral number),
    Text.Decimal.value_of_to_string, if_pos fits, named, Option.getD_some]

theorem substitute_missing {digits : List Char} (isNumeral : Text.Decimal.IsNumeral digits)
    (missing : history.get? (Text.Decimal.valueOf digits) = none) :
    history.substitute (indexLine digits) = indexLine digits := by
  rw [substitute_eq_expansion, expansion_of_numeral history isNumeral, missing, ite_self,
    Option.getD_none]

end JobShell.History
