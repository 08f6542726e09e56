import JobShell.Line.Word
import JobShell.Proofs.History.Kept

/-!
# What stands behind a number

The text behind the number is kept from its first space on. Every other separator of words
counts as a part of the number's own word, and is dropped with the rest of that word, although
the number would end there if the line were read as words.
-/

namespace JobShell.History

set_option autoImplicit false

theorem separator_ends_number {character : Char} (separates : Line.isSeparator character = true) :
    character.isDigit = false := by
  simp only [Line.isSeparator, Bool.or_eq_true, beq_iff_eq] at separates
  rcases separates with (((rfl | rfl) | rfl) | rfl) | rfl <;> decide

def fromFirstSpace (text : String) : String :=
  String.ofList (text.toList.dropWhile (· != ' '))

theorem from_first_space_eq_iff {text : String} :
    fromFirstSpace text = text ↔ ∀ character ∈ text.toList.head?, character = ' ' := by
  rw [← String.toList_inj, fromFirstSpace, String.toList_ofList]
  cases text.toList with
  | nil => simp
  | cons first rest =>
      by_cases isSpace : first = ' '
      · simp [isSpace]
      · have shorter : (rest.dropWhile (· != ' ')).length ≠ (first :: rest).length := by
          have atMost := (List.dropWhile_sublist (· != ' ') :
              (rest.dropWhile (· != ' ')).Sublist rest).length_le
          rw [List.length_cons]
          omega
        have differs : rest.dropWhile (· != ' ') ≠ first :: rest := by
          intro same
          exact shorter (congrArg List.length same)
        simp [isSpace, differs]

theorem substitute_index_behind {history : History} {digits : List Char} {entry behind : String}
    (fits : Text.Decimal.valueOf digits ≤ Text.Decimal.wordBound)
    (isNumeral : Text.Decimal.IsNumeral digits)
    (named : history.get? (Text.Decimal.valueOf digits) = some entry)
    (begins : ∀ character ∈ behind.toList.head?, Line.isSeparator character = true) :
    history.substitute (indexLine digits ++ behind) = entry ++ fromFirstSpace behind := by
  have numberEnds : ∀ character ∈ (behind.toList.takeWhile (· != ' ')).head?,
      character.isDigit = false := by
    intro character isFirst
    rw [List.head?_takeWhile, Option.mem_filter_iff] at isFirst
    exact separator_ends_number (begins character isFirst.1)
  have noSpace : ' ' ∉ behind.toList.takeWhile (· != ' ') := by
    intro member
    simpa using List.mem_takeWhile_imp member
  have spaceBehind : ∀ character ∈ (behind.toList.dropWhile (· != ' ')).head?,
      character = ' ' := by
    intro character isFirst
    have stops := List.head?_dropWhile_not (· != ' ') behind.toList
    rw [isFirst] at stops
    simpa using stops
  have expands := history.expansion_of_index [] digits (behind.toList.takeWhile (· != ' '))
    (behind.toList.dropWhile (· != ' ')) nofun isNumeral numberEnds noSpace spaceBehind
  have sameLine : String.ofList (replayMark ++ [] ++ digits ++ behind.toList.takeWhile (· != ' ') ++
      behind.toList.dropWhile (· != ' ')) = indexLine digits ++ behind := by
    rw [← String.toList_inj, String.toList_append, index_line_characters, String.toList_ofList,
      List.append_assoc _ (List.takeWhile _ _), List.takeWhile_append_dropWhile, List.append_nil]
  rw [sameLine, if_pos fits, named, Option.map_some] at expands
  rw [substitute_eq_expansion, expands, Option.getD_some, fromFirstSpace]

/-- A line that names an entry, with a text behind the number that is empty or begins with a
separator, becomes the entry and that text from its first space on. So the text is kept as a
whole exactly when it is empty or the separator is a space. The size of the history is a
machine word, as all sizes in settings are. -/
theorem replay_keeps_text_from_first_space (history : History) {digits : List Char}
    {behind : String} (sized : history.capacity ≤ Text.Decimal.wordBound)
    (isNumeral : Text.Decimal.IsNumeral digits) (positive : 1 ≤ Text.Decimal.valueOf digits)
    (within : Text.Decimal.valueOf digits ≤ history.length)
    (begins : ∀ character ∈ behind.toList.head?, Line.isSeparator character = true) :
    ∃ entry, history.entries[Text.Decimal.valueOf digits - 1]? = some entry ∧
      history.substitute (indexLine digits ++ behind) = entry ++ fromFirstSpace behind ∧
      (history.substitute (indexLine digits ++ behind) = entry ++ behind ↔
        ∀ character ∈ behind.toList.head?, character = ' ') := by
  obtain ⟨entry, named, isEntry⟩ := get_of_within positive within
  have fits : Text.Decimal.valueOf digits ≤ Text.Decimal.wordBound :=
    (within.trans history.fits).trans sized
  have replaced := substitute_index_behind fits isNumeral named begins
  refine ⟨entry, isEntry, replaced, ?_⟩
  rw [replaced, String.append_right_inj]
  exact from_first_space_eq_iff

def twoLines : History :=
  ⟨16, ["ls -l", "echo hi"], by decide⟩

theorem replay_keeps_text_from_first_space_two :
    twoLines.substitute "replay 2\tmore of it" = "echo hi of it" ∧
      twoLines.substitute "replay 2\tmore of it" ≠ "echo hi\tmore of it" := by
  have isNumeral : Text.Decimal.IsNumeral ['2'] := by decide
  have isHead : "\tmore of it".toList.head? = some '\t' := by decide
  have begins : ∀ character ∈ "\tmore of it".toList.head?, Line.isSeparator character = true := by
    intro character isFirst
    obtain rfl : '\t' = character := Option.some.inj (isHead.symm.trans isFirst)
    decide
  obtain ⟨entry, isEntry, replaced, keptWhole⟩ :=
    replay_keeps_text_from_first_space twoLines (by decide) isNumeral (by decide) (by decide)
      begins
  obtain rfl : "echo hi" = entry := Option.some.inj isEntry
  have notSpace : ¬ ∀ character ∈ "\tmore of it".toList.head?, character = ' ' := by
    intro isSpace
    exact absurd (isSpace '\t' isHead) (by decide)
  exact ⟨replaced, fun whole => notSpace (keptWhole.mp whole)⟩

/-- A tab ends the number where words are read, but what stands behind it is lost. -/
theorem text_behind_tab_is_lost :
    Line.isSeparator '\t' = true ∧ twoLines.get? 2 = some "echo hi" ∧
      twoLines.substitute "replay 2\tmore" = "echo hi" ∧
      twoLines.substitute "replay 2\tmore" ≠ "echo hi" ++ "\tmore" := by
  decide

end JobShell.History
