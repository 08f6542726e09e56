import JobShell.Proofs.History.Kept
import JobShell.Proofs.Line.Written
import JobShell.Proofs.Shell.Turn

/-!
# Numbers that name no entry

A line that asks for an entry which the history does not have is run as it stands. The
builtin looks into the history once more, and by then the line itself has been recorded. So
the number behind the last entry is found there unless the history was full.
-/

namespace JobShell

open Unix

set_option autoImplicit false

variable {digits : List Char}

theorem numeral_is_word (isNumeral : Text.Decimal.IsNumeral digits) : Line.IsWord digits := by
  refine ⟨isNumeral.nonempty, fun character member => ?_⟩
  have isDigit := isNumeral.plain character member
  simp only [Line.isSeparator, Bool.or_eq_false_iff, beq_eq_false_iff_ne]
  refine ⟨⟨⟨⟨?_, ?_⟩, ?_⟩, ?_⟩, ?_⟩ <;> rintro rfl <;> cases isDigit

def indexStage (digits : List Char) : Stage where
  text := History.indexLine digits
  arguments := ["replay", String.ofList digits]
  input := none
  output := none

theorem parse_index_line (isNumeral : Text.Decimal.IsNumeral digits) :
    Line.parse (History.indexLine digits) =
      .ok (some ⟨History.indexLine digits, .foreground, [indexStage digits]⟩) := by
  have isGap : Line.IsGap [' '] := by decide
  have isMark : Line.IsToken "replay".toList := by decide
  have isIndex := numeral_is_word isNumeral
  have behind : Line.HasWords digits [digits] := by
    have alone : Line.HasWords (digits ++ []) [digits] :=
      .word isIndex (by simp) (.none (List.forall_mem_nil _))
    rwa [List.append_nil] at alone
  have has : Line.HasWords (History.indexLine digits).toList ["replay".toList, digits] := by
    rw [History.index_line_characters]
    exact .word isMark.isWord (by rintro _ ⟨⟩; decide) (behind.gap_append isGap)
  have noBar : '|' ∉ (History.indexLine digits).toList := by
    simp [History.index_line_characters, History.replayMark, isNumeral.not_mem]
  have noMark : '&' ∉ (History.indexLine digits).toList := by
    simp [History.index_line_characters, History.replayMark, isNumeral.not_mem]
  have noOperator : Line.direction? digits = none := by
    rw [Line.direction_none_iff]
    rintro direction rfl
    cases direction <;> exact absurd isNumeral (by decide)
  have plain : ∀ word ∈ ["replay".toList, digits], Line.direction? word = none := by
    simpa using ⟨by decide, noOperator⟩
  have text : String.ofList ((History.indexLine digits).toList.dropWhile (· == ' ')) =
      History.indexLine digits := by
    rw [← String.toList_inj]
    simp [History.index_line_characters, History.replayMark]
  rw [Line.parse_of_words has (List.cons_ne_nil _ _) noBar noMark plain, text]
  rfl

theorem replay_response_of_numeral (view : Builtin.View)
    (isNumeral : Text.Decimal.IsNumeral digits) :
    Builtin.replayResponse view ["replay", String.ofList digits] =
      .complain (if 1 ≤ Text.Decimal.valueOf digits ∧
          Text.Decimal.valueOf digits ≤ view.history.length ∧
          Text.Decimal.valueOf digits ≤ Text.Decimal.wordBound then "replay: unexpected error"
        else "replay: invalid index " ++ String.ofList digits) := by
  simp only [Builtin.replayResponse, Text.Decimal.read_numeral Text.Decimal.wordBound isNumeral]
  by_cases fits : Text.Decimal.valueOf digits ≤ Text.Decimal.wordBound
  · simp only [fits, if_true, and_true]
    split <;> rfl
  · simp [fits]

def Shell.complains (shell : Shell) (context : Context) (line message : String) :
    Program (Shell × Except ShellError (Option StageState)) :=
  (Program.say context.error.toNat (message ++ "\n")).bind fun _ =>
    .done (shell.remember line, .ok (some (.done 1)))

/-- A line that asks for an entry which is not there is run as it stands, and complains. It says
that the number is invalid, unless recording the line has made an entry with that number. -/
theorem missing_index_complains (shell : Shell) (context : Context)
    (isNumeral : Text.Decimal.IsNumeral digits)
    (missing : Text.Decimal.valueOf digits = 0 ∨
      shell.history.length < Text.Decimal.valueOf digits) :
    shell.history.substitute (History.indexLine digits) = History.indexLine digits ∧
      shell.evaluate context (History.indexLine digits) =
        shell.complains context (History.indexLine digits)
          (if Text.Decimal.valueOf digits = shell.history.length + 1 ∧
              shell.history.length < shell.history.capacity ∧
              Text.Decimal.valueOf digits ≤ Text.Decimal.wordBound then "replay: unexpected error"
            else "replay: invalid index " ++ String.ofList digits) := by
  have unchanged := History.substitute_missing isNumeral (History.get_of_beyond missing)
  have length : (shell.history.record (History.indexLine digits)).length =
      min (shell.history.length + 1) shell.history.capacity :=
    History.length_record (History.index_line_visible digits)
  -- The check is made on the history with the line itself, which may have brought the number in.
  have sameCheck : (1 ≤ Text.Decimal.valueOf digits ∧
        Text.Decimal.valueOf digits ≤ (shell.history.record (History.indexLine digits)).length ∧
        Text.Decimal.valueOf digits ≤ Text.Decimal.wordBound) ↔
      (Text.Decimal.valueOf digits = shell.history.length + 1 ∧
        shell.history.length < shell.history.capacity ∧
        Text.Decimal.valueOf digits ≤ Text.Decimal.wordBound) := by
    rw [length]
    omega
  have answer := replay_response_of_numeral (shell.remember (History.indexLine digits)).view
    isNumeral
  refine ⟨unchanged, ?_⟩
  rw [Shell.evaluate_eq_perform, unchanged,
    Shell.perform_of_builtin (parse_index_line isNumeral) rfl rfl rfl]
  change (((Builtin.replayResponse (shell.remember (History.indexLine digits)).view
    ["replay", String.ofList digits]).carryOut Shell.host standardOutput
      context.error.toNat).bind _) = _
  rw [answer, ← if_congr sameCheck rfl rfl]
  exact Program.bind_assoc _ _ _

theorem missing_index_complains_of_one :
    plainShell.history.substitute "replay 1" = "replay 1" ∧
      plainShell.evaluate (plainShell.context false) "replay 1" =
        plainShell.complains (plainShell.context false) "replay 1" "replay: unexpected error" := by
  have isNumeral : Text.Decimal.IsNumeral ['1'] := by decide
  have missing : Text.Decimal.valueOf ['1'] = 0 ∨
      plainShell.history.length < Text.Decimal.valueOf ['1'] := by decide
  have isNext : Text.Decimal.valueOf ['1'] = plainShell.history.length + 1 ∧
      plainShell.history.length < plainShell.history.capacity ∧
      Text.Decimal.valueOf ['1'] ≤ Text.Decimal.wordBound := by decide
  have complains := missing_index_complains plainShell (plainShell.context false) isNumeral missing
  rw [if_pos isNext] at complains
  exact complains

def selfIndexTurn : Turn where
  before := plainShell
  context := plainShell.context false
  input := "replay 1"
  calls := [⟨.write standardError "replay: unexpected error\n".toUTF8, .ok 25⟩]
  after := plainShell.remember "replay 1"
  outcome := .ok (some (.done 1))

/-- A number that names no entry, and a message that does not say so. -/
theorem self_index_is_not_called_invalid :
    Text.Decimal.IsNumeral ['1'] ∧ plainShell.history.length < Text.Decimal.valueOf ['1'] ∧
      plainShell.Evaluated [selfIndexTurn] selfIndexTurn.after ∧
      selfIndexTurn.input = "replay 1" ∧
      selfIndexTurn.calls.sent standardError = "replay: unexpected error\n".toUTF8 ∧
      selfIndexTurn.calls.sent standardError ≠ "replay: invalid index 1\n".toUTF8 := by
  have happens : selfIndexTurn.Happens := .step (.stop _)
  exact ⟨by decide, by decide, Shell.Evaluated.start.turn happens, rfl, by decide, by decide⟩

end JobShell
