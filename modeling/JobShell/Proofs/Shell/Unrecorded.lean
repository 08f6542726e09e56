import JobShell.Proofs.Shell.Background
import JobShell.Proofs.Shell.Remembered

/-!
# Commands that are not recorded

The history leaves out lines of Unicode white space, and only a line of separators is no
command. The two classes overlap and neither holds the other. So a line of white space with
some character that separates no words is a command all the same, and the only kind of
command that runs without being recorded.
-/

namespace JobShell

open Unix

set_option autoImplicit false

namespace Line

variable {text : List Char}

theorem HasWords.mem_text {found : List (List Char)} (has : HasWords text found) :
    ∀ word ∈ found, ∀ character ∈ word, character ∈ text := by
  induction has with
  | none isGap => simp
  | cons isGap isWord longest later ih =>
      rw [List.forall_mem_cons]
      refine ⟨fun character member => by simp [member], fun word among character member => ?_⟩
      exact List.mem_append_right _ (ih word among character member)

theorem words_eq_nil_iff : words text = [] ↔ IsGap text := by
  refine ⟨fun noWords => ?_, words_of_gap⟩
  have has := has_words_words text
  rw [noWords] at has
  cases has with
  | none isGap => exact isGap

theorem blank_is_plain {character : Char} (blank : Text.isBlankCharacter character = true) :
    character ≠ '|' ∧ character ≠ '&' ∧ character ≠ '<' ∧ character ≠ '>' := by
  refine ⟨?_, ?_, ?_, ?_⟩ <;> rintro rfl <;> cases blank

theorem name_not_blank (command : Builtin) :
    command.name.toList.all Text.isBlankCharacter = false := by
  cases command <;> decide

theorem parse_of_blank_words {line : String} (blank : Text.isBlank line = true)
    (notGap : ¬ IsGap line.toList) :
    ∃ stage, parse line = .ok (some ⟨line, .foreground, [stage]⟩) ∧ stage.kind = .external ∧
      stage.arguments = (words line.toList).map String.ofList := by
  have allBlank : ∀ character ∈ line.toList, Text.isBlankCharacter character = true :=
    List.all_eq_true.mp blank
  have has := has_words_words line.toList
  have nonempty : words line.toList ≠ [] := fun noWords => notGap (words_eq_nil_iff.mp noWords)
  have noBar : '|' ∉ line.toList := fun member => (blank_is_plain (allBlank _ member)).1 rfl
  have noMark : '&' ∉ line.toList := fun member => (blank_is_plain (allBlank _ member)).2.1 rfl
  have plain : ∀ word ∈ words line.toList, direction? word = none := by
    intro word among
    rw [direction_none_iff]
    rintro direction rfl
    cases direction with
    | input =>
        have member := has.mem_text _ among '<' (by decide)
        exact (blank_is_plain (allBlank _ member)).2.2.1 rfl
    | output =>
        have member := has.mem_text _ among '>' (by decide)
        exact (blank_is_plain (allBlank _ member)).2.2.2 rfl
  refine ⟨_, parse_of_words has nonempty noBar noMark plain, ?_, rfl⟩
  cases kind : Stage.kind _ with
  | external => rfl
  | builtin command =>
      have isFirst := kind_builtin_iff.mp kind
      obtain ⟨word, among, isName⟩ := List.mem_map.mp (List.mem_of_mem_head? isFirst)
      have nameBlank : command.name.toList.all Text.isBlankCharacter = true := by
        rw [← isName, String.toList_ofList, List.all_eq_true]
        exact fun character member => allBlank _ (has.mem_text word among character member)
      rw [name_not_blank] at nameBlank
      cases nameBlank

theorem blank_is_command_iff {line : String} (blank : Text.isBlank line = true) :
    (∃ job, parse line = .ok (some job)) ↔
      ∃ character ∈ line.toList, isSeparator character = false := by
  have isGapIff : IsGap line.toList ↔
      ¬ ∃ character ∈ line.toList, isSeparator character = false := by
    simp [IsGap]
  by_cases isGap : IsGap line.toList
  · have noCharacter := isGapIff.mp isGap
    simp [parse_of_blank isGap, noCharacter]
  · obtain ⟨stage, reads, _⟩ := parse_of_blank_words blank isGap
    exact ⟨fun _ => not_not.mp fun none => isGap (isGapIff.mpr none), fun _ => ⟨_, reads⟩⟩

end Line

namespace Turn

variable {turn : Turn}

theorem recorded_newest (capable : 0 < turn.before.history.capacity)
    (visible : Text.isBlank turn.text = false) :
    turn.recorded.history.entries.getLast? = some turn.text := by
  rw [recorded_history]
  exact History.last_of_record visible capable

theorem text_visible (entered : Text.isBlank turn.input = false)
    (kept : ∀ entry ∈ turn.before.history.entries, Text.isBlank entry = false) :
    Text.isBlank turn.text = false := by
  rw [text, History.substitute_eq_expansion]
  cases expands : turn.before.history.expansion? turn.input with
  | none => exact entered
  | some expanded => exact History.expansion_visible kept expands

end Turn

/-- With room in the history, a command that is launched is the newest entry by then, unless
its line is blank. A blank line leaves the history as it is, and it is launched exactly when
it has a character that separates no words. When the lines that are entered and the entries
are not blank, as in the loop that reads lines, every command is recorded. -/
theorem command_is_newest_unless_blank (turn : Turn)
    (capable : 0 < turn.before.history.capacity) :
    (∀ job line launch, turn.Launches job line launch → job.text = turn.text ∧
      (Text.isBlank turn.text = false →
        turn.recorded.history.entries.getLast? = some job.text)) ∧
    (Text.isBlank turn.text = true → turn.recorded.history = turn.before.history ∧
      ((∃ job, Line.parse turn.text = .ok (some job)) ↔
        ∃ character ∈ turn.text.toList, Line.isSeparator character = false)) ∧
    (Text.isBlank turn.input = false →
      (∀ entry ∈ turn.before.history.entries, Text.isBlank entry = false) →
        ∀ job line launch, turn.Launches job line launch →
          turn.recorded.history.entries.getLast? = some job.text) := by
  refine ⟨fun job line launch launches => ?_, fun blank => ⟨?_, ?_⟩, ?_⟩
  · have sameText := Line.parse_job_text launches.reads
    refine ⟨sameText, fun visible => ?_⟩
    rw [sameText]
    exact Turn.recorded_newest capable visible
  · rw [Turn.recorded_history]
    exact History.entries_record_blank _ _ blank
  · exact Line.blank_is_command_iff blank
  · intro entered kept job line launch launches
    rw [Line.parse_job_text launches.reads]
    exact Turn.recorded_newest capable (Turn.text_visible entered kept)

def verticalTabTurn : Turn where
  before := plainShell
  context := plainShell.context false
  input := "\x0b"
  calls :=
    [⟨.flushOutput, .ok ()⟩, ⟨.fork, .ok (some 200)⟩, ⟨.joinGroup 200 200, .ok ()⟩,
      ⟨.wait 200 true, .exited 1⟩]
  after := plainShell
  outcome := .ok (some (.done 1))

theorem vertical_tab_turn_happens : verticalTabTurn.Happens :=
  .step (.step (.step (.step (.stop _))))

theorem command_is_newest_unless_blank_vertical_tab :
    0 < verticalTabTurn.before.history.capacity ∧
      verticalTabTurn.recorded.history = verticalTabTurn.before.history ∧
      ∃ job, Line.parse verticalTabTurn.text = .ok (some job) := by
  have capable : 0 < verticalTabTurn.before.history.capacity := by decide
  have whole := (command_is_newest_unless_blank verticalTabTurn capable).2.1 (by decide)
  exact ⟨capable, whole.1, whole.2.mpr ⟨'\x0b', by decide, by decide⟩⟩

/-- A command that has run to its end and is not in a history with room for it. -/
theorem vertical_tab_runs_unrecorded :
    0 < verticalTabTurn.before.history.capacity ∧ verticalTabTurn.Happens ∧
      (∃ job line launch, verticalTabTurn.Launches job line launch ∧
        verticalTabTurn.calls.children = [200] ∧
        verticalTabTurn.recorded.history.entries.getLast? ≠ some job.text) ∧
      verticalTabTurn.after.history.entries = [] := by
  obtain ⟨stage, reads, _⟩ := Line.parse_of_blank_words
    (by decide : Text.isBlank verticalTabTurn.text = true) (by decide)
  obtain ⟨line, launch, launches, _⟩ := vertical_tab_turn_happens.launches reads
  have noEntry : verticalTabTurn.recorded.history.entries.getLast? ≠ some verticalTabTurn.text := by
    decide
  exact ⟨by decide, vertical_tab_turn_happens, ⟨_, line, launch, launches, by decide, noEntry⟩,
    rfl⟩

end JobShell
