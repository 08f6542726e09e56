import JobShell.Proofs.History.Kept
import JobShell.Proofs.Shell.Turn

/-!
# The history over the turns of a shell

After any turns the history holds the last lines that were run and are not blank, in the
order of their turns. A line is recorded as it is run, so one that was replayed is recorded
as the entry that it named.
-/

namespace JobShell

open Unix

set_option autoImplicit false

def visibleLines (turns : List Turn) : List String :=
  (turns.map Turn.text).filter fun line => !Text.isBlank line

namespace Shell

variable {start final : Shell} {turns : List Turn}

theorem Evaluated.history_capacity (evaluated : start.Evaluated turns final) :
    final.history.capacity = start.history.capacity := by
  induction evaluated with
  | start => rfl
  | turn earlier happens ih => rw [happens.history_eq, History.capacity_record, ih]

theorem Evaluated.history_entries (evaluated : start.Evaluated turns final) :
    final.history.entries =
      (start.history.entries ++ visibleLines turns).rtake start.history.capacity := by
  induction evaluated with
  | start => simp [visibleLines, History.rtake_entries]
  | @turn turns last earlier happens ih =>
      have capacity := earlier.history_capacity
      rw [happens.history_eq, History.entries_record, ih, capacity, History.rtake_append]
      simp [visibleLines]

variable {settings : Settings} {pid : Pid} {user : String} {home : Option String}
  {directory : String}

theorem Evaluated.entries_of_new
    (evaluated : (Shell.new settings pid user home directory).Evaluated turns final) :
    final.history.entries = (visibleLines turns).rtake settings.historySize := by
  simpa [Shell.new, History.empty] using evaluated.history_entries

theorem Evaluated.entries_visible
    (evaluated : (Shell.new settings pid user home directory).Evaluated turns final) :
    ∀ entry ∈ final.history.entries, Text.isBlank entry = false := by
  intro entry member
  rw [evaluated.entries_of_new] at member
  have among : entry ∈ visibleLines turns := List.mem_of_mem_drop member
  simpa using (List.mem_filter.mp among).2

end Shell

/-- After any turns of a new shell, its history holds the last visible lines that were run, as
many as there is room for. In each turn a blank line adds nothing, and any other line becomes
the newest entry, whatever becomes of it; the oldest entry goes when there is no room, and no
other. A line that names an entry is recorded as the line that takes its place. The numbers
that give entries back are those from one to the length. -/
theorem history_keeps_last_lines {settings : Settings} {pid : Pid} {user : String}
    {home : Option String} {directory : String} {turns : List Turn} {final : Shell}
    (evaluated : (Shell.new settings pid user home directory).Evaluated turns final) :
    final.history.capacity = settings.historySize ∧
    final.history.entries = (visibleLines turns).rtake settings.historySize ∧
    final.history.length ≤ settings.historySize ∧
    (∀ turn ∈ turns, turn.after.history.entries =
      if Text.isBlank turn.text then turn.before.history.entries
      else if settings.historySize = 0 then []
      else if turn.before.history.length < settings.historySize then
        turn.before.history.entries ++ [turn.text]
      else turn.before.history.entries.tail ++ [turn.text]) ∧
    (∀ turn ∈ turns, ∀ expanded, turn.before.history.expansion? turn.input = some expanded →
      turn.text = expanded ∧ turn.after.history.entries.getLast? = some expanded) ∧
    (∀ number, 1 ≤ number → number ≤ final.history.length →
      ∃ entry, final.history.get? number = some entry ∧
        final.history.entries[number - 1]? = some entry) ∧
    ∀ number, number = 0 ∨ final.history.length < number → final.history.get? number = none := by
  have fits := final.history.fits
  rw [evaluated.history_capacity] at fits
  refine ⟨evaluated.history_capacity, evaluated.entries_of_new, fits, ?_, ?_,
    fun number => History.get_of_within, fun number => History.get_of_beyond⟩
  · intro turn member
    obtain ⟨earlier, _, _, before, happens, _⟩ := evaluated.of_mem member
    have capacity : turn.before.history.capacity = settings.historySize := before.history_capacity
    rw [happens.history_eq, ← capacity]
    by_cases blank : Text.isBlank turn.text = true
    · rw [if_pos blank, History.entries_record_blank _ _ blank]
    · rw [if_neg blank]
      by_cases incapable : turn.before.history.capacity = 0
      · rw [if_pos incapable, History.record_of_no_capacity incapable]
      · rw [if_neg incapable]
        exact History.record_visible (by simpa using blank) (Nat.pos_of_ne_zero incapable)
  · intro turn member expanded expands
    obtain ⟨earlier, _, _, before, happens, _⟩ := evaluated.of_mem member
    have isText : turn.text = expanded := by
      rw [Turn.text, History.substitute_eq_expansion, expands, Option.getD_some]
    have visible := History.expansion_visible before.entries_visible expands
    obtain ⟨entry, isEntry, _⟩ := History.expansion_begins expands
    refine ⟨isText, ?_⟩
    rw [happens.history_eq, isText]
    exact History.last_of_record visible (History.capable_of_mem isEntry)

def twoLineShell : Shell :=
  .new { Settings.default with historySize := 2 } 100 "user" none "/"

def quietTurn (shell : Shell) (input : String)
    (outcome : Except ShellError (Option StageState)) : Turn where
  before := shell
  context := shell.context false
  input := input
  calls := []
  after := shell.remember (shell.history.substitute input)
  outcome := outcome

def quietTurns : List Turn :=
  let noInput := Except.error (ShellError.ofMissingPath ⟨.input⟩)
  let noOutput := Except.error (ShellError.ofMissingPath ⟨.output⟩)
  let first := quietTurn twoLineShell "cat <" noInput
  let second := quietTurn first.after " " (.ok none)
  let third := quietTurn second.after "wc >" noOutput
  [first, second, third, quietTurn third.after "replay 1" noInput]

def fullShell : Shell :=
  { twoLineShell with history := ⟨2, ["wc >", "cat <"], by decide⟩ }

theorem quiet_turns_evaluate : twoLineShell.Evaluated quietTurns fullShell := by
  have first : quietTurns[0].Happens := .stop _
  have second : quietTurns[1].Happens := .stop _
  have third : quietTurns[2].Happens := .stop _
  have last : quietTurns[3].Happens := .stop _
  exact (((Shell.Evaluated.start.turn first).turn second).turn third).turn last

theorem history_keeps_last_lines_of_two :
    twoLineShell.Evaluated quietTurns fullShell ∧
      visibleLines quietTurns = ["cat <", "wc >", "cat <"] ∧
      fullShell.history.entries = ["cat <", "wc >", "cat <"].rtake 2 ∧
      quietTurns[3].after.history.entries.getLast? = some "cat <" := by
  obtain ⟨_, entries, _, _, replayed, _⟩ := history_keeps_last_lines quiet_turns_evaluate
  have lines : visibleLines quietTurns = ["cat <", "wc >", "cat <"] := by decide
  rw [lines] at entries
  exact ⟨quiet_turns_evaluate, lines, entries,
    (replayed quietTurns[3] (by simp [quietTurns]) "cat <" (by decide)).2⟩

end JobShell
