import JobShell.Text.Blank

/-!
# The history of lines

The history keeps the last lines that are not blank, up to its capacity, the
oldest first. Lines are numbered from one.
-/

namespace JobShell

set_option autoImplicit false

/-- A bounded list of lines, the oldest first. -/
structure History where
  capacity : Nat
  entries : List String
  fits : entries.length ≤ capacity

namespace History

def empty (capacity : Nat) : History :=
  ⟨capacity, [], Nat.zero_le capacity⟩

def length (history : History) : Nat :=
  history.entries.length

def isEmpty (history : History) : Bool :=
  history.entries.isEmpty

/-- Adds a line at the end. When there are more lines than the capacity allows,
the oldest ones go. -/
def push (history : History) (line : String) : History where
  capacity := history.capacity
  -- At capacity zero the line itself goes too.
  entries := (history.entries ++ [line]).drop (history.entries.length + 1 - history.capacity)
  fits := by
    simp only [List.length_drop, List.length_append, List.length_singleton]
    omega

def record (history : History) (line : String) : History :=
  if Text.isBlank line then history else history.push line

/-- The line with a number, counted from one for the oldest. -/
def get? (history : History) : Nat → Option String
  | 0 => none
  | index + 1 => history.entries[index]?

theorem capacity_record (history : History) (line : String) :
    (history.record line).capacity = history.capacity := by
  unfold record
  split <;> rfl

theorem entries_record_blank (history : History) (line : String)
    (blank : Text.isBlank line = true) : history.record line = history := by
  simp [record, blank]

theorem get_zero (history : History) : history.get? 0 = none := rfl

end History

end JobShell
