/-!
# Words of a line

A line is cut at every `|`, and each piece into words at the separators. Empty
pieces and empty words are dropped, so any number of separators is as good as
one.
-/

namespace JobShell.Line

set_option autoImplicit false

def isSeparator (character : Char) : Bool :=
  character == ' ' || character == '\t' || character == '\r' || character == '\n' ||
    character == '\x07'

def isBar (character : Char) : Bool :=
  character == '|'

/-- The parts of a list between the elements that satisfy a test. There is one
part more than there are such elements. -/
def partsAt {α : Type} (test : α → Bool) (elements : List α) : List (List α) :=
  elements.foldr
    (fun element parts =>
      if test element then [] :: parts
      else
        match parts with
        | [] => [[element]]
        | part :: rest => (element :: part) :: rest)
    [[]]

def nonemptyParts {α : Type} (test : α → Bool) (elements : List α) : List (List α) :=
  (partsAt test elements).filter fun part => !part.isEmpty

def pieces (line : List Char) : List (List Char) :=
  nonemptyParts isBar line

def words (piece : List Char) : List (List Char) :=
  nonemptyParts isSeparator piece

def trimEnd {α : Type} (test : α → Bool) (elements : List α) : List α :=
  (elements.reverse.dropWhile test).reverse

theorem parts_at_cons_of_not {α : Type} (test : α → Bool) (element : α) (rest : List α)
    (plain : test element = false) :
    ∃ part parts, partsAt test rest = part :: parts ∧
      partsAt test (element :: rest) = (element :: part) :: parts := by
  induction rest with
  | nil => exact ⟨[], [], rfl, by simp [partsAt, plain]⟩
  | cons head tail ih =>
    obtain ⟨part, parts, equal, _⟩ := ih
    by_cases bar : test head = true
    · refine ⟨[], partsAt test tail, by simp [partsAt, bar], ?_⟩
      simp [partsAt, bar, plain]
    · have plainHead : test head = false := by simpa using bar
      refine ⟨head :: part, parts, ?_, ?_⟩
      · have unfolded : partsAt test (head :: tail) =
            (match partsAt test tail with
              | [] => [[head]]
              | first :: others => (head :: first) :: others) := by
          simp [partsAt, plainHead]
        rw [unfolded, equal]
      · have unfolded : partsAt test (element :: head :: tail) =
            (match (match partsAt test tail with
              | [] => [[head]]
              | first :: others => (head :: first) :: others) with
              | [] => [[element]]
              | first :: others => (element :: first) :: others) := by
          simp [partsAt, plainHead, plain]
        rw [unfolded, equal]

end JobShell.Line
