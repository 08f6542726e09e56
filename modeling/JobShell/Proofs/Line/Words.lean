import JobShell.Line.Word
import Mathlib.Data.List.Basic

/-!
# Pieces and words

What the pieces of a line and the words of a piece are, said of the text and not of how it
is cut: a text is its pieces with a bar between each two, and a piece is its words with
separators around them, which no two words are without. Cutting a text finds these pieces
and these words, and there are no others.
-/

namespace JobShell.Line

set_option autoImplicit false

def IsGap (text : List Char) : Prop :=
  ∀ character ∈ text, isSeparator character = true

instance (text : List Char) : Decidable (IsGap text) :=
  decidable_of_iff (text.all isSeparator = true) List.all_eq_true

structure IsWord (word : List Char) : Prop where
  nonempty : word ≠ []
  plain : ∀ character ∈ word, isSeparator character = false

/-- The words of a piece are its longest runs of characters that are no separators. -/
inductive HasWords : List Char → List (List Char) → Prop where
  | none {gap : List Char} (isGap : IsGap gap) : HasWords gap []
  | cons {gap word rest : List Char} {others : List (List Char)} (isGap : IsGap gap)
      (isWord : IsWord word)
      (longest : ∀ character, rest.head? = some character → isSeparator character = true)
      (later : HasWords rest others) : HasWords (gap ++ word ++ rest) (word :: others)

/-- The pieces of a text are what stands between its bars. -/
inductive HasPieces : List Char → List (List Char) → Prop where
  | last {piece : List Char} (noBar : '|' ∉ piece) : HasPieces piece [piece]
  | cons {piece rest : List Char} {others : List (List Char)} (noBar : '|' ∉ piece)
      (later : HasPieces rest others) : HasPieces (piece ++ '|' :: rest) (piece :: others)

theorem parts_at_eq_split {α : Type} (test : α → Bool) (elements : List α) :
    partsAt test elements = elements.splitOnP test := by
  induction elements with
  | nil => rw [List.splitOnP_nil]; rfl
  | cons element rest ih =>
      rw [List.splitOnP_cons_eq_if_modifyHead, ← ih]
      split
      · rename_i ends
        simp [partsAt, ends]
      · rename_i goesOn
        obtain ⟨part, parts, isSplit, isLonger⟩ :=
          parts_at_cons_of_not test element rest (by simpa using goesOn)
        rw [isLonger, isSplit, List.modifyHead_cons]

section

variable {α : Type} {test : α → Bool} {elements rest : List α}

theorem nonempty_parts_nil : nonemptyParts test [] = [] := rfl

theorem nonempty_parts_append {element : α} (ends : test element = true) :
    nonemptyParts test (elements ++ element :: rest) =
      nonemptyParts test elements ++ nonemptyParts test rest := by
  rw [nonemptyParts, parts_at_eq_split, List.splitOnP_append_cons elements rest ends,
    List.filter_append, ← parts_at_eq_split, ← parts_at_eq_split]
  rfl

theorem nonempty_parts_of_end {element : α} (ends : test element = true) :
    nonemptyParts test (element :: rest) = nonemptyParts test rest := by
  have cut : nonemptyParts test ([] ++ element :: rest) = _ := nonempty_parts_append ends
  rwa [nonempty_parts_nil] at cut

theorem nonempty_parts_of_plain (nonempty : elements ≠ [])
    (plain : ∀ element ∈ elements, test element = false) :
    nonemptyParts test elements = [elements] := by
  rw [nonemptyParts, parts_at_eq_split, List.splitOnP_eq_singleton plain]
  simp [nonempty]

theorem nonempty_parts_of_all (all : ∀ element ∈ elements, test element = true) :
    nonemptyParts test (elements ++ rest) = nonemptyParts test rest := by
  induction elements with
  | nil => rfl
  | cons element elements ih =>
      rw [List.forall_mem_cons] at all
      rw [List.cons_append, ← ih all.2]
      exact nonempty_parts_of_end all.1

end

theorem HasWords.word {word rest : List Char} {others : List (List Char)} (isWord : IsWord word)
    (longest : ∀ character, rest.head? = some character → isSeparator character = true)
    (later : HasWords rest others) : HasWords (word ++ rest) (word :: others) :=
  have isGap : IsGap [] := List.forall_mem_nil _
  .cons isGap isWord longest later

theorem words_of_gap {gap : List Char} (isGap : IsGap gap) : words gap = [] := by
  have cut : words (gap ++ []) = _ := nonempty_parts_of_all isGap
  rwa [List.append_nil, nonempty_parts_nil] at cut

theorem words_of_has_words {piece : List Char} {found : List (List Char)}
    (has : HasWords piece found) : words piece = found := by
  induction has with
  | none isGap => exact words_of_gap isGap
  | @cons gap word rest others isGap isWord longest later ih =>
      rw [words, List.append_assoc, nonempty_parts_of_all isGap]
      cases rest with
      | nil =>
          rw [← ih, List.append_nil, nonempty_parts_of_plain isWord.nonempty isWord.plain]
          rfl
      | cons character rest =>
          have ends := longest character rfl
          have isLater : words rest = others := by
            rw [← ih]
            exact (nonempty_parts_of_end ends).symm
          rw [nonempty_parts_append ends, nonempty_parts_of_plain isWord.nonempty isWord.plain]
          exact congrArg (word :: ·) isLater

theorem has_words_words (piece : List Char) : HasWords piece (words piece) := by
  suffices found : ∃ others, HasWords piece others by
    obtain ⟨others, has⟩ := found
    rw [words_of_has_words has]
    exact has
  induction piece with
  | nil => exact ⟨[], .none (by simp [IsGap])⟩
  | cons character piece ih =>
      obtain ⟨others, has⟩ := ih
      by_cases separates : isSeparator character = true
      · cases has with
        | none isGap => exact ⟨[], .none (by simpa [IsGap, separates] using isGap)⟩
        | @cons gap word rest others isGap isWord longest later =>
            have longer : IsGap (character :: gap) := by simpa [IsGap, separates] using isGap
            exact ⟨_, .cons longer isWord longest later⟩
      · have isPlain : isSeparator character = false := by simpa using separates
        have isAlone : IsWord [character] := ⟨List.cons_ne_nil _ _, by simpa using isPlain⟩
        cases has with
        | @none gap isGap =>
            refine ⟨[[character]], .word isAlone ?_ (.none isGap)⟩
            exact fun next isHead => isGap next (List.mem_of_mem_head? isHead)
        | @cons gap word rest others isGap isWord longest later =>
            cases gap with
            | nil =>
                have isLonger : IsWord (character :: word) :=
                  ⟨List.cons_ne_nil _ _, by simpa [isPlain] using isWord.plain⟩
                exact ⟨_, .word isLonger longest later⟩
            | cons next gap =>
                refine ⟨[character] :: word :: others,
                  .word isAlone ?_ (.cons isGap isWord longest later)⟩
                rintro _ ⟨⟩
                exact isGap next List.mem_cons_self

theorem has_words_iff {piece : List Char} {found : List (List Char)} :
    HasWords piece found ↔ words piece = found := by
  constructor
  · exact words_of_has_words
  · rintro rfl
    exact has_words_words piece

theorem is_bar_iff {character : Char} : isBar character = true ↔ character = '|' := by
  rw [isBar, beq_iff_eq]

theorem plain_of_no_bar {piece : List Char} (noBar : '|' ∉ piece) :
    ∀ character ∈ piece, isBar character = false := by
  intro character member
  rw [Bool.eq_false_iff, ne_eq, is_bar_iff]
  rintro rfl
  exact noBar member

theorem has_pieces_iff {text : List Char} {found : List (List Char)} :
    HasPieces text found ↔ partsAt isBar text = found := by
  constructor
  · intro has
    induction has with
    | last noBar =>
        rw [parts_at_eq_split, List.splitOnP_eq_singleton (plain_of_no_bar noBar)]
    | cons noBar later ih =>
        rw [parts_at_eq_split] at ih ⊢
        rw [List.splitOnP_append_cons _ _ rfl, ih,
          List.splitOnP_eq_singleton (plain_of_no_bar noBar)]
        rfl
  · rintro rfl
    induction text with
    | nil => exact .last (by simp)
    | cons character text ih =>
        by_cases ends : isBar character = true
        · obtain rfl := is_bar_iff.mp ends
          rw [parts_at_eq_split] at ih ⊢
          rw [List.splitOnP_cons_eq_if_modifyHead, if_pos ends]
          have noBar : '|' ∉ ([] : List Char) := List.not_mem_nil
          exact .cons noBar ih
        · have isPlain : isBar character = false := by simpa using ends
          have notBar : '|' ≠ character := fun same => ends (is_bar_iff.mpr same.symm)
          obtain ⟨piece, pieces, isSplit, isLonger⟩ :=
            parts_at_cons_of_not isBar character text isPlain
          rw [isSplit] at ih
          rw [isLonger]
          cases ih with
          | last noBar => exact .last (by simp [notBar, noBar])
          | cons noBar later =>
              have noBarLonger : '|' ∉ character :: piece := by simp [notBar, noBar]
              exact .cons noBarLonger later

end JobShell.Line
