import JobShell.Proofs.History.Behind
import JobShell.Proofs.Shell.Turn

/-!
# Lines that name an entry

A line asks for an entry when it has the mark, perhaps some more spaces, and then a word that
begins with a number. It is replaced exactly when the number is that of an entry. The number has
no bound, so that numerals of any length are read as what they write, and those that do not fit
a machine word name nothing. A shell changes its history by recording lines and not by replacing
them.
-/

namespace JobShell

open Unix

set_option autoImplicit false

namespace History

/-- A line that asks for an entry, in its parts: the spaces behind the mark, the digits at the
start of a word and what else that word has, and the rest from the next space on. -/
structure Request where
  spaces : List Char
  digits : List Char
  glued : List Char
  rest : List Char
  onlySpaces : ∀ character ∈ spaces, character = ' '
  isNumeral : Text.Decimal.IsNumeral digits
  numberEnds : ∀ character ∈ glued.head?, character.isDigit = false
  noSpace : ' ' ∉ glued
  restBegins : ∀ character ∈ rest.head?, character = ' '

namespace Request

def line (request : Request) : String :=
  String.ofList (replayMark ++ request.spaces ++ request.digits ++ request.glued ++ request.rest)

def number (request : Request) : Nat :=
  Text.Decimal.valueOf request.digits

def Names (request : Request) (history : History) : Prop :=
  1 ≤ request.number ∧ request.number ≤ history.length

end Request

variable {history : History} {line : String}

theorem names_iff (request : Request) :
    request.Names history ↔ ∃ entry, history.get? request.number = some entry := by
  constructor
  · intro names
    obtain ⟨entry, named, -⟩ := get_of_within names.1 names.2
    exact ⟨entry, named⟩
  · intro named
    by_contra notNamed
    have beyond : request.number = 0 ∨ history.length < request.number := by
      simp only [Request.Names] at notNamed
      omega
    simp [get_of_beyond beyond] at named

theorem after_mark_sound {text arguments : List Char} (marked : afterMark? text = some arguments) :
    ∃ spaces, (∀ character ∈ spaces, character = ' ') ∧
      text = replayMark ++ spaces ++ arguments := by
  unfold afterMark? at marked
  split at marked
  · rename_i isMarked
    obtain ⟨behind, rfl⟩ := List.isPrefixOf_iff_prefix.mp isMarked
    simp only [List.drop_left, Option.some.injEq] at marked
    subst marked
    refine ⟨behind.takeWhile (· == ' '), ?_, ?_⟩
    · intro character member
      simpa using List.mem_takeWhile_imp member
    · simp [List.takeWhile_append_dropWhile]
  · cases marked

theorem leading_number_sound {word : List Char} {number : Nat}
    (leads : leadingNumber? word = some number) :
    Text.Decimal.IsNumeral (word.takeWhile Char.isDigit) ∧
      Text.Decimal.valueOf (word.takeWhile Char.isDigit) = number ∧
      number ≤ Text.Decimal.wordBound := by
  have nonempty : word.takeWhile Char.isDigit ≠ [] := by
    intro empty
    rw [leadingNumber?, empty] at leads
    cases leads
  have isNumeral : Text.Decimal.IsNumeral (word.takeWhile Char.isDigit) := by
    apply Text.Decimal.IsNumeral.mk nonempty
    intro character member
    exact List.mem_takeWhile_imp member
  rw [leadingNumber?, Text.Decimal.read_numeral _ isNumeral] at leads
  split at leads
  · rename_i fits
    cases leads
    exact ⟨isNumeral, rfl, fits⟩
  · cases leads

theorem expansion_sound {expanded : String} (expands : history.expansion? line = some expanded) :
    ∃ request : Request, request.line = line ∧ request.number ≤ Text.Decimal.wordBound ∧
      ∃ entry, history.get? request.number = some entry ∧
        expanded = entry ++ String.ofList request.rest := by
  unfold expansion? at expands
  obtain ⟨arguments, marked, replaced⟩ := Option.bind_eq_some_iff.mp expands
  obtain ⟨entry, found, rfl⟩ := Option.map_eq_some_iff.mp replaced
  obtain ⟨number, leads, named⟩ := Option.bind_eq_some_iff.mp found
  obtain ⟨spaces, onlySpaces, whole⟩ := after_mark_sound marked
  obtain ⟨isNumeral, isNumber, fits⟩ := leading_number_sound leads
  let word := arguments.takeWhile (· != ' ')
  have numberEnds : ∀ character ∈ (word.dropWhile Char.isDigit).head?,
      character.isDigit = false := by
    intro character isFirst
    have stops := List.head?_dropWhile_not Char.isDigit word
    simpa [Option.mem_def.mp isFirst] using stops
  have noSpace : ' ' ∉ word.dropWhile Char.isDigit := by
    intro member
    have inWord := (List.dropWhile_sublist Char.isDigit).mem member
    simpa using List.mem_takeWhile_imp inWord
  have restBegins : ∀ character ∈ (arguments.dropWhile (· != ' ')).head?, character = ' ' := by
    intro character isFirst
    have stops := List.head?_dropWhile_not (· != ' ') arguments
    simpa [Option.mem_def.mp isFirst] using stops
  let request : Request :=
    ⟨spaces, word.takeWhile Char.isDigit, word.dropWhile Char.isDigit,
      arguments.dropWhile (· != ' '), onlySpaces, isNumeral, numberEnds, noSpace, restBegins⟩
  have isLine : request.line = line := by
    rw [← String.toList_inj, whole]
    simp [Request.line, request, word]
  have isNumbered : request.number = number := isNumber
  rw [← isNumbered] at fits named
  exact ⟨request, isLine, fits, entry, named, rfl⟩

theorem expansion_of_request (request : Request) :
    history.expansion? request.line =
      if request.number ≤ Text.Decimal.wordBound then
        (history.get? request.number).map (· ++ String.ofList request.rest)
      else none :=
  history.expansion_of_index request.spaces request.digits request.glued request.rest
    request.onlySpaces request.isNumeral request.numberEnds request.noSpace request.restBegins

end History

/-- Every line that names an entry is replaced by the entry and the rest of the line, and every
other line stays as it is. In particular a number beyond the machine words names nothing. Turns
of a shell record what a line has become, and do nothing else to the history. A history has no
more entries than a machine word can count. -/
theorem line_is_replaced_iff_it_names_an_entry (history : History)
    (sized : history.length ≤ Text.Decimal.wordBound) :
    (∀ request : History.Request, request.Names history →
      ∃ entry, history.entries[request.number - 1]? = some entry ∧
        history.substitute request.line = entry ++ String.ofList request.rest) ∧
    (∀ line, (¬ ∃ request : History.Request, request.line = line ∧ request.Names history) →
      history.substitute line = line) ∧
    (∀ request : History.Request, Text.Decimal.wordBound < request.number →
      history.substitute request.line = request.line) ∧
    ∀ turn : Turn, turn.before.history = history → turn.Happens →
      turn.after.history = history.record (history.substitute turn.input) := by
  refine ⟨?_, ?_, ?_, ?_⟩
  · intro request names
    obtain ⟨entry, named, isEntry⟩ := History.get_of_within names.1 names.2
    have fits : request.number ≤ Text.Decimal.wordBound := names.2.trans sized
    refine ⟨entry, isEntry, ?_⟩
    rw [History.substitute_eq_expansion, History.expansion_of_request]
    simp [fits, named]
  · intro line notNamed
    rw [History.substitute_eq_expansion]
    cases expands : history.expansion? line with
    | none => rfl
    | some expanded =>
        obtain ⟨request, isLine, -, entry, named, -⟩ := History.expansion_sound expands
        have names := (History.names_iff request).mpr ⟨entry, named⟩
        exact absurd ⟨request, isLine, names⟩ notNamed
  · intro request beyond
    rw [History.substitute_eq_expansion, History.expansion_of_request]
    simp [Nat.not_le.mpr beyond]
  · intro turn sameHistory happens
    rw [happens.history_eq, Turn.text, sameHistory]

def paddedRequest : History.Request where
  spaces := [' ', ' ']
  digits := ['0', '0', '2']
  glued := ['x']
  rest := " it".toList
  onlySpaces := by simp
  isNumeral := by decide
  numberEnds := by simp
  noSpace := by decide
  restBegins := by simp

/-- A request for a number that is two modulo the size of a machine word. -/
def wrappingRequest : History.Request where
  spaces := []
  digits := "18446744073709551618".toList
  glued := []
  rest := []
  onlySpaces := by simp
  isNumeral := by decide
  numberEnds := by simp
  noSpace := by simp
  restBegins := by simp

theorem line_is_replaced_iff_it_names_an_entry_padded :
    History.twoLines.length ≤ Text.Decimal.wordBound ∧
      History.twoLines.substitute "replay   002x it" = "echo hi it" ∧
      wrappingRequest.number % (Text.Decimal.wordBound + 1) = 2 ∧
      History.twoLines.substitute "replay 18446744073709551618" =
        "replay 18446744073709551618" := by
  have sized : History.twoLines.length ≤ Text.Decimal.wordBound := by decide
  obtain ⟨named, -, beyond, -⟩ := line_is_replaced_iff_it_names_an_entry History.twoLines sized
  obtain ⟨entry, isEntry, replaced⟩ := named paddedRequest ⟨by decide, by decide⟩
  obtain rfl : "echo hi" = entry := Option.some.inj isEntry
  exact ⟨sized, replaced, by decide, beyond wrappingRequest (by decide)⟩

end JobShell
