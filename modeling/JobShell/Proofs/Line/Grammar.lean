import JobShell.Proofs.Line.Words

/-!
# The grammar of a line

The syntax of a line as a parsing expression grammar, in which a choice takes the first
alternative that matches, a repetition takes as much as it can, and a look ahead takes
nothing. A named rule leaves a node with what it took and with the nodes of the rules inside.

The grammar of a line refuses no text, as every character is a separator, part of a word or
a bar. The segments that it leaves are the pieces of the text, also the empty ones, with
their words.
-/

namespace JobShell.Line

set_option autoImplicit false

inductive Rule where
  | word
  | segment
  | line
  | endOfInput
  deriving DecidableEq, Repr

/-- What a rule has taken, with the nodes of the rules inside it. -/
inductive Node where
  | node (rule : Rule) (text : List Char) (inner : List Node)

inductive Expression where
  | startOfInput
  | endOfInput
  | one (test : Char → Bool)
  | both (first second : Expression)
  | either (first second : Expression)
  | many (repeated : Expression)
  | notAhead (refused : Expression)
  | named (rule : Rule) (body : Expression)

namespace Expression

/-- Takes what an expression matches from the beginning of a text, before which so many
characters were taken already. A repetition ends where it no longer matches or moves. -/
def take : Expression → Nat → List Char → Option (List Node × List Char)
  | startOfInput, taken, text => if taken = 0 then some ([], text) else none
  | endOfInput, _, text => if text.isEmpty then some ([], text) else none
  | one test, _, text =>
    match text with
    | [] => none
    | character :: rest => if test character then some ([], rest) else none
  | both first second, taken, text =>
    match first.take taken text with
    | none => none
    | some (nodes, rest) =>
      match second.take (taken + (text.length - rest.length)) rest with
      | none => none
      | some (others, left) => some (nodes ++ others, left)
  | either first second, taken, text =>
    match first.take taken text with
    | some result => some result
    | none => second.take taken text
  | many repeated, taken, text =>
    match repeated.take taken text with
    | none => some ([], text)
    | some (nodes, rest) =>
      if rest.length < text.length then
        match (many repeated).take (taken + (text.length - rest.length)) rest with
        | none => none
        | some (others, left) => some (nodes ++ others, left)
      else some ([], text)
  | notAhead refused, taken, text =>
    match refused.take taken text with
    | some _ => none
    | none => some ([], text)
  | named rule body, taken, text =>
    match body.take taken text with
    | none => none
    | some (nodes, rest) =>
      some ([.node rule (text.take (text.length - rest.length)) nodes], rest)
termination_by expression _ text => (sizeOf expression, text.length)

def literal (character : Char) : Expression :=
  one (· == character)

def separator : Expression :=
  either (literal ' ') (either (literal '\t') (either (literal '\r')
    (either (literal '\n') (literal '\x07'))))

def bar : Expression :=
  literal '|'

def letter : Expression :=
  both (notAhead (either separator bar)) (one fun _ => true)

def word : Expression :=
  named .word (both letter (many letter))

def segment : Expression :=
  named .segment (many (either separator word))

def line : Expression :=
  named .line (both startOfInput (both segment (both (many (both bar segment))
    (named .endOfInput endOfInput))))

end Expression

namespace Node

def text : Node → List Char
  | node _ text _ => text

def rule : Node → Rule
  | node rule _ _ => rule

def inner : Node → List Node
  | node _ _ inner => inner

mutual

def all : Node → List Node
  | node rule text inner => node rule text inner :: allOf inner

def allOf : List Node → List Node
  | [] => []
  | first :: others => all first ++ allOf others

end

def segments (nodes : List Node) : List (List Char × List (List Char)) :=
  ((allOf nodes).filter fun node => node.rule == .segment).map fun node =>
    (node.text, node.inner.map text)

def ofWord (word : List Char) : Node :=
  .node .word word []

def ofPiece (piece : List Char) : Node :=
  .node .segment piece ((words piece).map ofWord)

theorem all_of_words (found : List (List Char)) :
    allOf (found.map ofWord) = found.map ofWord := by
  induction found with
  | nil => rfl
  | cons word found ih =>
      rw [List.map_cons, allOf, ih]
      rfl

theorem all_of_append (first second : List Node) :
    allOf (first ++ second) = allOf first ++ allOf second := by
  induction first with
  | nil => rfl
  | cons node first ih => simp [allOf, ih]

theorem segments_append (first second : List Node) :
    segments (first ++ second) = segments first ++ segments second := by
  simp [segments, all_of_append]

theorem segments_of_pieces (found : List (List Char)) :
    segments (found.map ofPiece) = found.map fun piece => (piece, words piece) := by
  induction found with
  | nil => rfl
  | cons piece found ih =>
      have noSegment : ((words piece).map ofWord).filter (rule · == .segment) = [] := by
        rw [List.filter_eq_nil_iff]
        intro node member
        obtain ⟨word, -, rfl⟩ := List.mem_map.mp member
        simp [ofWord, rule]
      have own : segments [ofPiece piece] = [(piece, words piece)] := by
        have isText : text ∘ ofWord = id := rfl
        rw [segments, allOf, allOf, List.append_nil, ofPiece, all, all_of_words,
          List.filter_cons_of_pos (by rfl), noSegment]
        simp [text, inner, isText]
      rw [List.map_cons, List.map_cons, ← List.singleton_append, segments_append, own, ih]
      rfl

end Node

namespace Expression

def isLetter (character : Char) : Bool :=
  !isSeparator character && !isBar character

theorem take_either_one {first second : Expression} {test other : Char → Bool}
    (isFirst : ∀ taken text, first.take taken text = (one test).take taken text)
    (isSecond : ∀ taken text, second.take taken text = (one other).take taken text)
    (taken : Nat) (text : List Char) :
    (either first second).take taken text =
      (one fun character => test character || other character).take taken text := by
  rw [take, isFirst, isSecond]
  cases text with
  | nil => simp [take]
  | cons character rest =>
      by_cases passes : test character = true
      · simp [take, passes]
      · simp [take, passes]

theorem take_literal (character : Char) (taken : Nat) (text : List Char) :
    (literal character).take taken text = (one fun other => other == character).take taken text :=
  rfl

theorem take_separator (taken : Nat) (text : List Char) :
    separator.take taken text = (one isSeparator).take taken text := by
  have same := take_either_one (take_literal ' ') (take_either_one (take_literal '\t')
    (take_either_one (take_literal '\r') (take_either_one (take_literal '\n')
      (take_literal '\x07')))) taken text
  rw [separator, same]
  simp only [← Bool.or_assoc]
  rfl

theorem take_bar (taken : Nat) (text : List Char) :
    bar.take taken text = (one isBar).take taken text :=
  rfl

theorem take_letter (taken : Nat) (text : List Char) :
    letter.take taken text = (one isLetter).take taken text := by
  cases text with
  | nil => simp [letter, take, take_separator, take_bar]
  | cons character rest =>
      simp only [letter, take, take_separator, take_bar]
      by_cases separates : isSeparator character = true
      · simp [separates, isLetter]
      · by_cases ends : isBar character = true
        · simp [separates, ends, isLetter]
        · simp [separates, ends, isLetter, take]

theorem take_both {first second : Expression} {taken : Nat} {text rest left : List Char}
    {nodes others : List Node} (isFirst : first.take taken text = some (nodes, rest))
    (isSecond : ∀ taken, second.take taken rest = some (others, left)) :
    (both first second).take taken text = some (nodes ++ others, left) := by
  rw [take, isFirst]
  simp [isSecond]

theorem take_many_one {repeated : Expression} {test : Char → Bool}
    (same : ∀ taken text, repeated.take taken text = (one test).take taken text) {rest : List Char}
    (stops : ∀ character, rest.head? = some character → test character = false)
    {front : List Char} (passing : ∀ character ∈ front, test character = true) (taken : Nat) :
    (many repeated).take taken (front ++ rest) = some ([], rest) := by
  induction front generalizing taken with
  | nil =>
      rw [List.nil_append, take, same]
      cases rest with
      | nil => simp [take]
      | cons character rest => simp [take, stops character rfl]
  | cons character front ih =>
      rw [List.forall_mem_cons] at passing
      rw [List.cons_append, take, same, take]
      simp [passing.1, ih passing.2]

theorem take_word {found rest : List Char} (nonempty : found ≠ [])
    (letters : ∀ character ∈ found, isLetter character = true)
    (stops : ∀ character, rest.head? = some character → isLetter character = false)
    (taken : Nat) : word.take taken (found ++ rest) = some ([.ofWord found], rest) := by
  cases found with
  | nil => exact absurd rfl nonempty
  | cons character found =>
      rw [List.forall_mem_cons] at letters
      rw [word, take, List.cons_append, take, take_letter, take]
      simp only [letters.1, ↓reduceIte, take_many_one take_letter stops letters.2]
      rw [← List.cons_append, List.length_append, Nat.add_sub_cancel, List.take_left]
      rfl

theorem take_word_of_not {text : List Char} (taken : Nat)
    (noPart : ∀ character, text.head? = some character → isLetter character = false) :
    word.take taken text = none := by
  rw [word, take, take, take_letter]
  cases text with
  | nil => simp [take]
  | cons character rest => simp [take, noPart character rfl]

theorem no_separator_of_bar {character : Char} (ends : isBar character = true) :
    isSeparator character = false := by
  obtain rfl := is_bar_iff.mp ends
  decide

theorem take_gap {gap rest : List Char} {result : List Node × List Char} (isGap : IsGap gap)
    (later : ∀ taken, (many (either separator word)).take taken rest = some result)
    (taken : Nat) :
    (many (either separator word)).take taken (gap ++ rest) = some result := by
  induction gap generalizing taken with
  | nil => exact later taken
  | cons character gap ih =>
      rw [IsGap, List.forall_mem_cons] at isGap
      rw [List.cons_append, take, take, take_separator, take]
      simp [isGap.1, ih isGap.2]

theorem take_words {piece : List Char} {found : List (List Char)} (has : HasWords piece found)
    (noBar : ∀ character ∈ piece, isBar character = false) {rest : List Char}
    (stops : ∀ character, rest.head? = some character → isBar character = true) (taken : Nat) :
    (many (either separator word)).take taken (piece ++ rest) =
      some (found.map .ofWord, rest) := by
  induction has generalizing taken with
  | none isGap =>
      refine take_gap isGap (fun taken => ?_) taken
      have noWord : word.take taken rest = Option.none :=
        take_word_of_not taken fun character isHead => by simp [isLetter, stops character isHead]
      rw [take, take, take_separator, noWord]
      cases rest with
      | nil => simp [take]
      | cons character rest => simp [take, no_separator_of_bar (stops character rfl)]
  | @cons gap found behind others isGap isWord longest later ih =>
      simp only [List.mem_append, or_imp, forall_and] at noBar
      have letters : ∀ character ∈ found, isLetter character = true := fun character member => by
        simp [isLetter, isWord.plain character member, noBar.1.2 character member]
      have ends : ∀ character, (behind ++ rest).head? = some character →
          isLetter character = false := by
        intro character isHead
        cases behind with
        | nil => simp [isLetter, stops character isHead]
        | cons next behind => simp [isLetter, longest character isHead]
      rw [List.append_assoc, List.append_assoc]
      refine take_gap isGap (fun taken => ?_) taken
      have noSeparator : separator.take taken (found ++ (behind ++ rest)) = Option.none := by
        rw [take_separator]
        cases found with
        | nil => exact absurd rfl isWord.nonempty
        | cons first found => simp [take, isWord.plain first List.mem_cons_self]
      -- A repetition goes on only behind a match that has taken something.
      have shorter : (behind ++ rest).length < (found ++ (behind ++ rest)).length := by
        rw [@List.length_append _ found]
        have nonempty := List.length_pos_of_ne_nil isWord.nonempty
        omega
      rw [take, take, noSeparator, take_word isWord.nonempty letters ends]
      simp only [shorter, ↓reduceIte, ih noBar.2]
      rfl

theorem take_segment {piece : List Char} (rest : List Char) (noBar : '|' ∉ piece)
    (stops : ∀ character, rest.head? = some character → isBar character = true) (taken : Nat) :
    segment.take taken (piece ++ rest) = some ([.ofPiece piece], rest) := by
  rw [segment, take, take_words (has_words_words piece) (plain_of_no_bar noBar) stops]
  simp only [List.length_append, Nat.add_sub_cancel, List.take_left]
  rfl

theorem take_no_segments (taken : Nat) :
    (many (both bar segment)).take taken [] = some ([], []) := by
  rw [take, take, take_bar]
  simp [take]

theorem take_segments {text : List Char} {found : List (List Char)} (has : HasPieces text found)
    (taken : Nat) :
    (many (both bar segment)).take taken ('|' :: text) = some (found.map .ofPiece, []) := by
  have isBarTaken : ∀ taken rest, bar.take taken ('|' :: rest) = some ([], rest) := by
    intro taken rest
    simp [take_bar, take, isBar]
  induction has generalizing taken with
  | @last piece noBar =>
      have own := take_segment [] noBar (by simp)
      rw [List.append_nil] at own
      rw [take, take_both (isBarTaken _ _) own]
      simp [take_no_segments]
  | @cons piece rest others noBar later ih =>
      have own := take_segment ('|' :: rest) noBar (by simp [isBar])
      rw [take, take_both (isBarTaken _ _) own]
      have shorter : ('|' :: rest).length < ('|' :: (piece ++ '|' :: rest)).length := by
        simp only [List.length_cons, List.length_append]
        omega
      simp only [shorter, ↓reduceIte, ih]
      rfl

end Expression

def Node.ofLine (text : List Char) : Node :=
  .node .line text ((partsAt isBar text).map .ofPiece ++ [.node .endOfInput [] []])

/-- The grammar takes every text to its end, and leaves its pieces with their words. -/
theorem Expression.take_line (text : List Char) :
    line.take 0 text = some ([.ofLine text], []) := by
  obtain ⟨found, isFound⟩ : ∃ found, partsAt isBar text = found := ⟨_, rfl⟩
  have atStart : startOfInput.take 0 text = some ([], text) := by
    simp [take]
  have atEnd : ∀ taken, (named .endOfInput endOfInput).take taken [] =
      some ([.node .endOfInput [] []], []) := by
    intro taken
    simp [take]
  have segments : ∀ taken, (both segment (both (many (both bar segment))
      (named .endOfInput endOfInput))).take taken text =
        some (found.map .ofPiece ++ [.node .endOfInput [] []], []) := by
    intro taken
    cases has_pieces_iff.mpr isFound with
    | last noBar =>
        have own := take_segment [] noBar (by simp) taken
        rw [List.append_nil] at own
        exact take_both own fun taken => take_both (take_no_segments taken) atEnd
    | @cons piece rest others noBar later =>
        have own := take_segment ('|' :: rest) noBar (by simp [isBar]) taken
        rw [List.map_cons, List.cons_append, ← List.singleton_append]
        exact take_both own fun taken => take_both (take_segments later taken) atEnd
  rw [Node.ofLine, isFound, line, take, take_both atStart segments]
  simp

theorem Node.segments_of_line (text : List Char) :
    segments [ofLine text] = (partsAt isBar text).map fun piece => (piece, words piece) := by
  rw [← segments_of_pieces]
  simp [segments, ofLine, allOf, all, all_of_append, rule]

end JobShell.Line
