import JobShell.Line.Parser
import JobShell.Proofs.Line.Words

/-!
# What a line means

The meaning of a line is said here step by step: its mode and its body, the pieces of the
body, the words of a piece, and the words read one after the other from the left into what
has been read before them. Every line means one thing, and reading it finds that.
-/

namespace JobShell.Line

set_option autoImplicit false

def Wiring.replace (earlier : Wiring) (direction : Direction) (path : String) : Wiring :=
  match direction with
  | .input => { earlier with input := some path }
  | .output => { earlier with output := some path }

/-- Words are read from the left, after something has been read already. An operator takes
the word after it as a path, whatever that is, and any other word is an argument. -/
inductive Reads : Wiring → List (List Char) → Except MissingPath Wiring → Prop where
  | done (earlier : Wiring) : Reads earlier [] (.ok earlier)
  | missing (earlier : Wiring) (direction : Direction) :
      Reads earlier [direction.operator.toList] (.error ⟨direction⟩)
  | redirect {earlier : Wiring} {direction : Direction} {path : List Char}
      {rest : List (List Char)} {result : Except MissingPath Wiring}
      (later : Reads (earlier.replace direction (String.ofList path)) rest result) :
      Reads earlier (direction.operator.toList :: path :: rest) result
  | argument {earlier : Wiring} {word : List Char} {rest : List (List Char)}
      {result : Except MissingPath Wiring}
      (noOperator : ∀ direction : Direction, word ≠ direction.operator.toList)
      (later : Reads { earlier with arguments := earlier.arguments ++ [String.ofList word] } rest
        result) : Reads earlier (word :: rest) result

/-- What a piece is: a stage, or a fault of the line. The text of the stage is the piece
without the spaces at its start. -/
inductive IsStage (piece : List Char) : Except MissingPath Stage → Prop where
  | stage {found : List (List Char)} {arguments : List String} {input output : Option String}
      (hasWords : HasWords piece found)
      (reads : Reads ⟨[], none, none⟩ found (.ok ⟨arguments, input, output⟩)) :
      IsStage piece (.ok ⟨String.ofList (piece.dropWhile (· == ' ')), arguments, input, output⟩)
  | fault {found : List (List Char)} {missing : MissingPath} (hasWords : HasWords piece found)
      (reads : Reads ⟨[], none, none⟩ found (.error missing)) : IsStage piece (.error missing)

/-- The mode and the body of a line. An ampersand counts when only separators are behind
it, and it is taken away together with the separators around it. -/
inductive Divides : List Char → Mode → List Char → Prop where
  | background {body gap tail : List Char} (isGap : IsGap gap) (isTail : IsGap tail)
      (trimmed : ∀ character, body.getLast? = some character → isSeparator character = false) :
      Divides (body ++ gap ++ '&' :: tail) .background body
  | foreground {line : List Char}
      (unmarked : ∀ before tail, IsGap tail → line ≠ before ++ '&' :: tail) :
      Divides line .foreground line

/-- What a line means. Pieces that are empty do not count. -/
inductive Means (line : String) : Except MissingPath (Option Job) → Prop where
  | blank (isGap : IsGap line.toList) : Means line (.ok none)
  | empty {mode : Mode} {body : List Char} {pieces : List (List Char)}
      (notBlank : ¬ IsGap line.toList) (divides : Divides line.toList mode body)
      (hasPieces : HasPieces body pieces) (allEmpty : ∀ piece ∈ pieces, piece = []) :
      Means line (.ok none)
  | fault {mode : Mode} {body piece : List Char} {pieces before after : List (List Char)}
      {missing : MissingPath} (notBlank : ¬ IsGap line.toList)
      (divides : Divides line.toList mode body) (hasPieces : HasPieces body pieces)
      (nonempty : (pieces.filter fun piece => !piece.isEmpty) = before ++ piece :: after)
      (fine : ∀ earlier ∈ before, ∃ stage, IsStage earlier (.ok stage))
      (faulty : IsStage piece (.error missing)) : Means line (.error missing)
  | job {mode : Mode} {body : List Char} {pieces : List (List Char)} {stages : List Stage}
      (notBlank : ¬ IsGap line.toList) (divides : Divides line.toList mode body)
      (hasPieces : HasPieces body pieces) (nonempty : stages ≠ [])
      (inOrder : List.Forall₂ (fun piece stage => IsStage piece (.ok stage))
        (pieces.filter fun piece => !piece.isEmpty) stages) :
      Means line (.ok (some ⟨line, mode, stages⟩))

def Wiring.before (earlier later : Wiring) : Wiring where
  arguments := earlier.arguments ++ later.arguments
  input := later.input.or earlier.input
  output := later.output.or earlier.output

theorem Wiring.nothing_before (later : Wiring) :
    Wiring.before ⟨[], none, none⟩ later = later := by
  obtain ⟨arguments, input, output⟩ := later
  cases input <;> cases output <;> rfl

theorem Wiring.before_nothing (earlier : Wiring) :
    earlier.before ⟨[], none, none⟩ = earlier := by
  obtain ⟨arguments, input, output⟩ := earlier
  simp [Wiring.before]

theorem Wiring.replace_before (earlier later : Wiring) (direction : Direction) (path : String) :
    (earlier.replace direction path).before later =
      earlier.before (later.redirect direction path) := by
  cases direction <;> simp [Wiring.replace, Wiring.before, Wiring.redirect]

theorem direction_of_operator (direction : Direction) :
    direction? direction.operator.toList = some direction := by
  cases direction <;> decide

theorem direction_none_iff {word : List Char} :
    direction? word = none ↔ ∀ direction : Direction, word ≠ direction.operator.toList := by
  constructor
  · rintro isNone direction rfl
    rw [direction_of_operator] at isNone
    cases isNone
  · intro noOperator
    have notInput : word ≠ ['<'] := noOperator .input
    have notOutput : word ≠ ['>'] := noOperator .output
    rw [direction?, if_neg notInput, if_neg notOutput]

theorem operator_of_direction {word : List Char} {direction : Direction}
    (found : direction? word = some direction) : word = direction.operator.toList := by
  by_contra different
  have noOperator : ∀ other : Direction, word ≠ other.operator.toList := by
    rintro other rfl
    rw [direction_of_operator] at found
    cases found
    exact different rfl
  rw [direction_none_iff.mpr noOperator] at found
  cases found

theorem wiring_redirect (direction : Direction) (path : List Char) (rest : List (List Char)) :
    wiring (direction.operator.toList :: path :: rest) =
      (wiring rest).map fun later => later.redirect direction (String.ofList path) := by
  rw [wiring, direction_of_operator]

theorem wiring_argument {word : List Char} (rest : List (List Char))
    (noOperator : direction? word = none) :
    wiring (word :: rest) = (wiring rest).map fun later =>
      { later with arguments := String.ofList word :: later.arguments } := by
  cases rest with
  | nil => simp [wiring, noOperator, Except.map]
  | cons next rest => rw [wiring, noOperator]

theorem reads_wiring (earlier : Wiring) (found : List (List Char)) :
    Reads earlier found ((wiring found).map earlier.before) := by
  -- What was read before becomes more while the words become fewer.
  induction found using wiring.induct generalizing earlier with
  | case1 =>
      have isDone : (wiring []).map earlier.before = .ok earlier := by
        rw [wiring, Except.map, Wiring.before_nothing]
      rw [isDone]
      exact .done earlier
  | case2 word direction isOperator =>
      obtain rfl := operator_of_direction isOperator
      rw [wiring, direction_of_operator]
      exact .missing earlier direction
  | case3 word isNone =>
      have read := @Reads.argument earlier _ _ _ (direction_none_iff.mp isNone) (.done _)
      rw [wiring, isNone]
      simpa [Except.map, Wiring.before] using read
  | case4 word next rest direction isOperator ih =>
      obtain rfl := operator_of_direction isOperator
      rw [wiring_redirect]
      refine .redirect ?_
      have read := ih (earlier.replace direction (String.ofList next))
      cases isRest : wiring rest with
      | error missing =>
          rw [isRest] at read
          exact read
      | ok later =>
          rw [isRest] at read
          simpa [Except.map, Wiring.replace_before] using read
  | case5 word next rest isNone ih =>
      rw [wiring_argument _ isNone]
      refine .argument (direction_none_iff.mp isNone) ?_
      have read := ih { earlier with arguments := earlier.arguments ++ [String.ofList word] }
      cases isRest : wiring (next :: rest) with
      | error missing =>
          rw [isRest] at read
          exact read
      | ok later =>
          rw [isRest] at read
          simpa [Except.map, Wiring.before] using read

theorem wiring_of_reads {earlier : Wiring} {found : List (List Char)}
    {result : Except MissingPath Wiring} (reads : Reads earlier found result) :
    (wiring found).map earlier.before = result := by
  induction reads with
  | done earlier => rw [wiring, Except.map, Wiring.before_nothing]
  | missing earlier direction =>
      rw [wiring, direction_of_operator]
      rfl
  | @redirect earlier direction path rest result later ih =>
      rw [← ih, wiring_redirect]
      cases wiring rest with
      | error missing => rfl
      | ok later => exact congrArg Except.ok (Wiring.replace_before ..).symm
  | @argument earlier word rest result noOperator later ih =>
      rw [← ih, wiring_argument _ (direction_none_iff.mpr noOperator)]
      cases wiring rest with
      | error missing => rfl
      | ok later => simp [Except.map, Wiring.before]

theorem reads_iff {found : List (List Char)} {result : Except MissingPath Wiring} :
    Reads ⟨[], none, none⟩ found result ↔ wiring found = result := by
  have alone : (wiring found).map (Wiring.before ⟨[], none, none⟩) = wiring found := by
    cases wiring found with
    | error missing => rfl
    | ok later => exact congrArg Except.ok (Wiring.nothing_before later)
  constructor
  · intro reads
    rw [← alone, wiring_of_reads reads]
  · rintro rfl
    rw [← alone]
    exact reads_wiring _ _

theorem is_stage_iff {piece : List Char} {result : Except MissingPath Stage} :
    IsStage piece result ↔ stage piece = result := by
  have has := has_words_words piece
  constructor
  · intro isStage
    cases isStage with
    | stage hasWords reads =>
        rw [stage, words_of_has_words hasWords, reads_iff.mp reads]
        rfl
    | fault hasWords reads =>
        rw [stage, words_of_has_words hasWords, reads_iff.mp reads]
        rfl
  · rintro rfl
    cases isRead : wiring (words piece) with
    | error missing =>
        rw [stage, isRead]
        exact .fault has (reads_iff.mpr isRead)
    | ok found =>
        rw [stage, isRead]
        exact .stage has (reads_iff.mpr isRead)

end JobShell.Line
