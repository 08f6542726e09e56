import JobShell.Proofs.Line.Meaning

/-!
# Writing stages and reading them back

Stages can be written as a line with any separators between the words, around the bars and
at the ends. Whatever separators are chosen, reading the line gives the stages back.
-/

namespace JobShell.Line

set_option autoImplicit false

structure IsToken (token : List Char) : Prop where
  isWord : IsWord token
  noBar : '|' ∉ token

instance (token : List Char) : Decidable (IsToken token) :=
  decidable_of_iff (token.isEmpty = false ∧ token.all Expression.isLetter = true) <| by
    simp only [List.isEmpty_eq_false_iff, List.all_eq_true, Expression.isLetter, Bool.and_eq_true,
      Bool.not_eq_true']
    exact ⟨fun ⟨nonempty, letters⟩ =>
      ⟨⟨nonempty, fun character member => (letters character member).1⟩,
        fun member => absurd (letters '|' member).2 (by decide)⟩,
      fun ⟨⟨nonempty, plain⟩, noBar⟩ => ⟨nonempty, fun character member =>
        ⟨plain character member, plain_of_no_bar noBar character member⟩⟩⟩

def Direction.tokens (direction : Direction) : Option String → List (List Char)
  | none => []
  | some path => [direction.operator.toList, path.toList]

def Wiring.tokens (wiring : Wiring) : List (List Char) :=
  wiring.arguments.map String.toList ++ Direction.input.tokens wiring.input ++
    Direction.output.tokens wiring.output

/-- A stage that can be written. Only a path may look like an operator. -/
structure Wiring.IsWritable (wiring : Wiring) : Prop where
  arguments : ∀ argument ∈ wiring.arguments, IsToken argument.toList
  noOperator : ∀ argument ∈ wiring.arguments, ∀ direction : Direction,
    argument.toList ≠ direction.operator.toList
  input : ∀ path ∈ wiring.input, IsToken path.toList
  output : ∀ path ∈ wiring.output, IsToken path.toList
  nonempty : ¬ (wiring.arguments = [] ∧ wiring.input = none ∧ wiring.output = none)

instance (wiring : Wiring) : Decidable wiring.IsWritable :=
  decidable_of_iff
    ((∀ argument ∈ wiring.arguments, IsToken argument.toList ∧ direction? argument.toList = none) ∧
      (∀ path ∈ wiring.input.toList ++ wiring.output.toList, IsToken path.toList) ∧
      ¬ (wiring.arguments = [] ∧ wiring.input = none ∧ wiring.output = none)) <| by
    simp only [direction_none_iff, List.forall_mem_append, Option.mem_toList]
    exact ⟨fun ⟨arguments, paths, nonempty⟩ =>
      ⟨fun argument member => (arguments argument member).1,
        fun argument member => (arguments argument member).2, paths.1, paths.2, nonempty⟩,
      fun ⟨arguments, noOperator, input, output, nonempty⟩ =>
        ⟨fun argument member => ⟨arguments argument member, noOperator argument member⟩,
          ⟨input, output⟩, nonempty⟩⟩

/-- Tokens in a row, with at least one separator between each two and any behind the last. -/
inductive IsRow : List (List Char) → List Char → Prop where
  | last {token gap : List Char} (isGap : IsGap gap) : IsRow [token] (token ++ gap)
  | cons {token gap row : List Char} {others : List (List Char)} (isGap : IsGap gap)
      (separated : gap ≠ []) (later : IsRow others row) :
      IsRow (token :: others) (token ++ gap ++ row)

inductive WritesStage (wiring : Wiring) : List Char → Prop where
  | stage {lead row : List Char} (isLead : IsGap lead) (isRow : IsRow wiring.tokens row) :
      WritesStage wiring (lead ++ row)

inductive WritesStages : List Wiring → List Char → Prop where
  | last {wiring : Wiring} {text : List Char} (writes : WritesStage wiring text) :
      WritesStages [wiring] text
  | cons {wiring : Wiring} {text rest : List Char} {others : List Wiring}
      (writes : WritesStage wiring text) (later : WritesStages others rest) :
      WritesStages (wiring :: others) (text ++ '|' :: rest)

/-- The text of a line. A line of the foreground may not end in an ampersand. -/
inductive WritesLine (stages : List Wiring) : Mode → List Char → Prop where
  | foreground {text : List Char} (writes : WritesStages stages text)
      (unmarked : ∀ wiring ∈ stages.getLast?, ∀ token ∈ wiring.tokens.getLast?,
        token.getLast? ≠ some '&') :
      WritesLine stages .foreground text
  | background {text gap tail : List Char} (writes : WritesStages stages text)
      (isGap : IsGap gap) (isTail : IsGap tail) :
      WritesLine stages .background (text ++ gap ++ '&' :: tail)

def wiringOf (stage : Stage) : Wiring where
  arguments := stage.arguments
  input := stage.input
  output := stage.output

theorem IsGap.append {front back : List Char} (isFront : IsGap front) (isBack : IsGap back) :
    IsGap (front ++ back) := by
  rw [IsGap, List.forall_mem_append]
  exact ⟨isFront, isBack⟩

theorem IsGap.no_bar {gap : List Char} (isGap : IsGap gap) : '|' ∉ gap := by
  intro member
  exact absurd (isGap '|' member) (by decide)

theorem operator_is_token (direction : Direction) : IsToken direction.operator.toList := by
  cases direction <;> decide

theorem Direction.tokens_are_tokens {direction : Direction} {path : Option String}
    (isToken : ∀ name ∈ path, IsToken name.toList) :
    ∀ token ∈ direction.tokens path, IsToken token := by
  cases path with
  | none => simp [Direction.tokens]
  | some name =>
      rw [Direction.tokens, List.forall_mem_cons, List.forall_mem_singleton]
      exact ⟨operator_is_token direction, isToken name rfl⟩

namespace Wiring.IsWritable

variable {wiring : Wiring}

theorem tokens (writable : wiring.IsWritable) : ∀ token ∈ wiring.tokens, IsToken token := by
  rw [Wiring.tokens, List.forall_mem_append, List.forall_mem_append, List.forall_mem_map]
  exact ⟨⟨writable.arguments, Direction.tokens_are_tokens writable.input⟩,
    Direction.tokens_are_tokens writable.output⟩

theorem reads_arguments {earlier : Wiring} {arguments : List String} {rest : List (List Char)}
    {result : Except MissingPath Wiring}
    (noOperator : ∀ argument ∈ arguments, ∀ direction : Direction,
      argument.toList ≠ direction.operator.toList)
    (later : Reads { earlier with arguments := earlier.arguments ++ arguments } rest result) :
    Reads earlier (arguments.map String.toList ++ rest) result := by
  induction arguments generalizing earlier with
  | nil => simpa using later
  | cons argument arguments ih =>
      rw [List.forall_mem_cons] at noOperator
      refine .argument noOperator.1 (ih noOperator.2 ?_)
      simpa using later

theorem reads (writable : wiring.IsWritable) :
    Reads ⟨[], none, none⟩ wiring.tokens (.ok wiring) := by
  obtain ⟨arguments, input, output⟩ := wiring
  have readsOutput : ∀ earlier : Wiring, earlier.output = none →
      Reads earlier (Direction.output.tokens output) (.ok { earlier with output := output }) := by
    rintro ⟨others, path, _⟩ rfl
    cases output with
    | none => exact .done _
    | some name =>
        change Reads _ [Direction.output.operator.toList, name.toList] _
        refine .redirect ?_
        rw [String.ofList_toList]
        exact .done _
  rw [Wiring.tokens, List.append_assoc]
  refine reads_arguments writable.noOperator ?_
  cases input with
  | none => exact readsOutput _ rfl
  | some name =>
      change Reads _ (Direction.input.operator.toList :: name.toList :: _) _
      refine .redirect ?_
      rw [String.ofList_toList]
      exact readsOutput _ rfl

theorem tokens_nonempty (writable : wiring.IsWritable) : wiring.tokens ≠ [] := by
  obtain ⟨arguments, input, output⟩ := wiring
  intro empty
  refine writable.nonempty ?_
  cases input <;> cases output <;> simp_all [Wiring.tokens, Direction.tokens]

end Wiring.IsWritable

theorem HasWords.gap_append {gap text : List Char} {found : List (List Char)} (isGap : IsGap gap)
    (has : HasWords text found) : HasWords (gap ++ text) found := by
  cases has with
  | none isRest => exact .none (isGap.append isRest)
  | cons isLead isWord longest later =>
      rw [List.append_assoc, ← List.append_assoc, ← List.append_assoc]
      exact .cons (isGap.append isLead) isWord longest later

theorem IsGap.head {gap : List Char} (isGap : IsGap gap) :
    ∀ character, gap.head? = some character → isSeparator character = true :=
  fun character isHead => isGap character (List.mem_of_mem_head? isHead)

theorem IsRow.has_words {tokens : List (List Char)} {row : List Char} (isRow : IsRow tokens row)
    (isToken : ∀ token ∈ tokens, IsToken token) : HasWords row tokens := by
  induction isRow with
  | @last token gap isGap =>
      rw [List.forall_mem_singleton] at isToken
      exact .word isToken.isWord isGap.head (.none isGap)
  | @cons token gap row others isGap separated later ih =>
      rw [List.forall_mem_cons] at isToken
      rw [List.append_assoc]
      refine .word isToken.1.isWord ?_ (.gap_append isGap (ih isToken.2))
      rw [List.head?_append_of_ne_nil _ separated]
      exact isGap.head

theorem IsRow.no_bar {tokens : List (List Char)} {row : List Char} (isRow : IsRow tokens row)
    (isToken : ∀ token ∈ tokens, IsToken token) : '|' ∉ row := by
  induction isRow with
  | last isGap =>
      rw [List.forall_mem_singleton] at isToken
      simp [isToken.noBar, isGap.no_bar]
  | cons isGap separated later ih =>
      rw [List.forall_mem_cons] at isToken
      simp [isToken.1.noBar, isGap.no_bar, ih isToken.2]

theorem IsToken.exists_last {token : List Char} (isToken : IsToken token) :
    ∃ character, token.getLast? = some character ∧ isSeparator character = false := by
  have isLast := List.getLast?_eq_some_getLast isToken.isWord.nonempty
  exact ⟨_, isLast, isToken.isWord.plain _ (List.mem_of_getLast? isLast)⟩

theorem IsRow.trimmed {tokens : List (List Char)} {row : List Char} (isRow : IsRow tokens row)
    (isToken : ∀ token ∈ tokens, IsToken token) :
    ∃ front gap, row = front ++ gap ∧ IsGap gap ∧ IsRow tokens front ∧
      ∃ token character, tokens.getLast? = some token ∧ token.getLast? = some character ∧
        front.getLast? = some character ∧ isSeparator character = false := by
  induction isRow with
  | @last token gap isGap =>
      rw [List.forall_mem_singleton] at isToken
      obtain ⟨character, isLast, isPlain⟩ := isToken.exists_last
      have isRow : IsRow [token] (token ++ []) := .last (List.forall_mem_nil _)
      rw [List.append_nil] at isRow
      exact ⟨token, gap, rfl, isGap, isRow, token, character, rfl, isLast, isLast, isPlain⟩
  | @cons token gap row others isGap separated later ih =>
      rw [List.forall_mem_cons] at isToken
      obtain ⟨front, behind, rfl, isBehind, isRow, last, character, isLast, ends, isEnd, isPlain⟩ :=
        ih isToken.2
      refine ⟨token ++ gap ++ front, behind, by simp, isBehind, .cons isGap separated isRow, last,
        character, ?_, ends, ?_, isPlain⟩
      · simp [List.getLast?_cons, isLast]
      · simp [List.getLast?_append, isEnd]

theorem WritesStages.trimmed {stages : List Wiring} {text : List Char}
    (writes : WritesStages stages text) (writable : ∀ wiring ∈ stages, wiring.IsWritable) :
    ∃ front gap, text = front ++ gap ∧ IsGap gap ∧ WritesStages stages front ∧
      ∃ wiring token character, stages.getLast? = some wiring ∧
        wiring.tokens.getLast? = some token ∧ token.getLast? = some character ∧
        front.getLast? = some character ∧ isSeparator character = false := by
  induction writes with
  | @last wiring text writes =>
      rw [List.forall_mem_singleton] at writable
      cases writes with
      | @stage lead row isLead isRow =>
          obtain ⟨front, gap, rfl, isGap, isFront, token, character, isLast, ends, isEnd,
            isPlain⟩ := isRow.trimmed writable.tokens
          refine ⟨lead ++ front, gap, by simp, isGap, .last (.stage isLead isFront), wiring, token,
            character, rfl, isLast, ends, ?_, isPlain⟩
          simp [List.getLast?_append, isEnd]
  | @cons wiring text rest others writes later ih =>
      rw [List.forall_mem_cons] at writable
      obtain ⟨front, gap, rfl, isGap, isFront, last, token, character, isLast, isToken, ends, isEnd,
        isPlain⟩ := ih writable.2
      refine ⟨text ++ '|' :: front, gap, by simp, isGap, .cons writes isFront, last, token,
        character, ?_, isToken, ends, ?_, isPlain⟩
      · simp [List.getLast?_cons, isLast]
      · simp [List.getLast?_append, List.getLast?_cons, isEnd]

theorem WritesStage.is_stage {wiring : Wiring} {text : List Char} (writes : WritesStage wiring text)
    (writable : wiring.IsWritable) :
    '|' ∉ text ∧ text ≠ [] ∧ ∃ stage, IsStage text (.ok stage) ∧ wiringOf stage = wiring := by
  cases writes with
  | @stage lead row isLead isRow =>
      have hasWords := HasWords.gap_append isLead (isRow.has_words writable.tokens)
      refine ⟨?_, ?_, _, .stage hasWords writable.reads, rfl⟩
      · simp [isLead.no_bar, isRow.no_bar writable.tokens]
      · intro empty
        rw [empty, has_words_iff] at hasWords
        exact writable.tokens_nonempty hasWords.symm

theorem WritesStages.means {stages : List Wiring} {text : List Char}
    (writes : WritesStages stages text) (writable : ∀ wiring ∈ stages, wiring.IsWritable) :
    ∃ pieces found, HasPieces text pieces ∧ (∀ piece ∈ pieces, piece ≠ []) ∧
      List.Forall₂ (fun piece stage => IsStage piece (.ok stage)) pieces found ∧
      found.map wiringOf = stages ∧ found ≠ [] := by
  induction writes with
  | @last wiring text writes =>
      rw [List.forall_mem_singleton] at writable
      obtain ⟨noBar, nonempty, stage, isStage, rfl⟩ := writes.is_stage writable
      exact ⟨[text], [stage], .last noBar, by simpa using nonempty, .cons isStage .nil, rfl,
        List.cons_ne_nil _ _⟩
  | @cons wiring text rest others writes later ih =>
      rw [List.forall_mem_cons] at writable
      obtain ⟨noBar, nonempty, stage, isStage, rfl⟩ := writes.is_stage writable.1
      obtain ⟨pieces, found, hasPieces, allNonempty, inOrder, rfl, -⟩ := ih writable.2
      refine ⟨text :: pieces, stage :: found, .cons noBar hasPieces, ?_, .cons isStage inOrder, rfl,
        List.cons_ne_nil _ _⟩
      rw [List.forall_mem_cons]
      exact ⟨nonempty, allNonempty⟩

theorem WritesLine.divides {stages : List Wiring} {mode : Mode} {text : List Char}
    (writes : WritesLine stages mode text) (writable : ∀ wiring ∈ stages, wiring.IsWritable) :
    ¬ IsGap text ∧ ∃ body, WritesStages stages body ∧ Divides text mode body := by
  have notBlank : ∀ {front : List Char} {character : Char}, front.getLast? = some character →
      isSeparator character = false → ∀ rest, ¬ IsGap (front ++ rest) := by
    intro front character isEnd isPlain rest isGap
    have separates := isGap character (List.mem_append_left _ (List.mem_of_getLast? isEnd))
    rw [isPlain] at separates
    cases separates
  cases writes with
  | @foreground text writes unmarked =>
      obtain ⟨front, gap, rfl, isGap, -, wiring, token, character, isLast, isToken, ends, isEnd,
        isPlain⟩ := writes.trimmed writable
      refine ⟨notBlank isEnd isPlain gap, front ++ gap, writes, .foreground ?_⟩
      intro before tail isTail isText
      have trimmed : trimEnd isSeparator (front ++ gap) = front :=
        trim_end_append isGap fun other isOther => by simp_all
      rw [isText, trim_end_of_ampersand isTail] at trimmed
      rw [← trimmed, List.getLast?_concat, Option.some.injEq] at isEnd
      rw [← isEnd] at ends
      exact unmarked wiring isLast token isToken ends
  | @background text gap tail writes isGap isTail =>
      obtain ⟨front, behind, rfl, isBehind, isFront, -, -, character, -, -, -, isEnd, isPlain⟩ :=
        writes.trimmed writable
      rw [List.append_assoc front, List.append_assoc front]
      refine ⟨notBlank isEnd isPlain _, front, isFront, ?_⟩
      rw [← List.append_assoc front]
      refine .background (isBehind.append isGap) isTail fun other isOther => ?_
      rw [isEnd, Option.some.injEq] at isOther
      exact isOther ▸ isPlain

/-- Whatever separators are written, reading a line gives back the stages that it was written
from. -/
theorem parse_gives_back_stages {stages : List Wiring} {mode : Mode} {line : String}
    (writes : WritesLine stages mode line.toList)
    (writable : ∀ wiring ∈ stages, wiring.IsWritable) :
    ∃ job, parse line = .ok (some job) ∧ job.text = line ∧ job.mode = mode ∧
      job.stages.map wiringOf = stages := by
  obtain ⟨notBlank, body, writesBody, divides⟩ := writes.divides writable
  obtain ⟨pieces, found, hasPieces, nonempty, inOrder, isFound, someStage⟩ :=
    writesBody.means writable
  have kept : (pieces.filter fun piece => !piece.isEmpty) = pieces := by
    rw [List.filter_eq_self]
    exact fun piece member => by simp [nonempty piece member]
  rw [← kept] at inOrder
  exact ⟨_, means_iff.mp (.job notBlank divides hasPieces someStage inOrder), rfl, rfl, isFound⟩

/-- A line with a tab, with paths that look like operators, with a bar between two letters and
with the ampersand at an argument that has another one. -/
theorem parse_gives_back_stages_sort_to_wc :
    ∃ job, parse "sort\t-r <  < > >|wc &a&" = .ok (some job) ∧
      job.text = "sort\t-r <  < > >|wc &a&" ∧ job.mode = .background ∧
        job.stages.map wiringOf =
          [⟨["sort", "-r"], some "<", some ">"⟩, ⟨["wc", "&a"], none, none⟩] := by
  have sort : IsRow ["sort".toList, "-r".toList, ['<'], ['<'], ['>'], ['>']]
      "sort\t-r <  < > >".toList :=
    @IsRow.cons _ ['\t'] _ _ (by decide) (by decide) <|
      @IsRow.cons _ [' '] _ _ (by decide) (by decide) <|
        @IsRow.cons _ [' ', ' '] _ _ (by decide) (by decide) <|
          @IsRow.cons _ [' '] _ _ (by decide) (by decide) <|
            @IsRow.cons _ [' '] _ _ (by decide) (by decide) <| @IsRow.last _ [] (by decide)
  have wc : IsRow ["wc".toList, "&a".toList] "wc &a".toList :=
    @IsRow.cons _ [' '] _ _ (by decide) (by decide) <| @IsRow.last _ [] (by decide)
  have stages : WritesStages [⟨["sort", "-r"], some "<", some ">"⟩, ⟨["wc", "&a"], none, none⟩]
      "sort\t-r <  < > >|wc &a".toList :=
    .cons (@WritesStage.stage ⟨["sort", "-r"], some "<", some ">"⟩ [] _ (by decide) sort)
      (.last (@WritesStage.stage ⟨["wc", "&a"], none, none⟩ [] _ (by decide) wc))
  exact parse_gives_back_stages (@WritesLine.background _ _ [] [] stages (by decide) (by decide))
    (by decide)

end JobShell.Line
