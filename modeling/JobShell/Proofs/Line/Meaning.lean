import JobShell.Proofs.Line.Grammar
import JobShell.Proofs.Line.Reading
import Mathlib.Data.List.DropRight
import Mathlib.Data.List.Forall2

/-!
# Reading a line finds its meaning

Every line has exactly one meaning, and reading the line gives it. The only fault is an
operator without a word behind it in its piece; the grammar refuses nothing.
-/

namespace JobShell.Line

set_option autoImplicit false

theorem trim_end_eq {α : Type} (test : α → Bool) (elements : List α) :
    trimEnd test elements = elements.rdropWhile test :=
  rfl

theorem trim_end_parts (text : List Char) :
    ∃ tail, text = trimEnd isSeparator text ++ tail ∧ IsGap tail ∧
      ∀ character, (trimEnd isSeparator text).getLast? = some character →
        isSeparator character = false := by
  refine ⟨text.rtakeWhile isSeparator, ?_, fun character member => ?_, fun character isLast => ?_⟩
  · rw [trim_end_eq, List.rdropWhile_append_rtakeWhile]
  · exact List.mem_rtakeWhile_imp member
  · have nonempty : trimEnd isSeparator text ≠ [] := by
      intro empty
      simp [empty] at isLast
    have last := List.rdropWhile_last_not isSeparator text nonempty
    rw [List.getLast?_eq_some_getLast nonempty] at isLast
    cases isLast
    exact eq_false_of_ne_true last

theorem trim_end_append {front tail : List Char} (isGap : IsGap tail)
    (trimmed : ∀ character, front.getLast? = some character → isSeparator character = false) :
    trimEnd isSeparator (front ++ tail) = front := by
  rw [trim_end_eq]
  induction tail using List.reverseRecOn with
  | nil =>
      rw [List.append_nil, List.rdropWhile_eq_self_iff]
      intro nonempty
      simp [trimmed _ (List.getLast?_eq_some_getLast nonempty)]
  | append_singleton tail character ih =>
      rw [IsGap, List.forall_mem_append] at isGap
      have separates : isSeparator character = true := isGap.2 character (by simp)
      rw [← List.append_assoc, List.rdropWhile_concat, if_pos separates]
      exact ih isGap.1

theorem trim_end_of_ampersand {front tail : List Char} (isTail : IsGap tail) :
    trimEnd isSeparator (front ++ '&' :: tail) = front ++ ['&'] := by
  rw [← List.singleton_append, ← List.append_assoc]
  refine trim_end_append isTail fun character isLast => ?_
  rw [List.getLast?_concat] at isLast
  cases isLast
  decide

theorem split_of_ampersand {front tail : List Char} (isTail : IsGap tail) :
    splitMode (front ++ '&' :: tail) = (.background, trimEnd isSeparator front) := by
  rw [splitMode, trim_end_of_ampersand isTail, List.reverse_append]
  simp

theorem split_of_no_ampersand {text : List Char}
    (unmarked : ∀ before tail, IsGap tail → text ≠ before ++ '&' :: tail) :
    splitMode text = (.foreground, text) := by
  obtain ⟨tail, isText, isTail, -⟩ := trim_end_parts text
  rw [splitMode]
  split
  · rename_i body isReverse
    rw [List.reverse_eq_iff, List.reverse_cons] at isReverse
    rw [isReverse, List.append_assoc, List.singleton_append] at isText
    exact absurd isText (unmarked _ _ isTail)
  · rfl

theorem divides_iff {text body : List Char} {mode : Mode} :
    Divides text mode body ↔ splitMode text = (mode, body) := by
  constructor
  · intro divides
    cases divides with
    | background isGap isTail trimmed =>
        rw [split_of_ampersand isTail, trim_end_append isGap trimmed]
    | foreground unmarked => exact split_of_no_ampersand unmarked
  · intro isSplit
    by_cases marked : ∃ before tail, IsGap tail ∧ text = before ++ '&' :: tail
    · obtain ⟨before, tail, isTail, rfl⟩ := marked
      rw [split_of_ampersand isTail] at isSplit
      cases isSplit
      obtain ⟨gap, isBefore, isGap, trimmed⟩ := trim_end_parts before
      have divides := Divides.background isGap isTail trimmed
      rwa [← isBefore] at divides
    · have unmarked : ∀ before tail, IsGap tail → text ≠ before ++ '&' :: tail :=
        fun before tail isTail isText => marked ⟨before, tail, isTail, isText⟩
      rw [split_of_no_ampersand unmarked] at isSplit
      cases isSplit
      exact .foreground unmarked

theorem stages_ok_iff {found : List (List Char)} {result : List Stage} :
    stages found = .ok result ↔
      List.Forall₂ (fun piece stage => IsStage piece (.ok stage)) found result := by
  simp only [is_stage_iff]
  induction found generalizing result with
  | nil =>
      rw [List.forall₂_nil_left_iff, stages, Except.ok.injEq]
      exact eq_comm
  | cons piece found ih =>
      simp only [List.forall₂_cons_left_iff, ← ih, stages]
      cases stage piece <;> cases stages found <;>
        simp [bind, Except.bind, pure, Except.pure, eq_comm]

theorem stages_error_iff {found : List (List Char)} {missing : MissingPath} :
    stages found = .error missing ↔
      ∃ before piece after, found = before ++ piece :: after ∧
        (∀ earlier ∈ before, ∃ stage, IsStage earlier (.ok stage)) ∧
        IsStage piece (.error missing) := by
  constructor
  · intro fails
    induction found with
    | nil => cases fails
    | cons piece found ih =>
        cases isFirst : stage piece with
        | error first =>
            rw [stages, isFirst] at fails
            cases fails
            exact ⟨[], piece, found, rfl, by simp, is_stage_iff.mpr isFirst⟩
        | ok first =>
            have later : stages found = .error missing := by
              rw [stages, isFirst] at fails
              cases isLater : stages found with
              | error other => rw [isLater] at fails; exact fails
              | ok others => rw [isLater] at fails; cases fails
            obtain ⟨before, faulty, after, rfl, fine, isFaulty⟩ := ih later
            refine ⟨piece :: before, faulty, after, rfl, ?_, isFaulty⟩
            rw [List.forall_mem_cons]
            exact ⟨⟨first, is_stage_iff.mpr isFirst⟩, fine⟩
  · rintro ⟨before, piece, after, rfl, fine, isFaulty⟩
    induction before with
    | nil => rw [List.nil_append, stages, is_stage_iff.mp isFaulty]; rfl
    | cons earlier before ih =>
        rw [List.forall_mem_cons] at fine
        obtain ⟨⟨first, isFirst⟩, fine⟩ := fine
        rw [List.cons_append, stages, is_stage_iff.mp isFirst, ih fine]
        rfl

theorem stages_fail_iff {found : List (List Char)} :
    (∃ missing, stages found = .error missing) ↔
      ∃ piece ∈ found, ∃ missing, IsStage piece (.error missing) := by
  constructor
  · rintro ⟨missing, fails⟩
    obtain ⟨before, piece, after, rfl, -, faulty⟩ := stages_error_iff.mp fails
    exact ⟨piece, by simp, missing, faulty⟩
  · rintro ⟨piece, member, missing, faulty⟩
    cases isRead : stages found with
    | error other => exact ⟨other, rfl⟩
    | ok result =>
        have inOrder := (stages_ok_iff.mp isRead).imp fun piece stage isStage =>
          (⟨⟨stage, isStage⟩, isStage⟩ : (∃ stage, IsStage piece (.ok stage)) ∧ _)
        obtain ⟨stage, isStage⟩ := ((List.forall₂_and_left _ _).mp inOrder).1 piece member
        rw [is_stage_iff] at isStage faulty
        rw [isStage] at faulty
        cases faulty

theorem parse_of_blank {line : String} (isGap : IsGap line.toList) : parse line = .ok none := by
  rw [parse, if_pos (List.all_eq_true.mpr isGap)]

theorem parse_of_not_blank {line : String} {mode : Mode} {body : List Char}
    (notBlank : ¬ IsGap line.toList) (divides : Divides line.toList mode body) :
    parse line = (stages (pieces body)).map fun found =>
      if found.isEmpty then none else some ⟨line, mode, found⟩ := by
  rw [parse, if_neg fun all => notBlank (List.all_eq_true.mp all)]
  simp only [divides_iff.mp divides]
  cases stages (pieces body) with
  | error missing => rfl
  | ok found => cases found <;> rfl

theorem filter_nonempty_eq_nil {found : List (List Char)} :
    (found.filter fun piece => !piece.isEmpty) = [] ↔ ∀ piece ∈ found, piece = [] := by
  simp [List.filter_eq_nil_iff]

theorem means_iff {line : String} {result : Except MissingPath (Option Job)} :
    Means line result ↔ parse line = result := by
  constructor
  · intro means
    cases means with
    | blank isGap => exact parse_of_blank isGap
    | empty notBlank divides hasPieces allEmpty =>
        rw [parse_of_not_blank notBlank divides, pieces, nonemptyParts,
          has_pieces_iff.mp hasPieces, filter_nonempty_eq_nil.mpr allEmpty]
        rfl
    | fault notBlank divides hasPieces nonempty fine faulty =>
        have faults := stages_error_iff.mpr ⟨_, _, _, nonempty, fine, faulty⟩
        rw [← has_pieces_iff.mp hasPieces] at faults
        rw [parse_of_not_blank notBlank divides, pieces, nonemptyParts, faults]
        rfl
    | job notBlank divides hasPieces nonempty inOrder =>
        have succeeds := stages_ok_iff.mpr inOrder
        rw [← has_pieces_iff.mp hasPieces] at succeeds
        rw [parse_of_not_blank notBlank divides, pieces, nonemptyParts, succeeds]
        simp [Except.map, nonempty]
  · rintro rfl
    by_cases isGap : IsGap line.toList
    · rw [parse_of_blank isGap]
      exact .blank isGap
    · obtain ⟨⟨mode, body⟩, isSplit⟩ : ∃ split, splitMode line.toList = split := ⟨_, rfl⟩
      have divides := divides_iff.mpr isSplit
      have hasPieces : HasPieces body (partsAt isBar body) := has_pieces_iff.mpr rfl
      rw [parse_of_not_blank isGap divides]
      cases isRead : stages (pieces body) with
      | error missing =>
          obtain ⟨before, piece, after, nonempty, fine, faulty⟩ := stages_error_iff.mp isRead
          exact .fault isGap divides hasPieces nonempty fine faulty
      | ok found =>
          have inOrder := stages_ok_iff.mp isRead
          cases found with
          | nil =>
              have noPiece : pieces body = [] := by simpa using inOrder
              exact .empty isGap divides hasPieces (filter_nonempty_eq_nil.mp noPiece)
          | cons first others =>
              exact .job isGap divides hasPieces (List.cons_ne_nil _ _) inOrder

theorem wiring_of_plain {found : List (List Char)}
    (plain : ∀ word ∈ found, direction? word = none) :
    wiring found = .ok ⟨found.map String.ofList, none, none⟩ := by
  induction found with
  | nil => rfl
  | cons word found ih =>
      rw [List.forall_mem_cons] at plain
      rw [wiring_argument found plain.1, ih plain.2]
      rfl

theorem parse_of_words {line : String} {found : List (List Char)}
    (has : HasWords line.toList found) (nonempty : found ≠ []) (noBar : '|' ∉ line.toList)
    (noMark : '&' ∉ line.toList) (plain : ∀ word ∈ found, direction? word = none) :
    parse line = .ok (some ⟨line, .foreground,
      [⟨String.ofList (line.toList.dropWhile (· == ' ')), found.map String.ofList, none,
        none⟩]⟩) := by
  have notBlank : ¬ IsGap line.toList := by
    intro isGap
    rw [← words_of_has_words has] at nonempty
    exact nonempty (words_of_gap isGap)
  have notEmpty : line.toList ≠ [] := by
    intro empty
    rw [empty] at notBlank
    exact notBlank (List.forall_mem_nil _)
  have divides : Divides line.toList .foreground line.toList := by
    refine .foreground fun before tail _ marked => noMark ?_
    rw [marked]
    simp
  have onePiece : pieces line.toList = [line.toList] :=
    nonempty_parts_of_plain notEmpty (plain_of_no_bar noBar)
  rw [parse_of_not_blank notBlank divides, onePiece]
  simp only [stages, stage, words_of_has_words has, wiring_of_plain plain]
  rfl

theorem parse_job_text {line : String} {job : Job} (reads : parse line = .ok (some job)) :
    job.text = line := by
  cases means_iff.mpr reads
  rfl

theorem kind_builtin_iff {stage : Stage} {command : Builtin} :
    stage.kind = .builtin command ↔ stage.arguments.head? = some command.name := by
  rw [Stage.kind]
  cases stage.arguments with
  | nil => simp [Kind.ofArguments]
  | cons name others =>
      rw [Kind.ofArguments, List.head?_cons, Option.some.injEq]
      constructor
      · intro isBuiltin
        cases isNamed : Builtin.named? name with
        | none => simp [isNamed] at isBuiltin
        | some found =>
            simp only [isNamed, Kind.builtin.injEq] at isBuiltin
            have matching := List.find?_some isNamed
            rw [isBuiltin, beq_iff_eq] at matching
            exact matching.symm
      · rintro rfl
        rw [Builtin.named_name]

theorem stage_of_nothing : IsStage [] (.ok ⟨"", [], none, none⟩) :=
  is_stage_iff.mpr rfl

/-- A line is refused only for an operator that is the last word of its piece. -/
theorem parse_fails_iff {line : String} :
    (∃ missing, parse line = .error missing) ↔
      ¬ IsGap line.toList ∧ ∃ mode body pieces, Divides line.toList mode body ∧
        HasPieces body pieces ∧ ∃ piece ∈ pieces, ∃ missing, IsStage piece (.error missing) := by
  constructor
  · rintro ⟨missing, fails⟩
    cases means_iff.mpr fails with
    | @fault mode body piece pieces before after _ notBlank divides hasPieces nonempty fine
        faulty =>
        have member : piece ∈ pieces := by
          have among : piece ∈ pieces.filter fun piece => !piece.isEmpty := by simp [nonempty]
          exact List.mem_of_mem_filter among
        exact ⟨notBlank, mode, body, pieces, divides, hasPieces, piece, member, missing, faulty⟩
  · rintro ⟨notBlank, mode, body, found, divides, hasPieces, piece, member, missing, faulty⟩
    have nonempty : piece ≠ [] := by
      rintro rfl
      have isStage := is_stage_iff.mp faulty
      rw [is_stage_iff.mp stage_of_nothing] at isStage
      cases isStage
    have among : piece ∈ pieces body := by
      rw [pieces, nonemptyParts, has_pieces_iff.mp hasPieces]
      simp [member, nonempty]
    obtain ⟨other, fails⟩ := stages_fail_iff.mpr ⟨piece, among, missing, faulty⟩
    exact ⟨other, by rw [parse_of_not_blank notBlank divides, fails]; rfl⟩

/-- The meaning of a line, what makes it a fault, what the grammar leaves of it, and what
runs a stage. -/
theorem line_has_one_meaning (line : String) :
    (∀ result, parse line = result ↔ Means line result) ∧
      ((∃ missing, parse line = .error missing) ↔
        ¬ IsGap line.toList ∧ ∃ mode body pieces, Divides line.toList mode body ∧
          HasPieces body pieces ∧ ∃ piece ∈ pieces, ∃ missing, IsStage piece (.error missing)) ∧
      (∀ body, ∃ nodes, Expression.line.take 0 body = some (nodes, []) ∧
        HasPieces body ((Node.segments nodes).map Prod.fst) ∧
        ∀ segment ∈ Node.segments nodes, HasWords segment.1 segment.2) ∧
      ∀ (stage : Stage) (command : Builtin),
        stage.kind = .builtin command ↔ stage.arguments.head? = some command.name := by
  refine ⟨fun result => means_iff.symm, parse_fails_iff, fun body => ?_,
    fun stage command => kind_builtin_iff⟩
  refine ⟨_, Expression.take_line body, ?_, ?_⟩
  · rw [Node.segments_of_line, List.map_map, has_pieces_iff]
    exact (List.map_id _).symm
  · rw [Node.segments_of_line, List.forall_mem_map]
    exact fun piece _ => has_words_words piece

end JobShell.Line
