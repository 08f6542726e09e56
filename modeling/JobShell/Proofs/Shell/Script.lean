import Mathlib.Data.List.DropRight
import JobShell.Proofs.Launch.Descriptors
import JobShell.Proofs.Line.Meaning
import JobShell.Proofs.Program.Delivery
import JobShell.Proofs.Shell.Calls
import JobShell.Proofs.Text.Lossy
import JobShell.Shell.Reader

/-!
# Evaluating a script

A shell that is not interactive reads a script from its standard input. The blocks in which
the input comes have nothing to do with its lines: what is left of a block belongs to the next
line, and a line may need any number of blocks. Whatever the blocks are and whatever becomes
of a line, the shell takes one turn for each command of the decoded script, in their order,
unless a report of a failure is refused: that ends the process.
-/

namespace JobShell.Shell

open Unix Text

set_option autoImplicit false

/-- The first line of some bytes, with its line feed if it has one, and the bytes behind it. -/
inductive FirstLine : List UInt8 → List UInt8 → List UInt8 → Prop where
  | ended {line behind : List UInt8} (noFeed : 10 ∉ line) :
      FirstLine (line ++ 10 :: behind) (line ++ [10]) behind
  | last {line : List UInt8} (noFeed : 10 ∉ line) : FirstLine line line []

theorem FirstLine.append_eq {script line behind : List UInt8}
    (first : FirstLine script line behind) : script = line ++ behind := by
  cases first with
  | ended noFeed => simp
  | last noFeed => simp

theorem FirstLine.nothing {script behind : List UInt8} (first : FirstLine script [] behind) :
    script = [] ∧ behind = [] := by
  generalize isLine : ([] : List UInt8) = line at first
  cases first with
  | ended noFeed => simp at isLine
  | last noFeed =>
      subst isLine
      exact ⟨rfl, rfl⟩

def bareLine (line : List Char) : String :=
  String.ofList (line.rdropWhile (· == '\r'))

/-- The commands of a script: its lines without carriage returns at their ends, less those
that are blank then. -/
def commands (script : List Char) : List String :=
  ((script.splitOn '\n').map bareLine).filter fun command => !isBlank command

section

variable {bytes pending started : ByteArray} {cut : ReadLine} {left final : List UInt8}
  {turns : Nat} {trace : Trace}

theorem is_empty_iff : bytes.isEmpty = true ↔ bytes.data.toList = [] := by
  rw [← List.length_eq_zero_iff]
  exact beq_iff_eq

theorem cut_line_none_iff : cutLine bytes = none ↔ 10 ∉ bytes.data.toList := by
  unfold cutLine
  rw [Option.map_eq_none_iff, Array.findIdx?_eq_none_iff]
  constructor
  · intro whole member
    exact absurd (whole 10 (Array.mem_toList_iff.mp member)) (by decide)
  · intro noFeed byte member
    refine beq_eq_false_iff_ne.mpr fun isFeed => noFeed ?_
    rw [← isFeed]
    exact Array.mem_toList_iff.mpr member

theorem cut_line_some (found : cutLine bytes = some cut) :
    ∃ front, 10 ∉ front ∧ cut.line.data.toList = front ++ [10] ∧
      bytes.data.toList = front ++ 10 :: cut.rest.data.toList := by
  unfold cutLine at found
  obtain ⟨index, isIndex, rfl⟩ := Option.map_eq_some_iff.mp found
  obtain ⟨within, isFeed, isFirst⟩ := Array.findIdx?_eq_some_iff_getElem.mp isIndex
  have inside : index < bytes.data.toList.length := within
  have isTen : bytes.data.toList[index] = 10 := beq_iff_eq.mp isFeed
  have rest : (bytes.extract (index + 1) bytes.size).data.toList =
      bytes.data.toList.drop (index + 1) := by
    rw [ByteArray.data_extract, Array.toList_extract, List.extract_eq_take_drop]
    refine List.take_of_length_le (Nat.le_of_eq ?_)
    rw [List.length_drop]
    rfl
  refine ⟨bytes.data.toList.take index, ?_, ?_, ?_⟩
  · intro member
    obtain ⟨earlier, before, isTenEarlier⟩ := List.mem_take_iff_getElem.mp member
    exact isFirst earlier (by omega) (beq_iff_eq.mpr isTenEarlier)
  · rw [ByteArray.data_extract, Array.toList_extract, List.extract_eq_take_drop, List.drop_zero,
      Nat.sub_zero, List.take_succ_eq_append_getElem within, isTen]
  · rw [rest, ← isTen, List.getElem_cons_drop, List.take_append_drop]

def readOn (turns : Nat) (started : ByteArray) :
    Except Errno ByteArray → Program (Except Errno ReadLine)
  | .error errno => .done (.error errno)
  | .ok block =>
    if block.isEmpty then .done (.ok ⟨started, .empty⟩) else readLine turns started block

theorem read_line_of_cut (found : cutLine pending = some cut) :
    readLine (turns + 1) started pending = .done (.ok ⟨started ++ cut.line, cut.rest⟩) := by
  rw [readLine, found]
  rfl

theorem read_line_of_whole (whole : cutLine pending = none) :
    readLine (turns + 1) started pending =
      .call (.read standardInput blockSize) (readOn turns (started ++ pending)) := by
  rw [readLine, whole]
  refine congrArg (Program.call (.read standardInput blockSize)) (funext fun reply => ?_)
  cases reply <;> rfl

theorem read_line_only_reads (turns : Nat) (started pending : ByteArray) :
    (readLine turns started pending).OnlyCalls (Call.readsFrom standardInput) := by
  induction turns generalizing started pending with
  | zero => exact trivial
  | succ turns ih =>
      cases found : cutLine pending with
      | some cut =>
          rw [read_line_of_cut found]
          exact trivial
      | none =>
          rw [read_line_of_whole found]
          refine ⟨rfl, fun reply => ?_⟩
          cases reply with
          | error errno => exact trivial
          | ok block =>
              unfold readOn
              dsimp only
              split
              · exact trivial
              · exact ih _ _

theorem read_line_returns {result : Except Errno ReadLine}
    (returns : (readLine turns started pending).Returns trace result)
    (delivers : Delivers standardInput left trace final) (enough : left.length < turns)
    (noFeed : 10 ∉ started.data.toList) :
    ∃ read, result = .ok read ∧
      FirstLine (started.data.toList ++ pending.data.toList ++ left) read.line.data.toList
        (read.rest.data.toList ++ final) := by
  -- A block that does not complete the line leaves one turn fewer and fewer bytes to come.
  induction turns generalizing started pending left trace with
  | zero => exact absurd enough (Nat.not_lt_zero _)
  | succ turns ih =>
      cases found : cutLine pending with
      | some cut =>
          rw [read_line_of_cut found] at returns
          obtain ⟨rfl, rfl⟩ := Program.returns_done_iff.mp returns
          obtain ⟨front, noFeedInFront, isLine, isWhole⟩ := cut_line_some found
          obtain rfl := delivers_nil_iff.mp delivers
          refine ⟨_, rfl, ?_⟩
          have first : FirstLine
              (started.data.toList ++ front ++ 10 :: (cut.rest.data.toList ++ final)) _ _ :=
            .ended (by simp [noFeed, noFeedInFront])
          simpa [ByteArray.data_append, isLine, isWhole] using first
      | none =>
          have noFeedSoFar : 10 ∉ (started ++ pending).data.toList := by
            simp [ByteArray.data_append, noFeed, cut_line_none_iff.mp found]
          rw [read_line_of_whole found] at returns
          obtain ⟨reply, later, rfl, going⟩ := Program.returns_call_iff.mp returns
          obtain ⟨block, rest, rfl, rfl, ends, delivers⟩ := delivers.of_read
          unfold readOn at going
          dsimp only at going
          split at going
          · rename_i atEnd
            obtain ⟨rfl, rfl⟩ := Program.returns_done_iff.mp going
            obtain rfl := delivers_nil_iff.mp delivers
            have nothing := is_empty_iff.mp atEnd
            obtain rfl : final = [] :=
              (ends (List.length_eq_zero_iff.mpr nothing)).resolve_left (Nat.succ_ne_zero _)
            refine ⟨_, rfl, ?_⟩
            have first := FirstLine.last noFeedSoFar
            simpa [ByteArray.data_append, nothing] using first
          · rename_i goesOn
            have shorter : rest.length < turns := by
              have nonempty : 0 < block.data.toList.length :=
                List.length_pos_iff.mpr fun none => goesOn (is_empty_iff.mpr none)
              rw [List.length_append] at enough
              omega
            obtain ⟨read, rfl, first⟩ := ih going delivers shorter noFeedSoFar
            refine ⟨read, rfl, ?_⟩
            simpa [ByteArray.data_append] using first

theorem bare_without_line_feed {text : List Char} (noFeed : '\n' ∉ text) :
    text.rdropWhile (fun character => character == '\n' || character == '\r') =
      text.rdropWhile (· == '\r') := by
  induction text using List.reverseRecOn with
  | nil => rfl
  | append_singleton text character ih =>
      rw [List.mem_append, List.mem_singleton, not_or] at noFeed
      have different : (character == '\n') = false := beq_eq_false_iff_ne.mpr (Ne.symm noFeed.2)
      simp only [List.rdropWhile_concat, different, Bool.false_or, ih noFeed.1]

theorem command_of_line {bytes : ByteArray} {front : List UInt8} (noFeed : 10 ∉ front)
    (isLine : bytes.data.toList = front ++ [10] ∨ bytes.data.toList = front) :
    commandOf bytes = bareLine (Utf8.decode front).toList := by
  have noFeedDecoded : '\n' ∉ (Utf8.decode front).toList := by
    rwa [Utf8.line_feed_in_decoded_iff]
  unfold commandOf bareLine Utf8.decodeArray
  rw [Line.trim_end_eq, ← bare_without_line_feed noFeedDecoded]
  rcases isLine with ended | last
  · rw [ended, Utf8.decode_line]
    exact congrArg String.ofList (List.rdropWhile_concat_pos _ _ _ rfl)
  · rw [last]

theorem nothing_commands : commands (Utf8.decode []).toList = [] := by
  change commands [] = []
  simp [commands, bareLine, is_blank_empty]

theorem commands_of_first_line {script behind : List UInt8}
    (first : FirstLine script bytes.data.toList behind) :
    commands (Utf8.decode script).toList =
      (if isBlank (commandOf bytes) then [] else [commandOf bytes]) ++
        commands (Utf8.decode behind).toList := by
  generalize isLine : bytes.data.toList = own at first
  have single (command : String) : [command].filter (fun command => !isBlank command) =
      if isBlank command then [] else [command] := by
    cases blank : isBlank command <;> simp [blank]
  cases first with
  | @ended front behind noFeed =>
      have noFeedDecoded : '\n' ∉ (Utf8.decode front).toList := by
        rwa [Utf8.line_feed_in_decoded_iff]
      rw [command_of_line noFeed (.inl isLine), ← single]
      unfold commands
      rw [Utf8.decode_line, Utf8.split_on_cons noFeedDecoded, List.map_cons, ← List.filter_append]
      rfl
  | last noFeed =>
      have noFeedDecoded : '\n' ∉ (Utf8.decode script).toList := by
        rwa [Utf8.line_feed_in_decoded_iff]
      rw [command_of_line noFeed (.inr isLine), ← single, nothing_commands, List.append_nil]
      unfold commands
      rw [Utf8.split_on_of_not_mem noFeedDecoded, List.map_singleton]

end

/-! ## The turns of a script -/

/-- The calls after a turn: a failure is written to the standard error. -/
def Reports (outcome : Except ShellError (Option StageState)) (said : Trace) : Prop :=
  match outcome with
  | .ok _ => said = []
  | .error failure => (report failure).Returns said ()

/-- Turns that a shell takes along a trace, from one state to another. Between the turns the
trace reads the standard input. -/
inductive Worked (context : Context) : Shell → Trace → List Turn → Shell → Prop where
  | ended (shell : Shell) : Worked context shell [] [] shell
  | read {shell final : Shell} {limit : Nat} {reply : Except Errno ByteArray} {trace : Trace}
      {turns : List Turn} (later : Worked context shell trace turns final) :
      Worked context shell (⟨.read standardInput limit, reply⟩ :: trace) turns final
  | turn {turn : Turn} {final : Shell} {said trace : Trace} {turns : List Turn}
      (happens : turn.Happens) (isHere : turn.context = context)
      (reports : Reports turn.outcome said) (later : Worked context turn.after trace turns final) :
      Worked context turn.before (turn.calls ++ said ++ trace) (turn :: turns) final

section

variable {context : Context} {shell final : Shell} {trace : Trace} {taken : List Turn}

theorem Worked.evaluated (worked : Worked context shell trace taken final) :
    shell.Evaluated taken final := by
  induction worked with
  | ended shell => exact .start
  | read later ih => exact ih
  | turn happens isHere reports later ih => exact .cons happens ih

theorem evaluate_line_returns {bytes : ByteArray} {after : Shell}
    (returns : (shell.evaluateLine context bytes).Returns trace after) :
    isBlank (commandOf bytes) = true ∧ trace = [] ∧ after = shell ∨
      isBlank (commandOf bytes) = false ∧ ∃ (turn : Turn) (said : Trace), turn.before = shell ∧
        turn.context = context ∧ turn.input = commandOf bytes ∧ turn.after = after ∧
        turn.Happens ∧ Reports turn.outcome said ∧ trace = turn.calls ++ said := by
  unfold evaluateLine at returns
  dsimp only at returns
  cases blank : isBlank (commandOf bytes) with
  | true =>
      rw [if_pos blank] at returns
      obtain ⟨rfl, rfl⟩ := Program.returns_done_iff.mp returns
      exact .inl ⟨rfl, rfl, rfl⟩
  | false =>
      rw [if_neg (Bool.eq_false_iff.mp blank)] at returns
      obtain ⟨calls, said, ⟨left, outcome⟩, rfl, evaluates, reporting⟩ :=
        Program.returns_bind_iff.mp returns
      refine .inr ⟨rfl, ⟨shell, context, commandOf bytes, calls, left, outcome⟩, said, rfl, rfl,
        rfl, ?_⟩
      cases outcome with
      | ok state =>
          obtain ⟨rfl, rfl⟩ := Program.returns_done_iff.mp reporting
          exact ⟨rfl, evaluates, rfl, rfl⟩
      | error failure =>
          obtain ⟨saying, last, _, rfl, told, ended⟩ := Program.returns_bind_iff.mp reporting
          obtain ⟨rfl, rfl⟩ := Program.returns_done_iff.mp ended
          rw [List.append_nil]
          exact ⟨rfl, evaluates, told, rfl⟩

def goOn (turns : Nat) (context : Context) (lines : Nat) (shell : Shell) :
    Except Errno ReadLine → Program (Shell × Except ShellError Unit)
  | .error errno => .done (shell, .error (.explained "failed to read input" (.transfer errno)))
  | .ok read =>
    if read.line.isEmpty then .done (shell, .ok ())
    else (shell.evaluateLine context read.line).bind fun shell =>
      readLoop turns context lines shell read.rest

theorem go_on_of_end {turns lines : Nat} {read : ReadLine} (isEnd : read.line.isEmpty = true) :
    goOn turns context lines shell (.ok read) = .done (shell, .ok ()) :=
  if_pos isEnd

theorem go_on_of_line {turns lines : Nat} {read : ReadLine} (isLine : read.line.isEmpty = false) :
    goOn turns context lines shell (.ok read) =
      (shell.evaluateLine context read.line).bind fun shell =>
        readLoop turns context lines shell read.rest :=
  if_neg (Bool.eq_false_iff.mp isLine)

theorem read_loop_succ (piped : context.interactive = false) (turns lines : Nat) (shell : Shell)
    (pending : ByteArray) :
    readLoop turns context (lines + 1) shell pending =
      (readLine turns .empty pending).bind (goOn turns context lines shell) := by
  have silent : shell.prompt context = .done () := by
    simp only [prompt, piped]
    rfl
  rw [readLoop, silent]
  change Program.bind (readLine turns .empty pending) _ = _
  refine congrArg (Program.bind _) (funext fun result => ?_)
  cases result with
  | error errno => rfl
  | ok read =>
      simp only [goOn, piped]
      rfl

theorem Worked.after_reads {reading : Trace}
    (reads : ∀ exchange ∈ reading, exchange.request.readsFrom standardInput = true)
    (worked : Worked context shell trace taken final) :
    Worked context shell (reading ++ trace) taken final := by
  induction reading with
  | nil => exact worked
  | cons exchange reading ih =>
      rw [List.forall_mem_cons] at reads
      obtain ⟨request, reply⟩ := exchange
      obtain ⟨limit, rfl⟩ := reads_from_iff.mp reads.1
      exact .read (ih reads.2)

/-- Writing a report was refused. A standard error that is closed refuses nothing. -/
def Refused (failure : ShellError) (said : Trace) : Prop :=
  ∃ errno, errno ≠ .badDescriptor ∧
    (Program.writeAll standardError (failure.userMessage ++ "\n").toUTF8).Returns said
      (.error errno)

theorem report_eq (failure : ShellError) :
    report failure =
      (Program.writeAll standardError (failure.userMessage ++ "\n").toUTF8).bind Program.printed :=
  Program.print_eq _ _

theorem report_asks {failure : ShellError} {said : Trace} {request : Call}
    {next : request.Reply → Program Unit}
    (follows : (report failure).Follows said (.call request next)) :
    request.writesTo standardError = true ∨
      Refused failure said ∧ request = .exit Program.panicCode := by
  rw [report_eq] at follows
  rcases Program.follows_bind_cases follows with
    ⟨asked, inner, inside, same⟩ | ⟨writing, behind, written, rfl, writes, going⟩
  · cases same
    have only : (Program.writeAll standardError (failure.userMessage ++ "\n").toUTF8).OnlyCalls
        (Call.writesTo standardError) :=
      Program.write_from_only_calls (fun _ => beq_self_eq_true standardError) _ _
    exact .inl (only.asks inside)
  · unfold Program.printed at going
    split at going
    · cases (Program.follows_done_iff.mp going).2
    · cases (Program.follows_done_iff.mp going).2
    · rename_i errno notClosed
      rcases Program.follows_call_iff.mp going with ⟨rfl, same⟩ | ⟨never, _⟩
      · cases same
        rw [List.append_nil]
        exact .inr ⟨⟨errno, notClosed, writes⟩, rfl⟩
      · cases never

theorem report_leaves_input {failure : ShellError} {said : Trace}
    (reports : (report failure).Returns said ()) :
    ∀ exchange ∈ said, exchange.request.readsFrom standardInput = false := by
  have quiet : (report failure).OnlyCalls fun call => !call.readsFrom standardInput :=
    Program.print_only_calls (fun _ => rfl) rfl _
  intro exchange member
  have other := quiet.along reports exchange member
  rwa [Bool.not_eq_true'] at other

theorem turn_leaves_input {turn : Turn} {said : Trace} (happens : turn.Happens)
    (reports : Reports turn.outcome said) :
    ∀ exchange ∈ turn.calls ++ said, exchange.request.readsFrom standardInput = false := by
  rw [List.forall_mem_append]
  constructor
  · intro exchange member
    refine Bool.eq_false_iff.mpr fun reads => ?_
    obtain ⟨limit, isRead⟩ := reads_from_iff.mp reads
    exact Call.not_reading_of_turn (happens.calls exchange member) standardInput limit isRead
  · unfold Reports at reports
    split at reports
    · simp [reports]
    · exact report_leaves_input reports

/-- How a script comes to its end. All of its commands have been evaluated, or the command
that is next has exited or sleeps for ever, or its failure could not be reported. -/
inductive ScriptEnds (context : Context) (shell : Shell) (commands : List String) :
    Trace → Program (Shell × Except ShellError Unit) → Prop where
  | returned {final : Shell} {trace : Trace} {taken : List Turn}
      (worked : Worked context shell trace taken final)
      (all : taken.map Turn.input = commands) :
      ScriptEnds context shell commands trace (.done (final, .ok ()))
  | inside {before : Shell} {trace own : Trace} {taken : List Turn} {command : String}
      {request : Call} {next : request.Reply → Program (Shell × Except ShellError Unit)}
      {inner : request.Reply → Program (Shell × Except ShellError (Option StageState))}
      (worked : Worked context shell trace taken before)
      (isNext : taken.map Turn.input ++ [command] <+: commands)
      (follows : (before.evaluate context command).Follows own (.call request inner)) :
      ScriptEnds context shell commands (trace ++ own) (.call request next)
  | refused {turn : Turn} {trace said : Trace} {taken : List Turn} {failure : ShellError}
      {next : (Call.exit Program.panicCode).Reply → Program (Shell × Except ShellError Unit)}
      (worked : Worked context shell trace taken turn.before)
      (isNext : taken.map Turn.input ++ [turn.input] <+: commands) (happens : turn.Happens)
      (isHere : turn.context = context) (failed : turn.outcome = .error failure)
      (refused : Refused failure said) :
      ScriptEnds context shell commands (trace ++ (turn.calls ++ said))
        (.call (.exit Program.panicCode) next)

section

variable {rest : Program (Shell × Except ShellError Unit)} {left remaining : List UInt8}
  {turns lines : Nat} {pending : ByteArray}

theorem ScriptEnds.after_reads {reading : Trace} {commands : List String}
    (reads : ∀ exchange ∈ reading, exchange.request.readsFrom standardInput = true)
    (ends : ScriptEnds context shell commands trace rest) :
    ScriptEnds context shell commands (reading ++ trace) rest := by
  cases ends with
  | returned worked all => exact .returned (worked.after_reads reads) all
  | inside worked isNext follows =>
      rw [← List.append_assoc]
      exact .inside (worked.after_reads reads) isNext follows
  | refused worked isNext happens isHere failed refused =>
      rw [← List.append_assoc]
      exact .refused (worked.after_reads reads) isNext happens isHere failed refused

theorem ScriptEnds.after_turn {turn : Turn} {said : Trace} {commands : List String}
    (happens : turn.Happens) (isHere : turn.context = context) (reports : Reports turn.outcome said)
    (ends : ScriptEnds context turn.after commands trace rest) :
    ScriptEnds context turn.before (turn.input :: commands) (turn.calls ++ said ++ trace) rest := by
  cases ends with
  | returned worked all =>
      exact .returned (.turn happens isHere reports worked) (congrArg (turn.input :: ·) all)
  | inside worked isNext follows =>
      rw [← List.append_assoc]
      exact .inside (.turn happens isHere reports worked) (List.cons_prefix_cons.mpr ⟨rfl, isNext⟩)
        follows
  | refused worked isNext happened wasHere failed refused =>
      rw [← List.append_assoc]
      exact .refused (.turn happens isHere reports worked)
        (List.cons_prefix_cons.mpr ⟨rfl, isNext⟩) happened wasHere failed refused

theorem evaluate_line_stops {bytes : ByteArray} {request : Call}
    {next : request.Reply → Program Shell} (isOver : request.neverReplies = true)
    (follows : (shell.evaluateLine context bytes).Follows trace (.call request next)) :
    isBlank (commandOf bytes) = false ∧
      ((∃ inner, (shell.evaluate context (commandOf bytes)).Follows trace (.call request inner)) ∨
        ∃ (turn : Turn) (said : Trace) (failure : ShellError), turn.before = shell ∧
          turn.context = context ∧ turn.input = commandOf bytes ∧ turn.Happens ∧
          turn.outcome = .error failure ∧ Refused failure said ∧ trace = turn.calls ++ said ∧
          request = .exit Program.panicCode) := by
  unfold evaluateLine at follows
  dsimp only at follows
  cases blank : isBlank (commandOf bytes) with
  | true =>
      rw [if_pos blank] at follows
      cases (Program.follows_done_iff.mp follows).2
  | false =>
      rw [if_neg (Bool.eq_false_iff.mp blank)] at follows
      refine ⟨rfl, ?_⟩
      rcases Program.follows_bind_cases follows with
        ⟨asked, inner, inside, same⟩ | ⟨calls, said, ⟨left, outcome⟩, rfl, evaluates, reporting⟩
      · cases same
        exact .inl ⟨inner, inside⟩
      · cases outcome with
        | ok state => cases (Program.follows_done_iff.mp reporting).2
        | error failure =>
            rcases Program.follows_bind_cases reporting with
              ⟨asked, inner, inside, same⟩ | ⟨_, _, _, _, _, ended⟩
            · cases same
              rcases report_asks inside with writes | ⟨refused, exits⟩
              · cases request <;> first | cases writes | cases isOver
              · exact .inr ⟨⟨shell, context, commandOf bytes, calls, left, .error failure⟩, said,
                  failure, rfl, rfl, rfl, evaluates, rfl, refused, rfl, exits⟩
            · cases (Program.follows_done_iff.mp ended).2

/-- Wherever the loop ends, it has taken turns for the commands of what it had and was given. -/
theorem read_loop_ends (piped : context.interactive = false)
    (follows : (readLoop turns context lines shell pending).Follows trace rest)
    (isOver : rest.IsOver)
    (delivers : Delivers standardInput left trace remaining) (enough : left.length < turns)
    (enoughLines : (pending.data.toList ++ left).length < lines) :
    ((∃ result, rest = .done result) → remaining = []) ∧
      ScriptEnds context shell (commands (Utf8.decode (pending.data.toList ++ left)).toList) trace
        rest := by
  -- What is pending and what is still delivered are one text; a turn takes its first line.
  induction lines generalizing shell pending left trace with
  | zero => exact absurd enoughLines (Nat.not_lt_zero _)
  | succ lines ih =>
      rw [read_loop_succ piped] at follows
      rcases Program.follows_bind_cases follows with
        ⟨request, inner, inside, rfl⟩ | ⟨reading, behind, lineRead, rfl, reads, going⟩
      · have readsInput := (read_line_only_reads turns .empty pending).asks inside
        obtain ⟨limit, rfl⟩ := reads_from_iff.mp readsInput
        cases isOver
      obtain ⟨middle, delivered, deliversBehind⟩ := delivers_append_iff.mp delivers
      have onlyReads := (read_line_only_reads turns .empty pending).along reads
      obtain ⟨read, rfl, first⟩ := read_line_returns reads delivered enough List.not_mem_nil
      rw [show ByteArray.empty.data.toList = [] from rfl, List.nil_append] at first
      cases isEnd : read.line.isEmpty with
      | true =>
          rw [go_on_of_end isEnd] at going
          obtain ⟨rfl, rfl⟩ := Program.follows_done_iff.mp going
          rw [is_empty_iff.mp isEnd] at first
          obtain ⟨nothing, nothingBehind⟩ := first.nothing
          obtain rfl := delivers_nil_iff.mp deliversBehind
          refine ⟨fun _ => (List.append_eq_nil_iff.mp nothingBehind).2, ?_⟩
          rw [nothing, nothing_commands]
          exact .returned ((Worked.ended shell).after_reads onlyReads) rfl
      | false =>
          rw [go_on_of_line isEnd] at going
          rcases Program.follows_bind_cases going with
            ⟨request, inner, inside, rfl⟩ | ⟨calls, later, after, rfl, evaluates, goesOn⟩
          · obtain ⟨notBlank, stops⟩ := evaluate_line_stops isOver inside
            rw [commands_of_first_line first, if_neg (Bool.eq_false_iff.mp notBlank)]
            refine ⟨fun ⟨_, impossible⟩ => (by cases impossible), .after_reads onlyReads ?_⟩
            have nothing : Worked context shell [] [] shell := .ended shell
            rcases stops with ⟨inner, inside⟩ |
              ⟨turn, said, failure, rfl, rfl, isInput, happens, failed, refused, rfl, rfl⟩
            · exact .inside nothing (List.prefix_append _ _) inside
            · rw [← isInput]
              exact .refused nothing (List.prefix_append _ _) happens rfl failed refused
          obtain ⟨left', deliveredCalls, deliversLater⟩ := delivers_append_iff.mp deliversBehind
          have shorter : middle.length < turns :=
            Nat.lt_of_le_of_lt delivered.suffix.length_le enough
          have fewer : (read.rest.data.toList ++ middle).length < lines := by
            have pos : 0 < read.line.data.toList.length :=
              List.length_pos_iff.mpr fun none => Bool.eq_false_iff.mp isEnd (is_empty_iff.mpr none)
            rw [first.append_eq, List.length_append] at enoughLines
            omega
          rcases evaluate_line_returns evaluates with ⟨blank, rfl, rfl⟩ |
            ⟨notBlank, turn, said, rfl, rfl, isInput, rfl, happens, reports, rfl⟩
          · obtain rfl := delivers_nil_iff.mp deliveredCalls
            obtain ⟨ended, ends⟩ := ih goesOn deliversLater shorter fewer
            refine ⟨ended, .after_reads onlyReads ?_⟩
            rw [commands_of_first_line first, if_pos blank]
            exact ends
          · obtain rfl := (delivers_of_others (turn_leaves_input happens reports)).mp deliveredCalls
            obtain ⟨ended, ends⟩ := ih goesOn deliversLater shorter fewer
            refine ⟨ended, .after_reads onlyReads ?_⟩
            rw [commands_of_first_line first, if_neg (Bool.eq_false_iff.mp notBlank), ← isInput]
            exact ends.after_turn happens rfl reports

end

end

/-- A script is evaluated line by line, until the report of a failure is refused. Its text is the
one lossy decoding of its bytes, and decoding each line by itself gives the same lines. In
whatever blocks the script is read and whatever becomes of its lines, a loop that has come to its
end has taken exactly one turn for each command of the text, in their order, has read the script
to its end and has succeeded, unless a command came to no end or a report was refused: then it
has taken one for each command up to this one, and the refusal ends the process. From every
moment on the loop can come to its end with nothing refused any more. -/
theorem script_is_evaluated_unless_refused {context : Context} {turns lines : Nat} (shell : Shell)
    {script : List UInt8} (piped : context.interactive = false) (enough : script.length < turns)
    (enoughLines : script.length < lines) :
    (∃ text, (∀ other, Utf8.Lossy script other ↔ other = text) ∧
      text.splitOn '\n' = (script.splitOn 10).map (fun line => (Utf8.decode line).toList) ∧
      ∀ trace rest remaining, (readLoop turns context lines shell .empty).Follows trace rest →
        Delivers standardInput script trace remaining → rest.IsOver →
          ((∃ result, rest = .done result) → remaining = []) ∧
            ScriptEnds context shell (commands text) trace rest) ∧
    ∀ trace rest left, (readLoop turns context lines shell .empty).Follows trace rest →
      Delivers standardInput script trace left →
        ∃ more last remaining, rest.Follows more last ∧
          Delivers standardInput left more remaining ∧ more.inChild = false ∧
          (∀ exchange ∈ more, exchange.IsObliging) ∧ last.IsOver := by
  refine ⟨⟨(Utf8.decode script).toList, fun other => ?_, Utf8.decoded_lines script, ?_⟩, ?_⟩
  · rw [Utf8.lossy_iff, eq_comm]
  · intro trace rest remaining follows delivers isOver
    have ends := read_loop_ends piped follows isOver delivers enough (by simpa using enoughLines)
    rwa [show ByteArray.empty.data.toList ++ script = script from rfl] at ends
  · intro trace rest left _ _
    obtain ⟨more, last, remaining, goesOn, delivers, obliging, stays, isOver⟩ :=
      rest.can_end standardInput left
    exact ⟨more, last, remaining, goesOn, delivers, stays, obliging, isOver⟩

/-- A line with a stray byte, which is no job, and a blank line without a line feed. -/
def strayScript : List UInt8 :=
  [0xFF, 32, 60, 13, 10, 32]

def inputBlock (bytes : List UInt8) : Exchange :=
  ⟨.read standardInput blockSize, .ok ⟨bytes.toArray⟩⟩

theorem delivers_input_block (bytes : List UInt8) {left final : List UInt8} {trace : Trace}
    (fits : bytes.length ≤ blockSize) (ends : bytes = [] → left = [])
    (later : Delivers standardInput left trace final) :
    Delivers standardInput (bytes ++ left) (inputBlock bytes :: trace) final := by
  have isEmpty (nothing : bytes.toArray.size = 0) : blockSize = 0 ∨ left = [] :=
    .inr (ends (List.length_eq_zero_iff.mp nothing))
  exact Delivers.block fits isEmpty later

def strayTrace (said : Trace) : Trace :=
  inputBlock [0xFF, 32] :: inputBlock [60, 13, 10, 32] :: (said ++ [inputBlock [], inputBlock []])

theorem report_can_return (failure : ShellError) : ∃ said, (report failure).Returns said () := by
  obtain ⟨said, writes⟩ :=
    Program.write_all_can_return standardError (failure.userMessage ++ "\n").toUTF8
  rw [report_eq]
  exact ⟨said, writes.bind Program.printed⟩

theorem stray_trace_returns {said : Trace}
    (reports : (report (.ofMissingPath ⟨.input⟩)).Returns said ()) :
    (readLoop 7 (plainShell.context false) 7 plainShell .empty).Returns (strayTrace said)
      (plainShell.remember "\uFFFD <", .ok ()) := by
  have nothing : cutLine .empty = none := cut_line_none_iff.mpr (by decide)
  have unended : cutLine ⟨#[0xFF, 32]⟩ = none := cut_line_none_iff.mpr (by decide)
  have ended : cutLine ⟨#[60, 13, 10, 32]⟩ = some ⟨⟨#[60, 13, 10]⟩, ⟨#[32]⟩⟩ := by
    have isThird : #[60, 13, 10, 32].findIdx? (· == (10 : UInt8)) = some 2 :=
      Array.findIdx?_eq_some_iff_getElem.mpr (by decide)
    rw [cutLine, isThird]
    rfl
  have blank : cutLine ⟨#[32]⟩ = none := cut_line_none_iff.mpr (by decide)
  have first : (readLine 7 .empty .empty).Returns
      [inputBlock [0xFF, 32], inputBlock [60, 13, 10, 32]]
      (.ok ⟨⟨#[0xFF, 32, 60, 13, 10]⟩, ⟨#[32]⟩⟩) := by
    rw [read_line_of_whole nothing]
    refine .step ?_
    change Program.Returns (readLine 6 _ _) _ _
    rw [read_line_of_whole unended]
    refine .step ?_
    change Program.Returns (readLine 5 _ _) _ _
    rw [read_line_of_cut ended]
    exact .stop _
  have second : (readLine 7 .empty ⟨#[32]⟩).Returns [inputBlock []] (.ok ⟨⟨#[32]⟩, .empty⟩) := by
    rw [read_line_of_whole blank]
    exact .step (.stop _)
  have last : (readLine 7 .empty .empty).Returns [inputBlock []] (.ok ⟨.empty, .empty⟩) := by
    rw [read_line_of_whole nothing]
    exact .step (.stop _)
  have evaluates : (plainShell.evaluateLine (plainShell.context false)
      ⟨#[0xFF, 32, 60, 13, 10]⟩).Returns said (plainShell.remember "\uFFFD <") := by
    have isCommand : commandOf ⟨#[0xFF, 32, 60, 13, 10]⟩ = "\uFFFD <" := by rfl
    have notBlank : ¬ isBlank "\uFFFD <" = true := by decide
    unfold evaluateLine
    dsimp only
    rw [isCommand, if_neg notBlank]
    exact reports.bind fun _ => .done (plainShell.remember "\uFFFD <")
  have skips : ((plainShell.remember "\uFFFD <").evaluateLine (plainShell.context false)
      ⟨#[32]⟩).Returns [] (plainShell.remember "\uFFFD <") := by
    have isCommand : commandOf ⟨#[32]⟩ = " " := by rfl
    have isBlank : isBlank " " = true := by decide
    unfold evaluateLine
    dsimp only
    rw [isCommand, if_pos isBlank]
    exact .stop _
  unfold strayTrace
  rw [read_loop_succ rfl]
  refine (Program.returns_bind_append_iff first).mpr ?_
  rw [go_on_of_line rfl]
  refine (Program.returns_bind_append_iff evaluates).mpr ?_
  rw [read_loop_succ rfl]
  refine (Program.returns_bind_append_iff second).mpr ?_
  rw [go_on_of_line rfl]
  refine Program.Follows.trans (skips.bind _) ?_
  rw [read_loop_succ rfl]
  exact last.bind _

theorem script_is_evaluated_unless_refused_stray_byte :
    (plainShell.context false).interactive = false ∧ strayScript.length < 7 ∧
      ∃ said, (readLoop 7 (plainShell.context false) 7 plainShell .empty).Returns (strayTrace said)
          (plainShell.remember "\uFFFD <", .ok ()) ∧
        Delivers standardInput strayScript (strayTrace said) [] ∧
        ScriptEnds (plainShell.context false) plainShell ["\uFFFD <"] (strayTrace said)
          (.done (plainShell.remember "\uFFFD <", .ok ())) := by
  obtain ⟨said, reports⟩ := report_can_return (.ofMissingPath ⟨.input⟩)
  have returns := stray_trace_returns reports
  have silent : ∀ exchange ∈ said, exchange.request.readsFrom standardInput = false :=
    report_leaves_input reports
  have delivers : Delivers standardInput strayScript (strayTrace said) [] := by
    refine delivers_input_block [0xFF, 32] (by decide) (by decide) ?_
    refine delivers_input_block [60, 13, 10, 32] (by decide) (by decide) ?_
    refine delivers_append_iff.mpr ⟨[], (delivers_of_others silent).mpr rfl, ?_⟩
    refine delivers_input_block [] (by decide) (fun _ => rfl) ?_
    exact delivers_input_block [] (by decide) (fun _ => rfl) (.nothing _)
  obtain ⟨⟨text, decoded, _, runs⟩, _⟩ := script_is_evaluated_unless_refused plainShell
    (show (plainShell.context false).interactive = false from rfl)
    (show strayScript.length < 7 by decide) (show strayScript.length < 7 by decide)
  obtain rfl := (decoded _).mp (Utf8.lossy_iff.mpr rfl)
  exact ⟨rfl, by decide, said, returns, delivers, (runs _ _ _ returns delivers trivial).2⟩

def refusedScript : List UInt8 :=
  [60, 10, 101, 99, 104, 111, 32, 104, 105, 10]

def refusedTrace : Trace :=
  [inputBlock refusedScript,
    ⟨.write standardError ((ShellError.ofMissingPath ⟨.input⟩).userMessage ++ "\n").toUTF8,
      .error .noSpace⟩]

theorem refused_trace_follows :
    (readLoop 11 (plainShell.context false) 11 plainShell .empty).Follows refusedTrace
      (.exit Program.panicCode) := by
  have nothing : cutLine .empty = none := cut_line_none_iff.mpr (by decide)
  have ended : cutLine ⟨refusedScript.toArray⟩ =
      some ⟨⟨#[60, 10]⟩, ⟨#[101, 99, 104, 111, 32, 104, 105, 10]⟩⟩ := by
    have isSecond : refusedScript.toArray.findIdx? (· == (10 : UInt8)) = some 1 :=
      Array.findIdx?_eq_some_iff_getElem.mpr (by decide)
    rw [cutLine, isSecond]
    rfl
  have first : (readLine 11 .empty .empty).Returns [inputBlock refusedScript]
      (.ok ⟨⟨#[60, 10]⟩, ⟨#[101, 99, 104, 111, 32, 104, 105, 10]⟩⟩) := by
    rw [read_line_of_whole nothing]
    refine .step ?_
    change Program.Returns (readLine 10 _ _) _ _
    rw [read_line_of_cut ended]
    exact .stop _
  have refuses : (plainShell.evaluateLine (plainShell.context false) ⟨#[60, 10]⟩).Follows
      [⟨.write standardError ((ShellError.ofMissingPath ⟨.input⟩).userMessage ++ "\n").toUTF8,
        .error .noSpace⟩] (.exit Program.panicCode) := by
    have isCommand : commandOf ⟨#[60, 10]⟩ = "<" := by rfl
    have notBlank : ¬ isBlank "<" = true := by decide
    unfold evaluateLine
    dsimp only
    rw [isCommand, if_neg notBlank]
    refine .step ?_
    change ((Program.exit Program.panicCode : Program Unit).bind _).Follows _ _
    rw [Program.exit_bind]
    exact .stop _
  rw [read_loop_succ rfl]
  refine Program.Follows.trans (first.bind _) ?_
  rw [go_on_of_line rfl]
  refine (Program.follows_bind refuses).trans ?_
  rw [Program.exit_bind]
  exact .stop _

/-- A refused report ends the process, and the next line of the script is not evaluated. -/
theorem refused_report_ends_script :
    commands (Utf8.decode refusedScript).toList = ["<", "echo hi"] ∧
      Delivers standardInput refusedScript refusedTrace [] ∧
      (readLoop 11 (plainShell.context false) 11 plainShell .empty).Follows refusedTrace
        (.exit Program.panicCode) ∧
      ∀ more result, ¬ (readLoop 11 (plainShell.context false) 11 plainShell .empty).Returns
        (refusedTrace ++ more) result := by
  refine ⟨by decide, ?_, refused_trace_follows, fun more result returns => ?_⟩
  · exact delivers_input_block refusedScript (by decide) (by decide) (.other rfl (.nothing _))
  · obtain ⟨middle, before, after⟩ := returns.cut
    rw [before.unique refused_trace_follows] at after
    obtain ⟨never, _⟩ := Program.returns_call_iff.mp after
    cases never

end JobShell.Shell
