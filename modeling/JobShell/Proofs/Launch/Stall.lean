import JobShell.Proofs.Launch.Printing
import JobShell.Proofs.Launch.Settle
import JobShell.Proofs.System.Stall

/-!
# A builtin in front of a pipe

A builtin runs in the shell before the stage behind it exists, and until then the shell
has the only reading end of the pipe between them. So a builtin whose text does not fit
into the pipe waits for ever, and with it the shell. A text that fits is written to its
end.
-/

namespace JobShell

open Unix

set_option autoImplicit false

def Shell.jobLauncher (shell : Shell) (interactive : Bool) (job : Job) : Launcher :=
  (shell.launcher (shell.context interactive)).forJob job

/-- A text that a builtin prints to the pipe behind its stage. -/
structure PipedText where
  index : Nat
  stage : Stage
  command : Builtin
  bytes : ByteArray
  pipe : Nat

structure PipedText.IsPrinted (text : PipedText) (shell : Shell) (start : Holdings) (job : Job) :
    Prop where
  found : job.stages[text.index]? = some text.stage
  kind : text.stage.kind = .builtin text.command
  answer : ∃ processes label words,
    text.command.respond shell.view processes text.stage.arguments = .print label words ∧
      text.bytes = words.toUTF8
  notLast : text.index + 1 ≠ job.stages.length
  unredirected : text.stage.output = none
  isPipe : (Wiring.filesAt start.files.length job.stages text.index).pipe = some text.pipe

def PipedText.invoked (text : PipedText) (shell : Shell) (interactive : Bool) (job : Job)
    (input output : Descriptor) : Program Builtin.Result :=
  (shell.jobLauncher interactive job).invoke text.command
    ((shell.jobLauncher interactive job).context.withEndpoints input output) text.stage.arguments

/-- Along a trace the shell has come to where a builtin has so much of its text left to write,
and the rest is in the pipe. No child was forked since the pipe was made, and the shell
has its reading end. -/
inductive Printing (shell : Shell) (interactive : Bool) (start : Holdings) (job : Job)
    (text : PipedText) (left : ByteArray) (trace : Trace) : Program JobResult → Prop where
  | inside {before own : Trace} {input output : Descriptor} {label : String} {turns : Nat}
      {behind : Builtin.Result → Program JobResult}
      (made : trace = before ++ own)
      (follows : (text.invoked shell interactive job input output).Follows own
        ((Program.writeFrom output turns left).bind (Builtin.printed label standardError)))
      (leads : (start.along trace).originAt output = some (.pipeEnd text.pipe true))
      (reader : (start.along trace).table.Leads text.pipe)
      (kept : trace.KeepsPipe start text.pipe)
      (poured : start.piped text.pipe trace ++ left = text.bytes)
      (nonempty : 0 < left.size) (fits : left.size ≤ turns) :
      Printing shell interactive start job text left trace
        (((Program.writeFrom output turns left).bind (Builtin.printed label standardError)).bind
          behind)

inductive Printed (shell : Shell) (interactive : Bool) (start : Holdings) (job : Job)
    (text : PipedText) (trace : Trace) : Program JobResult → Prop where
  | inside {before own : Trace} {input output : Descriptor}
      {behind : Builtin.Result → Program JobResult}
      (made : trace = before ++ own)
      (returns : (text.invoked shell interactive job input output).Returns own ⟨.handled, none⟩)
      (kept : trace.KeepsPipe start text.pipe)
      (poured : start.piped text.pipe trace = text.bytes) :
      Printed shell interactive start job text trace (behind ⟨.handled, none⟩)

section

variable {start : Holdings} {shell : Shell} {interactive : Bool} {table : JobTable} {job : Job}
  {trace : Trace}

theorem earlier_of_start (unpiped : start.Unpiped) (trace : Trace) {number : Nat}
    (low : number < start.files.length) : (start.along trace).files[number]? = some .earlier := by
  obtain ⟨more, grown⟩ := Holdings.files_prefix_along start trace
  rw [← grown, List.getElem?_append_left low, List.getElem?_eq_getElem low]
  exact congrArg some (unpiped _ (List.getElem_mem low))

theorem Ready.pipe_empty {stages : List Stage} {index pipe : Nat} {input output : Endpoint}
    (ready : Ready start stages index trace input output) (numbered : start.Numbered)
    (isPipe : (Wiring.filesAt start.files.length stages index).pipe = some pipe) :
    start.piped pipe trace = .empty := by
  obtain ⟨earlier, grows, count⟩ := ready.opening
  rw [← (Wiring.pipe_at_first isPipe).1] at count
  exact Holdings.piped_of_grows grows (Holdings.piped_of_unopened numbered (Nat.le_of_eq count))

theorem Ready.writes_to_pipe {index pipe : Nat} {stage : Stage} {input output : Endpoint}
    (known : start.Known) (standard : start.HasStandard) (unpiped : start.Unpiped)
    (found : job.stages[index]? = some stage)
    (ready : Ready start job.stages index trace input output)
    (leads : (start.along trace).originAt (output.descriptor standardOutput) =
      some (.pipeEnd pipe true)) :
    index + 1 ≠ job.stages.length ∧ stage.output = none ∧
      (Wiring.filesAt start.files.length job.stages index).pipe = some pipe := by
  obtain ⟨owned, inputEntries, outputEntries, owns, _, outputHolds, _, outputAmong⟩ := ready.holds
  obtain ⟨slot, isSlot, isFile, _⟩ :=
    outputHolds.leads owns outputAmong (standard standardOutput (by decide))
  have isEnd : (start.along trace).files[slot.file]? = some (.pipeEnd pipe true) := by
    rw [Holdings.originAt, isSlot, Option.bind_some] at leads
    exact leads
  have isEndOfAll : (start.files ++ Wiring.originsBefore start.files.length job.stages
      job.stages.length)[slot.file]? = some (.pipeEnd pipe true) := by
    obtain ⟨small, _⟩ := List.getElem?_eq_some_iff.mp found
    obtain ⟨others, rest⟩ := Wiring.origins_before_mono start.files.length
      (Nat.succ_le_of_lt small)
    rw [ready.files] at isEnd
    rw [← rest, ← List.append_assoc, Nat.succ_eq_add_one,
      List.getElem?_append_left (List.getElem?_eq_some_iff.mp isEnd).1, isEnd]
  have asked : Wiring.AsAsked (start.files ++ Wiring.originsBefore start.files.length job.stages
      job.stages.length) start.files.length job.stages index stage := Wiring.as_asked rfl found
  -- What the output leads to tells how the stage is wired: to the shell, to a file, or to its
  -- pipe.
  cases isTarget : Wiring.targetOf start.files.length job.stages index with
  | none =>
      rw [isTarget, Option.none_or] at isFile
      obtain ⟨other, isOpen, same⟩ := Option.map_eq_some_iff.mp isFile.symm
      have low : slot.file < start.files.length := by
        rw [← same]
        exact known _ (DescriptorTable.mem_of_lookup isOpen)
      rw [earlier_of_start unpiped trace low] at isEnd
      cases isEnd
  | some number =>
      rw [isTarget, Option.some_or] at isFile
      obtain rfl := Option.some.inj isFile
      cases isOutput : stage.output with
      | some path =>
          obtain ⟨other, isOther, isPath⟩ := asked.toFile path isOutput
          rw [isTarget] at isOther
          obtain rfl := Option.some.inj isOther
          rw [isEndOfAll] at isPath
          cases isPath
      | none =>
          have notLast : index + 1 ≠ job.stages.length := by
            intro isLast
            rw [asked.toShell isOutput isLast] at isTarget
            cases isTarget
          obtain ⟨other, isPipe, isOther, isWriter⟩ := asked.toPipe isOutput notLast
          rw [isTarget] at isOther
          rw [Option.some.inj isOther, isWriter] at isEndOfAll
          cases isEndOfAll
          exact ⟨notLast, rfl, isPipe⟩

/-- Whenever a job writes to one of its pipes, a builtin prints to the pipe behind it. -/
theorem printing_of_write {target : Descriptor} {bytes : ByteArray} {pipe : Nat}
    {next : Except Errno Nat → Program JobResult} (known : start.Known)
    (standard : start.HasStandard) (unpiped : start.Unpiped)
    (follows : (runJob (shell.launcher (shell.context interactive)) table job).Follows trace
      (.call (.write target bytes) next))
    (admitted : start.Admits trace) (isShell : trace.inChild = false)
    (leads : (start.along trace).originAt target = some (.pipeEnd pipe true)) :
    ∃ text : PipedText, text.pipe = pipe ∧ text.IsPrinted shell start job ∧
      Printing shell interactive start job text bytes trace (.call (.write target bytes) next) := by
  have notStandard {descriptor : Descriptor} (small : descriptor < 3)
      (isOpen : ∀ slot, start.table.lookup descriptor = some slot →
        (start.along trace).table.lookup descriptor = some slot) : target ≠ descriptor := by
    rintro rfl
    obtain ⟨file, found⟩ := standard target small
    have low : file < start.files.length := known _ (DescriptorTable.mem_of_lookup found)
    rw [Holdings.originAt, isOpen _ found, Option.bind_some,
      earlier_of_start unpiped trace low] at leads
    cases leads
  rcases run_job_cases follows with
    ⟨goesOn, behind, inLaunch, rfl⟩ | ⟨before, after, launch, rfl, returns, settled, settles⟩
  · have permitted := (launch_meets_along inLaunch admitted).1
    simp only [launchContract, isShell, Bool.false_eq_true, ↓reduceIte] at permitted
    rcases permitted.1 with impossible | ⟨index, stage, command, before, own, input, output,
      inner, afterwards, rfl, found, kind, ready, inCommand, rfl⟩
    · exact impossible.elim
    -- What the builtin has done so far opens and closes nothing, so the target leads where it
    -- led when the builtin began.
    have keeps := ((shell.jobLauncher interactive job).keepsProcess command _ _).along inCommand
    have quiet : ∀ exchange ∈ own, Holdings.isQuiet exchange.request = true := by
      intro exchange member
      exact Holdings.quiet_of_keeps_process (keeps exchange member)
    have same : start.along (before ++ own) = start.along before := by
      rw [Holdings.along_append, Holdings.along_quiet quiet]
    rw [same] at leads
    obtain ⟨owned, _, _, owns, _⟩ := ready.holds
    have invoked : (command.invoke Shell.host shell.view stage.arguments
        (output.descriptor standardOutput) standardError).Follows own
          (.call (.write target bytes) inner) := inCommand
    rcases Builtin.invoke_writes invoked with
      complains |
        ⟨processes, label, words, turns, answer, rfl, nonempty, fits, text, writes, program⟩
    · refine absurd complains (notStandard (by decide) fun slot isOpen => ?_)
      rw [same]
      exact owns.lookup_start isOpen
    obtain ⟨notLast, unredirected, isPipe⟩ :=
      ready.writes_to_pipe known standard unpiped found leads
    have printed :
        PipedText.IsPrinted ⟨index, stage, command, words.toUTF8, pipe⟩ shell start job :=
      ⟨found, kind, ⟨processes, label, words, answer, rfl⟩, notLast, unredirected, isPipe⟩
    have whole : (Program.call (.write (output.descriptor standardOutput) bytes) fun reply =>
        ((inner reply).bind afterwards).bind behind) =
          ((Program.writeFrom (output.descriptor standardOutput) turns bytes).bind
            (Builtin.printed label standardError)).bind fun result =>
              (afterwards result).bind behind := by
      rw [← program, ← Program.bind_assoc]
      rfl
    refine ⟨_, rfl, printed, ?_⟩
    rw [whole]
    refine .inside rfl (program ▸ inCommand) ?_ ?_ ?_ ?_ nonempty fits
    · rw [same]
      exact leads
    · rw [same]
      obtain ⟨descriptor, isOpen⟩ := ready.keepsReader pipe isPipe
      exact ⟨_, DescriptorTable.mem_of_lookup isOpen, rfl⟩
    · have sameBirths : (before ++ own : Trace).births = before.births := by
        refine Trace.births_of_not_forks fun exchange member => ?_
        exact Trace.forks_not_of_quiet (quiet exchange member)
      rw [Trace.KeepsPipe, sameBirths, (Wiring.pipe_at_first isPipe).1]
      exact ready.bornBefore
    · rw [Holdings.piped_of_writes quiet writes leads, ready.pipe_empty unpiped.numbered isPipe,
        ByteArray.empty_append, text]
  · have isOutput : target = standardOutput := beq_iff_eq.mp settles
    refine absurd isOutput (notStandard (by decide) fun slot isOpen => ?_)
    have admittedBefore := ((start.admits_append_iff before after).mp admitted).1
    obtain ⟨opened, born, stands, _⟩ := (launch_meets_along returns admittedBefore).stands
    rw [Holdings.along_append, Holdings.along_quiet fun exchange member =>
      quiet_of_settles (settled exchange member)]
    exact stands.owns.lookup_start isOpen

variable {text : PipedText} {left : ByteArray} {program : Program JobResult}

theorem Printing.accepts (printing : Printing shell interactive start job text left trace program) :
    ∃ target next, program = .call (.write target left) next ∧
      (start.along trace).originAt target = some (.pipeEnd text.pipe true) ∧
      ∀ count, 0 < count → count ≤ left.size →
        (count < left.size → Printing shell interactive start job text
          (left.extract count left.size) (trace ++ [⟨.write target left, .ok count⟩])
            (next (.ok count))) ∧
        (count = left.size → Printed shell interactive start job text
          (trace ++ [⟨.write target left, .ok count⟩]) (next (.ok count))) := by
  obtain @⟨before, own, input, output, label, turns, behind, made, follows, leads, reader, kept,
    poured, nonempty, fits⟩ := printing
  obtain ⟨turns, rfl⟩ : ∃ fewer, turns = fewer + 1 := ⟨turns - 1, by omega⟩
  rw [Program.write_from_of_nonempty nonempty] at follows ⊢
  refine ⟨output, _, rfl, leads, fun count positive few => ?_⟩
  obtain ⟨count, rfl⟩ : ∃ fewer, count = fewer + 1 := ⟨count - 1, by omega⟩
  have same : start.along (trace ++ [⟨.write output left, .ok (count + 1)⟩]) =
      start.along trace := by
    rw [Holdings.along_snoc]
    rfl
  have madeNow : trace ++ [⟨.write output left, .ok (count + 1)⟩] =
      before ++ (own ++ [⟨.write output left, .ok (count + 1)⟩]) := by
    rw [made, List.append_assoc]
  have keptNow : Trace.KeepsPipe start text.pipe
      (trace ++ [⟨.write output left, .ok (count + 1)⟩]) := by
    rw [Trace.KeepsPipe, Trace.births_of_not_forks (by simp [Exchange.forks])]
    exact kept
  have pouredNow : start.piped text.pipe (trace ++ [⟨.write output left, .ok (count + 1)⟩]) =
      start.piped text.pipe trace ++ left.extract 0 (count + 1) := by
    rw [Holdings.piped_snoc, Holdings.flow, if_pos leads]
  have followsNow := follows.trans (.step (.stop _) :
    Program.Follows _ [⟨.write output left, .ok (count + 1)⟩] _)
  refine ⟨fun isPart => ?_, fun isAll => ?_⟩
  · refine .inside madeNow followsNow ?_ ?_ keptNow ?_ ?_ ?_
    · rw [same]
      exact leads
    · rw [same]
      exact reader
    · rw [pouredNow, ByteArray.append_assoc, Program.accepted_append_left, poured]
    · rw [ByteArray.size_extract]
      omega
    · rw [ByteArray.size_extract]
      omega
  · have ended : Program.written output turns left (.ok (count + 1)) = .done (.ok ()) := by
      refine Program.write_from_of_empty ?_
      rw [ByteArray.size_extract]
      omega
    change Program.Follows _ _ ((Program.written output turns left (.ok (count + 1))).bind _)
      at followsNow
    change Printed _ _ _ _ _ _ (((Program.written output turns left (.ok (count + 1))).bind _).bind
      behind)
    rw [ended] at followsNow ⊢
    refine .inside madeNow followsNow keptNow ?_
    rw [pouredNow, isAll, ByteArray.extract_zero_size, poured]

theorem Printing.nonempty
    (printing : Printing shell interactive start job text left trace program) :
    0 < left.size := by
  cases printing
  assumption

theorem Printing.reader (printing : Printing shell interactive start job text left trace program) :
    (start.along trace).table.Leads text.pipe := by
  cases printing
  assumption

theorem Printing.kept (printing : Printing shell interactive start job text left trace program) :
    trace.KeepsPipe start text.pipe := by
  cases printing
  assumption

theorem Printing.poured (printing : Printing shell interactive start job text left trace program) :
    start.piped text.pipe trace ++ left = text.bytes := by
  cases printing
  assumption

def PipedText.IsWritten (text : PipedText) (shell : Shell) (interactive : Bool) (start : Holdings)
    (job : Job) (world : World JobResult) : Prop :=
  text.IsPrinted shell start job ∧ ∃ first children program left,
    world.members = first :: children ∧ first.activity = .running program ∧
    Printing shell interactive start job text left first.trace program ∧
    world.contents text.pipe ++ left = text.bytes

def PipedText.WasWritten (text : PipedText) (shell : Shell) (interactive : Bool) (start : Holdings)
    (job : Job) (world : World JobResult) : Prop :=
  text.IsPrinted shell start job ∧ ∃ first children program,
    world.members = first :: children ∧ first.activity = .running program ∧
    Printed shell interactive start job text first.trace program ∧
    world.contents text.pipe = text.bytes

variable {capacity : Nat} {pid : Pid} {world later : World JobResult}

namespace PipedText.IsWritten

theorem partly (isWritten : text.IsWritten shell interactive start job world) :
    (world.contents text.pipe).size < text.bytes.size := by
  obtain ⟨_, first, children, program, left, _, _, printing, made⟩ := isWritten
  have nonempty := printing.nonempty
  rw [← made, ByteArray.size_append]
  omega

end PipedText.IsWritten

theorem origin_of_first {α : Type} {whole program : Program α} {world : World α}
    {first : Member α} {children : List (Member α)}
    (sound : Sound whole start world first children) (runs : first.activity = .running program) :
    world.holdings first = start.along first.trace := by
  have isMember : first ∈ world.members := by
    rw [sound.members]
    exact List.mem_cons_self
  rw [World.holdings, sound.files, ((sound.traces first isMember).of_running runs).2.2]

/-- As long as a text is being written, a step either leaves it so or completes it, and a
text that is complete has found room. -/
theorem written_step (known : start.Known) (unpiped : start.Unpiped)
    (reached : Run capacity
      (.initial start pid (runJob (shell.launcher (shell.context interactive)) table job)) world)
    (isWritten : text.IsWritten shell interactive start job world)
    (step : Step capacity world later) :
    text.IsWritten shell interactive start job later ∨
      text.bytes.size ≤ capacity ∧ text.WasWritten shell interactive start job later := by
  obtain ⟨isPrinted, first, children, program, left, members, runs, printing, made⟩ := isWritten
  obtain ⟨first', children', sound⟩ := Sound.run job_leaves_first reached
  obtain ⟨rfl, rfl⟩ := List.cons.inj (members.symm.trans sound.members)
  have filledLater : later.Filled start :=
    World.Filled.run job_leaves_first known unpiped.numbered (reached.tail step)
  have same := origin_of_first sound runs
  obtain ⟨target, next, rfl, leads, accepted⟩ := printing.accepts
  obtain ⟨head, tail, membersLater, rfl | ⟨reply, trace, runsLater, moved⟩⟩ :=
    step.of_writing sound runs
  · refine .inl ⟨isPrinted, _, _, _, left, membersLater, runs, printing, ?_⟩
    rw [filledLater _ _ _ _ membersLater runs printing.kept, printing.poured]
  · rw [← same] at leads
    simp only [World.Transfers, leads] at moved
    cases reply with
    | error errno =>
        have isMember : first ∈ world.members := by
          rw [members]
          exact List.mem_cons_self
        refine absurd ⟨first, isMember, ?_⟩ moved.1
        have reader := printing.reader
        rw [← same] at reader
        exact reader
    | ok count =>
        obtain ⟨few, room, contents⟩ := moved
        obtain ⟨_, positive, fits⟩ := room.resolve_left (Nat.ne_of_gt printing.nonempty)
        obtain ⟨goesOn, ends⟩ := accepted count positive few
        rcases Nat.lt_or_eq_of_le few with isPart | isAll
        · have printingLater := goesOn isPart
          rw [← trace] at printingLater
          refine .inl ⟨isPrinted, _, _, _, _, membersLater, runsLater, printingLater, ?_⟩
          rw [filledLater _ _ _ _ membersLater runsLater printingLater.kept, printingLater.poured]
        · have printed := ends isAll
          rw [← trace] at printed
          refine .inr ⟨?_, isPrinted, _, _, _, membersLater, runsLater, printed, ?_⟩
          · rw [← made, ByteArray.size_append, ← isAll]
            exact fits
          · rw [contents, Function.update_self, isAll, ByteArray.extract_zero_size, made]

theorem text_of_stalled (known : start.Known) (standard : start.HasStandard)
    (unpiped : start.Unpiped)
    (reached : Run capacity
      (.initial start pid (runJob (shell.launcher (shell.context interactive)) table job)) world)
    (stalled : Stalled capacity world) :
    ∃ text : PipedText, text.IsWritten shell interactive start job world ∧
      capacity < text.bytes.size := by
  obtain ⟨first, children, target, bytes, next, pipe, members, runs, nonempty, leads, full, _⟩ :=
    stalled
  obtain ⟨first', children', sound⟩ := Sound.run job_leaves_first reached
  obtain ⟨rfl, rfl⟩ := List.cons.inj (members.symm.trans sound.members)
  have filled : world.Filled start :=
    World.Filled.run job_leaves_first known unpiped.numbered reached
  have isMember : first ∈ world.members := by
    rw [members]
    exact List.mem_cons_self
  obtain ⟨admitted, follows, _⟩ := (sound.traces first isMember).of_running runs
  rw [origin_of_first sound runs] at leads
  obtain ⟨text, rfl, isPrinted, printing⟩ :=
    printing_of_write known standard unpiped follows admitted sound.isFirst leads
  have made : world.contents text.pipe ++ bytes = text.bytes := by
    rw [filled _ _ _ _ members runs printing.kept, printing.poured]
  refine ⟨text, ⟨isPrinted, _, _, _, _, members, runs, printing, made⟩, ?_⟩
  rw [← made, ByteArray.size_append]
  omega

theorem exceeds_of_stalled
    (reached : Run capacity
      (.initial start pid (runJob (shell.launcher (shell.context interactive)) table job)) world)
    (isWritten : text.IsWritten shell interactive start job world)
    (stalled : Stalled capacity world) : capacity < text.bytes.size := by
  have partly := isWritten.partly
  obtain ⟨_, first, children, program, left, members, runs, printing, _⟩ := isWritten
  obtain ⟨other, others, target, bytes, next, pipe, membersThere, asks, _, leads, full, _⟩ :=
    stalled
  obtain ⟨rfl, rfl⟩ := List.cons.inj (members.symm.trans membersThere)
  obtain ⟨first', children', sound⟩ := Sound.run job_leaves_first reached
  obtain ⟨rfl, rfl⟩ := List.cons.inj (members.symm.trans sound.members)
  rw [origin_of_first sound runs] at leads
  obtain ⟨output, goesOn, rfl, leadsToText, _⟩ := printing.accepts
  rw [runs] at asks
  cases asks
  rw [leadsToText] at leads
  cases leads
  omega

theorem stalled_of_full (known : start.Known)
    (reached : Run capacity
      (.initial start pid (runJob (shell.launcher (shell.context interactive)) table job)) world)
    (isWritten : text.IsWritten shell interactive start job world)
    (full : capacity ≤ (world.contents text.pipe).size) : Stalled capacity world := by
  obtain ⟨isPrinted, first, children, program, left, members, runs, printing, made⟩ := isWritten
  obtain ⟨first', children', sound⟩ := Sound.run job_leaves_first reached
  obtain ⟨rfl, rfl⟩ := List.cons.inj (members.symm.trans sound.members)
  have same := origin_of_first sound runs
  obtain ⟨target, next, rfl, leads, _⟩ := printing.accepts
  have reader := printing.reader
  rw [← same] at leads reader
  refine ⟨first, children, target, left, next, text.pipe, members, runs, printing.nonempty, leads,
    full, reader, ?_⟩
  rintro child among ⟨entry, isHeld, isPipe⟩
  have below := sound.child_below known among printing.kept entry isHeld
  omega

theorem exists_write
    (reached : Run capacity
      (.initial start pid (runJob (shell.launcher (shell.context interactive)) table job)) world)
    (isWritten : text.IsWritten shell interactive start job world)
    (room : (world.contents text.pipe).size < capacity) :
    ∃ later, Step capacity world later ∧
      (later.contents text.pipe).size = min text.bytes.size capacity := by
  obtain ⟨isPrinted, first, children, program, left, members, runs, printing, made⟩ := isWritten
  obtain ⟨first', children', sound⟩ := Sound.run job_leaves_first reached
  obtain ⟨rfl, rfl⟩ := List.cons.inj (members.symm.trans sound.members)
  have same := origin_of_first sound runs
  obtain ⟨target, next, rfl, leads, _⟩ := printing.accepts
  have reader := printing.reader
  rw [← same] at leads reader
  have isMember : first ∈ world.members := by
    rw [members]
    exact List.mem_cons_self
  have nonempty := printing.nonempty
  have size : (world.contents text.pipe).size + left.size = text.bytes.size := by
    rw [← made, ByteArray.size_append]
  obtain ⟨count, isCount⟩ : ∃ count,
      count = min left.size (capacity - (world.contents text.pipe).size) := ⟨_, rfl⟩
  have accepts : world.Transfers capacity first ⟨.write target left, .ok count⟩
      (Function.update world.contents text.pipe
        (world.contents text.pipe ++ left.extract 0 count)) := by
    simp only [World.Transfers, leads]
    exact ⟨by omega, .inr ⟨⟨first, isMember, reader⟩, by omega, by omega⟩, rfl⟩
  have among : world.members = [] ++ first :: children := members
  have filledUp : (Function.update world.contents text.pipe
      (world.contents text.pipe ++ left.extract 0 count) text.pipe).size =
        min text.bytes.size capacity := by
    rw [Function.update_self, ByteArray.size_append, ByteArray.size_extract]
    omega
  exact ⟨_, .answer among runs rfl trivial accepts, filledUp⟩

theorem written_for_ever (known : start.Known) (unpiped : start.Unpiped)
    (reached : Run capacity
      (.initial start pid (runJob (shell.launcher (shell.context interactive)) table job)) world)
    (isWritten : text.IsWritten shell interactive start job world)
    (tooLong : capacity < text.bytes.size) (run : Run capacity world later) :
    text.IsWritten shell interactive start job later := by
  induction run with
  | refl => exact isWritten
  | tail before step ih =>
      rcases written_step known unpiped (reached.trans before) ih step with still | ⟨fits, _⟩
      · exact still
      · omega

/-- For every job, pipes of any capacity and every way in which the processes go on: the
shell is stalled only in a text that does not fit into its pipe. While a builtin writes
such a text, the shell never gets any further, and some run stalls it. While a builtin
writes a text that does fit, the shell is not stalled, and some run completes the text. -/
theorem builtin_stalls_iff_text_exceeds_pipe (known : start.Known)
    (standard : start.HasStandard) (unpiped : start.Unpiped)
    (reached : Run capacity
      (.initial start pid (runJob (shell.launcher (shell.context interactive)) table job)) world) :
    (Stalled capacity world → ∃ text : PipedText,
      text.IsWritten shell interactive start job world ∧ capacity < text.bytes.size) ∧
    ∀ text : PipedText, text.IsWritten shell interactive start job world →
      (capacity < text.bytes.size →
        (∀ later, Run capacity world later → text.IsWritten shell interactive start job later) ∧
        Reaches capacity (Stalled capacity) world) ∧
      (text.bytes.size ≤ capacity →
        ¬ Stalled capacity world ∧
        Reaches capacity (text.WasWritten shell interactive start job) world) := by
  refine ⟨text_of_stalled known standard unpiped reached, fun text isWritten => ⟨?_, ?_⟩⟩
  · intro tooLong
    refine ⟨fun later => written_for_ever known unpiped reached isWritten tooLong, ?_⟩
    by_cases full : capacity ≤ (world.contents text.pipe).size
    · exact .here (stalled_of_full known reached isWritten full)
    · obtain ⟨later, step, size⟩ := exists_write reached isWritten (Nat.lt_of_not_le full)
      have isWrittenLater :=
        written_for_ever known unpiped reached isWritten tooLong (.single step)
      exact .step step (.here
        (stalled_of_full known (reached.tail step) isWrittenLater (by omega)))
  · intro fits
    refine ⟨fun stalled => ?_, ?_⟩
    · have tooLong := exceeds_of_stalled reached isWritten stalled
      omega
    · have partly := isWritten.partly
      obtain ⟨later, step, size⟩ := exists_write reached isWritten (by omega)
      rcases written_step known unpiped reached isWritten step with still | ⟨_, wasWritten⟩
      · have partlyLater := still.partly
        omega
      · exact .step step (.here wasWritten)

end

def echoToWc : Job :=
  ⟨"echo hi | wc", .foreground,
    [⟨"echo hi", ["echo", "hi"], none, none⟩, ⟨"wc", ["wc"], none, none⟩]⟩

theorem Unix.Holdings.standard_unpiped : Holdings.standard.Unpiped := by
  unfold Holdings.Unpiped
  decide

theorem echo_to_wc_stalls :
    Reaches 2 (Stalled 2) (.initial .standard 100
      (runJob (plainShell.launcher (plainShell.context false)) plainShell.jobs echoToWc)) := by
  refine .step (@Step.answer _ _ _ [] _ _ .pipe _ (.ok (3, 4)) _ rfl rfl rfl
    ⟨rfl, rfl, by decide⟩ rfl) ?_
  refine .step (@Step.answer _ _ _ [] _ _ (.write 4 "hi\n".toUTF8) _ (.ok 2) _ rfl rfl rfl trivial
    ⟨by decide, .inr
      ⟨⟨_, List.mem_cons_self, (3, ⟨3, true⟩), by decide, rfl⟩, by decide, by decide⟩, rfl⟩) ?_
  exact .here ⟨_, _, 4, _, _, 3, rfl, rfl, by decide, rfl, by decide,
    ⟨(3, ⟨3, true⟩), by decide, rfl⟩, by simp⟩

theorem builtin_stalls_iff_text_exceeds_pipe_echo_to_wc :
    Holdings.standard.Known ∧ Holdings.standard.HasStandard ∧ Holdings.standard.Unpiped ∧
      Reaches 2 (fun world => Stalled 2 world ∧ ∃ text : PipedText,
          text.IsWritten plainShell false .standard echoToWc world ∧ 2 < text.bytes.size)
        (.initial .standard 100
          (runJob (plainShell.launcher (plainShell.context false)) plainShell.jobs echoToWc)) := by
  obtain ⟨world, run, stalled⟩ := echo_to_wc_stalls
  have text := (builtin_stalls_iff_text_exceeds_pipe Holdings.standard_known
    Holdings.standard_has_standard Holdings.standard_unpiped run).1 stalled
  exact ⟨Holdings.standard_known, Holdings.standard_has_standard, Holdings.standard_unpiped, world,
    run, stalled, text⟩

end JobShell
