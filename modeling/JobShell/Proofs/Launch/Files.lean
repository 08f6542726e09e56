import JobShell.Proofs.Descriptor.Owned
import JobShell.Job.Launch

/-!
# The files of a job

A launch opens files in a fixed order: for every stage the two ends of the pipe to the
next stage, then the file it reads from and the file it writes to. The number of each
file follows from the number of files that were opened before the launch, and with it
which file every stage is to read from and to write to.
-/

namespace JobShell

open Unix

set_option autoImplicit false

/-- The two ends of the pipe behind a stage, unless it is the last one. -/
def pipeOrigins (isLast : Bool) (first : Nat) : List Origin :=
  if isLast then [] else [.pipeEnd first false, .pipeEnd first true]

def Stage.redirected (stage : Stage) : List Origin :=
  stage.input.toList.map (fun path => Origin.path (.ofText path) .reading) ++
    stage.output.toList.map fun path =>
      Origin.path (.ofText path) (.truncating Redirection.outputMode)

/-- The numbers of the files of one stage: the reading end of its pipe, whose writing end
has the next number, and the files of its redirections. -/
structure StageFiles where
  pipe : Option Nat
  input : Option Nat
  output : Option Nat

def Stage.files (stage : Stage) (isLast : Bool) (first : Nat) : StageFiles :=
  let redirected := first + (pipeOrigins isLast first).length
  { pipe := if isLast then none else some first
    input := stage.input.map fun _ => redirected
    output := stage.output.map fun _ => redirected + stage.input.toList.length }

namespace Wiring

/-- The files that are opened for the stages before an index, when so many files have
been opened before. -/
def originsBefore (count : Nat) (stages : List Stage) : Nat → List Origin
  | 0 => []
  | index + 1 =>
    let before := originsBefore count stages index
    match stages[index]? with
    | none => before
    | some stage =>
      before ++ pipeOrigins (index + 1 == stages.length) (count + before.length) ++
        stage.redirected

def firstFile (count : Nat) (stages : List Stage) (index : Nat) : Nat :=
  count + (originsBefore count stages index).length

def filesAt (count : Nat) (stages : List Stage) (index : Nat) : StageFiles :=
  match stages[index]? with
  | none => ⟨none, none, none⟩
  | some stage => stage.files (index + 1 == stages.length) (firstFile count stages index)

def pipeTo (count : Nat) (stages : List Stage) : Nat → Option Nat
  | 0 => none
  | index + 1 => (filesAt count stages index).pipe

/-- The file that a stage is to read from: its input file, else the pipe that leads to
it, else none, which stands for the shell's own input. -/
def sourceOf (count : Nat) (stages : List Stage) (index : Nat) : Option Nat :=
  (filesAt count stages index).input.or (pipeTo count stages index)

/-- The file that a stage is to write to: its output file, else the writing end of its
pipe, else none, which stands for the shell's own output. -/
def targetOf (count : Nat) (stages : List Stage) (index : Nat) : Option Nat :=
  (filesAt count stages index).output.or ((filesAt count stages index).pipe.map (· + 1))

theorem files_at_of_found {count index : Nat} {stages : List Stage} {stage : Stage}
    (found : stages[index]? = some stage) :
    filesAt count stages index =
      stage.files (index + 1 == stages.length) (firstFile count stages index) := by
  rw [filesAt, found]

theorem pipe_at_of_found {count index : Nat} {stages : List Stage} {stage : Stage}
    (found : stages[index]? = some stage) :
    (filesAt count stages index).pipe =
      if index + 1 == stages.length then none else some (firstFile count stages index) := by
  rw [files_at_of_found found]
  rfl

theorem writer_at_of_found {count index : Nat} {stages : List Stage} {stage : Stage}
    (found : stages[index]? = some stage) :
    (filesAt count stages index).pipe.map (· + 1) =
      if index + 1 == stages.length then none
      else some (firstFile count stages index + 1) := by
  rw [pipe_at_of_found found]
  cases index + 1 == stages.length <;> rfl

theorem origins_before_succ {count index : Nat} {stages : List Stage} {stage : Stage}
    (found : stages[index]? = some stage) :
    originsBefore count stages (index + 1) = originsBefore count stages index ++
      pipeOrigins (index + 1 == stages.length) (firstFile count stages index) ++
        stage.redirected := by
  rw [originsBefore, found]
  rfl

theorem first_file_le_succ (count : Nat) (stages : List Stage) (index : Nat) :
    firstFile count stages index ≤ firstFile count stages (index + 1) := by
  cases found : stages[index]? with
  | none => simp [firstFile, originsBefore, found]
  | some stage =>
      rw [firstFile, firstFile, origins_before_succ found, List.append_assoc, List.length_append]
      omega

def externalsBefore (stages : List Stage) (index : Nat) : Nat :=
  (stages.take index).countP fun stage => stage.kind.isExternal

theorem externals_before_succ {index : Nat} {stages : List Stage} {stage : Stage}
    (found : stages[index]? = some stage) :
    externalsBefore stages (index + 1) =
      externalsBefore stages index + if stage.kind.isExternal then 1 else 0 := by
  rw [externalsBefore, List.take_add_one, found, Option.toList_some, List.countP_append,
    List.countP_singleton, externalsBefore]

end Wiring

/-- An endpoint with the file that it leads to and the descriptors that it accounts for. -/
inductive Endpoint.Holds : Endpoint → Option Nat → DescriptorTable → Prop where
  | inherited : Holds .inherited none []
  | owned (descriptor : Descriptor) (file : Nat) :
      Holds (.owned descriptor) (some file) [(descriptor, ⟨file, true⟩)]

namespace Endpoint.Holds

variable {endpoint other : Endpoint} {file otherFile : Option Nat}
  {entries otherEntries : DescriptorTable}

theorem length_le (holds : endpoint.Holds file entries) : entries.length ≤ 1 := by
  cases holds <;> simp

theorem mem_of_owned {descriptor : Descriptor}
    (holds : (Endpoint.owned descriptor).Holds file entries) :
    ∃ slot, (descriptor, slot) ∈ entries := by
  cases holds
  exact ⟨_, List.mem_cons_self⟩

theorem or_else (holds : endpoint.Holds file entries)
    (otherHolds : other.Holds otherFile otherEntries) :
    ∃ chosen, (endpoint.orElse other).Holds (file.or otherFile) chosen ∧
      chosen ⊆ entries ++ otherEntries := by
  cases holds with
  | inherited => exact ⟨otherEntries, otherHolds, by simp⟩
  | owned descriptor file => exact ⟨_, .owned descriptor file, by simp⟩

end Endpoint.Holds

section

variable (start : Holdings) (launcher : Launcher) (stages : List Stage)

/-- The shell is about to run the stage at an index on two endpoints, which lead to the
files that the stage is to read from and to write to. Every file of the stage has been
opened, without a byte moved since the first of them was, and the reading end of its pipe
is kept for the next stage. The children forked so far are those of the external stages
before, and each of them was forked before the first file of the stage was opened. -/
structure Ready (index : Nat) (trace : Trace) (input output : Endpoint) : Prop where
  isShell : trace.inChild = false
  holds : ∃ owned inputEntries outputEntries, Owns start trace owned ∧
    input.Holds (Wiring.sourceOf start.files.length stages index) inputEntries ∧
    output.Holds (Wiring.targetOf start.files.length stages index) outputEntries ∧
    inputEntries ⊆ owned ∧ outputEntries ⊆ owned
  apart : ∀ descriptor, input = .owned descriptor → output ≠ .owned descriptor
  files : (start.along trace).files =
    start.files ++ Wiring.originsBefore start.files.length stages (index + 1)
  opening : ∃ earlier, earlier.Grows trace ∧
    (start.along earlier).files.length = Wiring.firstFile start.files.length stages index
  keepsReader : ∀ reader, (Wiring.filesAt start.files.length stages index).pipe = some reader →
    ∃ descriptor, (start.along trace).table.lookup descriptor = some ⟨reader, true⟩
  bornBefore : ∀ birth ∈ trace.births,
    (start.along birth.2).files.length ≤ Wiring.firstFile start.files.length stages index
  childCount : trace.births.length = Wiring.externalsBefore stages index

/-- A stage was run along a trace as its index asks for: an external stage by a child that
was forked when everything was ready for it, and a builtin by the shell itself. -/
inductive Ran (index : Nat) (stage : Stage) (trace : Trace) : StageRun → Prop where
  | external {before : Trace} {pid : Pid} {input output : Endpoint}
      (kind : stage.kind = .external) (ready : Ready start stages index before input output)
      (born : (pid, before) ∈ trace.births) : Ran index stage trace ⟨stage, some pid, .running⟩
  | builtin {command : Builtin} {before own after : Trace} {result : Builtin.Result}
      {input output : Endpoint} (kind : stage.kind = .builtin command)
      (ready : Ready start stages index before input output)
      (returns : (launcher.invoke command
        (launcher.context.withEndpoints (input.descriptor standardInput)
          (output.descriptor standardOutput)) stage.arguments).Returns own result)
      (made : trace = before ++ own ++ after) :
      Ran index stage trace ⟨stage, none, .done result.outcome.exitCode⟩

end

theorem Ready.flush {start : Holdings} {stages : List Stage} {index : Nat} {trace : Trace}
    {input output : Endpoint} {reply : Except Errno Unit}
    (ready : Ready start stages index trace input output) :
    Ready start stages index (trace ++ [⟨.flushOutput, reply⟩]) input output := by
  have same : start.along (trace ++ [⟨.flushOutput, reply⟩]) = start.along trace := by
    rw [Holdings.along_snoc]
    rfl
  have sameBirths : (trace ++ [⟨.flushOutput, reply⟩] : Trace).births = trace.births := by
    rw [Trace.births_snoc]
    exact List.append_nil _
  obtain ⟨owned, inputEntries, outputEntries, owns, others⟩ := ready.holds
  obtain ⟨earlier, grows, first⟩ := ready.opening
  constructor
  · rw [Trace.in_child_append, ready.isShell]
    rfl
  · exact ⟨owned, inputEntries, outputEntries, owns.quiet rfl, others⟩
  · exact ready.apart
  · rw [same, ready.files]
  · exact ⟨earlier, grows.trans (.snoc trace rfl), first⟩
  · rw [same]
    exact ready.keepsReader
  · rw [sameBirths]
    exact ready.bornBefore
  · rw [sameBirths]
    exact ready.childCount

theorem Ran.pid_count {start : Holdings} {launcher : Launcher} {stages : List Stage} {index : Nat}
    {stage : Stage} {trace : Trace} {run : StageRun}
    (ran : Ran start launcher stages index stage trace run) :
    run.pid.toList.length = if stage.kind.isExternal then 1 else 0 := by
  cases ran with
  | external kind =>
      rw [kind]
      rfl
  | builtin kind =>
      rw [kind]
      rfl

theorem Ran.extend {start : Holdings} {launcher : Launcher} {stages : List Stage} {index : Nat}
    {stage : Stage} {trace later : Trace} {run : StageRun} (longer : trace <+: later)
    (ran : Ran start launcher stages index stage trace run) :
    Ran start launcher stages index stage later run := by
  obtain ⟨more, rfl⟩ := longer
  cases ran with
  | external kind ready born =>
      refine .external kind ready ?_
      rw [Trace.births_append]
      exact List.mem_append_left _ born
  | @builtin command before own after result input output kind ready returns made =>
      have madeLonger : trace ++ more = before ++ own ++ (after ++ more) := by
        rw [made, List.append_assoc]
      exact .builtin kind ready returns madeLonger

end JobShell
