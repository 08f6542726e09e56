import JobShell.Proofs.Launch.Files
import JobShell.Proofs.Program.Contract

/-!
# The contract of a launch

While it launches stages, the shell holds at most five files of the job, closes only
files that it opened itself, and writes only on behalf of a builtin. A child opens
nothing and makes no children, and when it starts a program, its standard input and
output are as the stage asks for and no other file of the job is open.

Each part of a launch has a rule here that says what it does to the files that the shell
holds. The rules speak of what is held before and after, so that the proof for a whole
launch only has to chain them.
-/

namespace JobShell

open Unix

set_option autoImplicit false

def Unix.DescriptorTable.fileAt (table : DescriptorTable) (descriptor : Descriptor) :
    Option Nat :=
  (table.lookup descriptor).map Slot.file

/-- The three standard descriptors are open and stay open when a program is executed. -/
def Unix.Holdings.HasStandard (holdings : Holdings) : Prop :=
  ∀ descriptor < 3, ∃ file, holdings.table.lookup descriptor = some ⟨file, false⟩

/-- The descriptors with which a program is started: it reads from and writes to the
given files, or else those of the shell, and has no other file that was opened since the
start. -/
structure Receives (start : Holdings) (table : DescriptorTable) (source target : Option Nat) :
    Prop where
  input : table.fileAt standardInput = source.or (start.table.fileAt standardInput)
  output : table.fileAt standardOutput = target.or (start.table.fileAt standardOutput)
  error : table.fileAt standardError = start.table.fileAt standardError
  nothingElse : ∀ entry ∈ table, start.files.length ≤ entry.2.file →
    entry.1 = standardInput ∧ source = some entry.2.file ∨
      entry.1 = standardOutput ∧ target = some entry.2.file

section

variable (start : Holdings) (launcher : Launcher) (stages : List Stage)

def StartsProgram (trace : Trace) (arguments : List String) : Prop :=
  ∃ index stage before own input output,
    trace = before ++ ⟨.fork, .ok none⟩ :: own ∧ stages[index]? = some stage ∧
      stage.kind = .external ∧ arguments = stage.arguments ∧
      Ready start stages index before input output ∧
      (start.Known → start.HasStandard → Receives start (start.along trace).table.afterExecute
        (Wiring.sourceOf start.files.length stages index)
        (Wiring.targetOf start.files.length stages index))

def ChildMay (trace : Trace) : Call → Prop
  | .pipe | .openFile _ _ | .fork => False
  | .execute arguments => StartsProgram start stages trace arguments
  | _ => True

def InBuiltin (trace : Trace) {α : Type} (request : Call) (next : request.Reply → Program α) :
    Prop :=
  ∃ index stage command before own input output inner behind,
    trace = before ++ own ∧ stages[index]? = some stage ∧ stage.kind = .builtin command ∧
      Ready start stages index before input output ∧
      (launcher.invoke command
        (launcher.context.withEndpoints (input.descriptor standardInput)
          (output.descriptor standardOutput)) stage.arguments).Follows own
            (.call request inner) ∧
      next = fun reply => (inner reply).bind behind

/-- What the shell may do apart from writing, which it leaves to builtins. -/
def ShellMay (trace : Trace) : Call → Prop
  | .close descriptor => ∃ slot owned, Owns start trace owned ∧ (descriptor, slot) ∈ owned
  | .write _ _ | .duplicate _ _ | .execute _ | .wait _ _ => False
  | _ => True

def launchContract : Contract where
  allows trace exchange := (start.along trace).Expects exchange
  demands trace _ request next :=
    if trace.inChild then ChildMay start stages trace request
    else (ShellMay start trace request ∨ InBuiltin start launcher stages trace request next) ∧
      ∃ owned, Owns start trace owned ∧ owned.length ≤ 5
  demands_bind := by
    intro trace α β request next following permitted
    split at permitted
    · rw [if_pos (by assumption)]
      exact permitted
    · rw [if_neg (by assumption)]
      refine ⟨permitted.1.imp_right ?_, permitted.2⟩
      rintro ⟨index, stage, command, before, own, input, output, inner, behind, trace, found, kind,
        ready, follows, rfl⟩
      refine ⟨index, stage, command, before, own, input, output, inner,
        fun value => (behind value).bind following, trace, found, kind, ready, follows, ?_⟩
      funext reply
      exact Program.bind_assoc _ _ _

end

/-- Where the shell stands in a launch: the files of the job that it holds, all files
opened so far, and the children forked so far. -/
structure Stands (start : Holdings) (trace : Trace) (owned : DescriptorTable)
    (files : List Origin) (births : List (Pid × Trace)) : Prop where
  owns : Owns start trace owned
  isShell : trace.inChild = false
  files : (start.along trace).files = files
  births : trace.births = births

namespace Stands

variable {start : Holdings} {trace : Trace} {owned : DescriptorTable} {files : List Origin}
  {births : List (Pid × Trace)}

theorem perm {other : DescriptorTable} (stands : Stands start trace owned files births)
    (same : owned.Perm other) : Stands start trace other files births :=
  { stands with owns := stands.owns.perm same }

theorem move {exchange : Exchange} {other : DescriptorTable} {opened : List Origin}
    (stands : Stands start trace owned files births) (notFork : exchange.request ≠ .fork)
    (owns : Owns start (trace ++ [exchange]) other)
    (nowKnown : ((start.along trace).after exchange).files = opened) :
    Stands start (trace ++ [exchange]) other opened births where
  owns := owns
  isShell := by
    rw [Trace.in_child_append, stands.isShell, Trace.in_child_of_not_fork notFork]
    rfl
  files := by rw [Holdings.along_snoc, nowKnown]
  births := by
    rw [Trace.births_snoc, stands.births, Trace.birth_of_not_fork notFork, List.append_nil]

theorem quiet {exchange : Exchange} (stands : Stands start trace owned files births)
    (isQuiet : Holdings.isQuiet exchange.request = true) :
    Stands start (trace ++ [exchange]) owned files births := by
  refine stands.move ?_ (stands.owns.quiet isQuiet) ?_
  · intro fork
    rw [fork] at isQuiet
    cases isQuiet
  · rw [Holdings.after_quiet _ isQuiet, stands.files]

theorem close {descriptor : Descriptor} {slot : Slot} (reply : Except Errno Unit)
    (stands : Stands start trace ((descriptor, slot) :: owned) files births) :
    Stands start (trace ++ [⟨.close descriptor, reply⟩]) owned files births :=
  stands.move nofun stands.owns.close stands.files

theorem pipe {reader writer : Descriptor} (stands : Stands start trace owned files births)
    (expected : (start.along trace).Expects ⟨.pipe, .ok (reader, writer)⟩) :
    Stands start (trace ++ [⟨.pipe, .ok (reader, writer)⟩])
      ((writer, ⟨files.length + 1, true⟩) :: (reader, ⟨files.length, true⟩) :: owned)
      (files ++ [.pipeEnd files.length false, .pipeEnd files.length true]) births := by
  have owns := stands.owns.pipe expected
  rw [stands.files] at owns
  refine stands.move nofun owns ?_
  rw [← stands.files]
  rfl

theorem openFile {path : PathName} {access : Access} {descriptor : Descriptor}
    (stands : Stands start trace owned files births)
    (expected : (start.along trace).Expects ⟨.openFile path access, .ok descriptor⟩) :
    Stands start (trace ++ [⟨.openFile path access, .ok descriptor⟩])
      ((descriptor, ⟨files.length, true⟩) :: owned) (files ++ [.path path access]) births := by
  have owns := stands.owns.openFile expected
  rw [stands.files] at owns
  refine stands.move nofun owns ?_
  rw [← stands.files]
  rfl

theorem refused {exchange : Exchange} (stands : Stands start trace owned files births)
    (notFork : exchange.request ≠ .fork)
    (same : (start.along trace).after exchange = start.along trace)
    (kept : (start.along trace).letGo exchange = []) :
    Stands start (trace ++ [exchange]) owned files births :=
  stands.move notFork (stands.owns.unchanged same kept) (by rw [same, stands.files])

theorem forked {child : Pid} (stands : Stands start trace owned files births) :
    Stands start (trace ++ [⟨.fork, .ok (some child)⟩]) owned files
      (births ++ [(child, trace)]) where
  owns := stands.owns.unchanged rfl rfl
  isShell := by
    rw [Trace.in_child_append, stands.isShell]
    rfl
  files := by
    rw [Holdings.along_snoc, Holdings.after_fork, stands.files]
  births := by
    rw [Trace.births_snoc, stands.births]
    rfl

theorem fork_refused {errno : Errno} (stands : Stands start trace owned files births) :
    Stands start (trace ++ [⟨.fork, .error errno⟩]) owned files births where
  owns := stands.owns.unchanged rfl rfl
  isShell := by
    rw [Trace.in_child_append, stands.isShell]
    rfl
  files := by
    rw [Holdings.along_snoc, Holdings.after_fork, stands.files]
  births := by
    rw [Trace.births_snoc, stands.births]
    exact List.append_nil _

end Stands

end JobShell
