import JobShell.Proofs.Launch.Files
import Mathlib.Order.Monotone.Basic

/-!
# The numbers of the files of a job

Each stage has a range of numbers of its own for the files that are opened for it, so a
number tells the stage, and the place in the range tells what the file is for. A pipe is
the one file that two stages share: its reading end belongs to the stage before.
-/

namespace JobShell

open Unix

set_option autoImplicit false

namespace Wiring

variable {count index other number : Nat} {stages : List Stage} {stage : Stage}

theorem first_file_succ (found : stages[index]? = some stage) :
    firstFile count stages (index + 1) = firstFile count stages index +
      (pipeOrigins (index + 1 == stages.length) (firstFile count stages index)).length +
        stage.redirected.length := by
  rw [firstFile, origins_before_succ found, List.length_append, List.length_append]
  change count + (_ + _ + _) = count + _ + _ + _
  omega

theorem files_at_of_missing (missing : stages[index]? = none) :
    filesAt count stages index = ⟨none, none, none⟩ := by
  rw [filesAt, missing]

theorem pipe_at_first (isPipe : (filesAt count stages index).pipe = some number) :
    number = firstFile count stages index ∧ number + 2 ≤ firstFile count stages (index + 1) := by
  cases found : stages[index]? with
  | none =>
      rw [files_at_of_missing found] at isPipe
      cases isPipe
  | some stage =>
      rw [pipe_at_of_found found] at isPipe
      rw [first_file_succ found]
      split at isPipe
      · cases isPipe
      · rename_i notLast
        cases isPipe
        rw [pipeOrigins, if_neg notLast]
        exact ⟨rfl, Nat.le_add_right _ _⟩

theorem origins_before_mono (count : Nat) {first last : Nat} (ordered : first ≤ last) :
    originsBefore count stages first <+: originsBefore count stages last := by
  induction last, ordered using Nat.le_induction with
  | base => exact List.prefix_rfl
  | succ last _ ih =>
      refine ih.trans ?_
      cases found : stages[last]? with
      | none => simp [originsBefore, found]
      | some stage =>
          rw [origins_before_succ found, List.append_assoc]
          exact List.prefix_append _ _

theorem origin_of_stage {earlier : List Origin} {origin : Origin} (offset : Nat)
    (size : earlier.length = count) (found : stages[index]? = some stage)
    (isOrigin : (pipeOrigins (index + 1 == stages.length) (firstFile count stages index) ++
      stage.redirected)[offset]? = some origin) :
    (earlier ++ originsBefore count stages stages.length)[
      firstFile count stages index + offset]? = some origin := by
  subst size
  obtain ⟨small, _⟩ := List.getElem?_eq_some_iff.mp found
  obtain ⟨others, rest⟩ := origins_before_mono earlier.length (Nat.succ_le_of_lt small)
  have inStage : offset < (pipeOrigins (index + 1 == stages.length)
      (firstFile earlier.length stages index) ++ stage.redirected).length :=
    (List.getElem?_eq_some_iff.mp isOrigin).1
  have behindEarlier : (earlier ++ originsBefore earlier.length stages index).length ≤
      firstFile earlier.length stages index + offset := by
    rw [List.length_append, firstFile]
    exact Nat.le_add_right _ _
  have position : firstFile earlier.length stages index + offset -
      (earlier ++ originsBefore earlier.length stages index).length = offset := by
    rw [List.length_append, firstFile, Nat.add_sub_cancel_left]
  rw [← rest, origins_before_succ found, List.append_assoc, List.append_assoc,
    ← List.append_assoc earlier, List.getElem?_append_right behindEarlier, position,
    ← List.append_assoc, List.getElem?_append_left inStage, isOrigin]

/-- The numbers of the files that a stage reads from and writes to lead to what the stage
asks for: the files of its redirections, else the pipes before and behind it. -/
structure AsAsked (files : List Origin) (count : Nat) (stages : List Stage) (index : Nat)
    (stage : Stage) : Prop where
  fromFile : ∀ path, stage.input = some path → ∃ number,
    sourceOf count stages index = some number ∧ files[number]? = some (.path path .reading)
  fromPipe : ∀ before, stage.input = none → index = before + 1 → ∃ pipe,
    (filesAt count stages before).pipe = some pipe ∧ sourceOf count stages index = some pipe ∧
      files[pipe]? = some (.pipeEnd pipe false)
  fromShell : stage.input = none → index = 0 → sourceOf count stages index = none
  toFile : ∀ path, stage.output = some path → ∃ number,
    targetOf count stages index = some number ∧
      files[number]? = some (.path path (.truncating Redirection.outputMode))
  toPipe : stage.output = none → index + 1 ≠ stages.length → ∃ pipe,
    (filesAt count stages index).pipe = some pipe ∧
      targetOf count stages index = some (pipe + 1) ∧
      files[pipe + 1]? = some (.pipeEnd pipe true)
  toShell : stage.output = none → index + 1 = stages.length →
    targetOf count stages index = none

theorem pipe_behind {earlier : List Origin} (size : earlier.length = count)
    (found : stages[index]? = some stage) (notLast : index + 1 ≠ stages.length) :
    ∃ pipe, (filesAt count stages index).pipe = some pipe ∧
      (earlier ++ originsBefore count stages stages.length)[pipe]? =
        some (.pipeEnd pipe false) ∧
      (earlier ++ originsBefore count stages stages.length)[pipe + 1]? =
        some (.pipeEnd pipe true) := by
  have ends : pipeOrigins (index + 1 == stages.length) (firstFile count stages index) =
      [.pipeEnd (firstFile count stages index) false,
        .pipeEnd (firstFile count stages index) true] := by
    rw [pipeOrigins, beq_false_of_ne notLast]
    rfl
  refine ⟨firstFile count stages index, ?_, ?_, ?_⟩
  · rw [pipe_at_of_found found, beq_false_of_ne notLast]
    rfl
  · refine origin_of_stage 0 size found ?_
    rw [ends]
    rfl
  · refine origin_of_stage 1 size found ?_
    rw [ends]
    rfl

theorem as_asked {earlier : List Origin} (size : earlier.length = count)
    (found : stages[index]? = some stage) :
    AsAsked (earlier ++ originsBefore count stages stages.length) count stages index stage := by
  have files : filesAt count stages index =
      stage.files (index + 1 == stages.length) (firstFile count stages index) :=
    files_at_of_found found
  have behind (offset : Nat) {origin : Origin}
      (isOrigin : stage.redirected[offset]? = some origin) :
      (earlier ++ originsBefore count stages stages.length)[firstFile count stages index +
        (pipeOrigins (index + 1 == stages.length) (firstFile count stages index)).length +
          offset]? = some origin := by
    rw [Nat.add_assoc]
    refine origin_of_stage _ size found ?_
    rw [List.getElem?_append_right (Nat.le_add_right _ _), Nat.add_sub_cancel_left, isOrigin]
  constructor
  · intro path isInput
    refine ⟨_, ?_, behind 0 ?_⟩
    · rw [sourceOf, files, Stage.files, isInput]
      rfl
    · rw [Stage.redirected, isInput]
      rfl
  · rintro before noInput rfl
    obtain ⟨small, _⟩ := List.getElem?_eq_some_iff.mp found
    have earlierFound : stages[before]? = some stages[before] :=
      List.getElem?_eq_getElem (by omega)
    obtain ⟨pipe, isPipe, reader, _⟩ := pipe_behind size earlierFound (by omega)
    refine ⟨pipe, isPipe, ?_, reader⟩
    rw [sourceOf, files, Stage.files, noInput, pipeTo, isPipe]
    rfl
  · rintro noInput rfl
    rw [sourceOf, files, Stage.files, noInput]
    rfl
  · intro path isOutput
    refine ⟨_, ?_, behind stage.input.toList.length ?_⟩
    · rw [targetOf, files, Stage.files, isOutput]
      rfl
    · rw [Stage.redirected, isOutput, List.getElem?_append_right (by simp)]
      simp
  · intro noOutput notLast
    obtain ⟨pipe, isPipe, _, writer⟩ := pipe_behind size found notLast
    refine ⟨pipe, isPipe, ?_, writer⟩
    rw [targetOf, isPipe, files, Stage.files, noOutput]
    rfl
  · intro noOutput isLast
    rw [targetOf, pipe_at_of_found found, beq_iff_eq.mpr isLast, files, Stage.files, noOutput]
    rfl

end Wiring

end JobShell
