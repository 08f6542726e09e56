import JobShell.Job.Run
import JobShell.Proofs.Program.Writing

/-!
# The notice of a background job

The notice has a line for the last process and a line for the slot, as far as there are such.
Its lines are written in their order, up to the first that is refused.
-/

namespace JobShell

open Unix

set_option autoImplicit false

def JobRun.notices (run : JobRun) : List String :=
  (run.representative.map toString).toList ++ (run.slot.map (slotLine · run.group)).toList

def announceAll (context : Context) : List String → Program (Except ShellError Unit)
  | [] => .done (.ok ())
  | line :: lines =>
    (announce context line).bind fun
      | .ok _ => announceAll context lines
      | .error failure => .done (.error failure)

section

variable {context : Context} {lines : List String} {trace : Trace}
  {result : Except ShellError Unit}

theorem announce_all_single (context : Context) (line : String) :
    announceAll context [line] = announce context line := by
  have same : (fun first : Except ShellError Unit => match first with
      | .ok _ => announceAll context []
      | .error failure => .done (.error failure)) = Program.done := by
    funext first
    cases first <;> rfl
  rw [announceAll, same, Program.bind_done]

theorem announce_job_eq (context : Context) (run : JobRun) :
    announceJob context run = announceAll context run.notices := by
  unfold announceJob JobRun.notices
  cases run.representative with
  | none =>
      cases run.slot with
      | none => rfl
      | some slot => exact (announce_all_single context _).symm
  | some pid =>
      refine congrArg (Program.bind (announce context (toString pid))) (funext fun first => ?_)
      cases first with
      | error failure => rfl
      | ok =>
          cases run.slot with
          | none => rfl
          | some slot => exact (announce_all_single context _).symm

theorem announce_all_only_calls {allowed : Call → Bool}
    (writes : ∀ bytes, allowed (.write context.output.toNat bytes) = true) (lines : List String) :
    (announceAll context lines).OnlyCalls allowed := by
  induction lines with
  | nil => exact trivial
  | cons line lines ih =>
      have announces : (announce context line).OnlyCalls allowed := by
        refine Program.only_calls_bind (Program.write_from_only_calls writes _ _) fun written => ?_
        cases written <;> exact trivial
      refine Program.only_calls_bind announces fun first => ?_
      cases first with
      | ok => exact ih
      | error failure => exact trivial

theorem announce_job_only_calls {allowed : Call → Bool}
    (writes : ∀ bytes, allowed (.write context.output.toNat bytes) = true) (run : JobRun) :
    (announceJob context run).OnlyCalls allowed :=
  announce_job_eq context run ▸ announce_all_only_calls writes _

theorem announce_job_only_writes (context : Context) (run : JobRun) :
    (announceJob context run).OnlyCalls (Call.writesTo context.output.toNat) :=
  announce_job_only_calls (fun _ => beq_self_eq_true context.output.toNat) run

theorem announce_decides {line : String} (returns : (announce context line).Returns trace result) :
    ∃ written, trace.Decides written ∧ result = written.mapError .transfer := by
  obtain ⟨writing, last, written, rfl, writes, ended⟩ := Program.returns_bind_iff.mp returns
  have decides := Program.write_from_decides writes
  cases written with
  | ok =>
      obtain ⟨rfl, rfl⟩ := Program.returns_done_iff.mp ended
      exact ⟨.ok (), (List.append_nil writing).symm ▸ decides, rfl⟩
  | error errno =>
      obtain ⟨rfl, rfl⟩ := Program.returns_done_iff.mp ended
      exact ⟨.error errno, (List.append_nil writing).symm ▸ decides, rfl⟩

theorem announce_all_decides (returns : (announceAll context lines).Returns trace result) :
    ∃ written, trace.Decides written ∧ result = written.mapError .transfer := by
  induction lines generalizing trace with
  | nil =>
      obtain ⟨rfl, rfl⟩ := Program.returns_done_iff.mp returns
      exact ⟨.ok (), .accepted (List.forall_mem_nil _), rfl⟩
  | cons line lines ih =>
      obtain ⟨before, after, first, rfl, announcing, going⟩ := Program.returns_bind_iff.mp returns
      obtain ⟨written, decides, rfl⟩ := announce_decides announcing
      cases written with
      | ok =>
          obtain ⟨later, decidesLater, isResult⟩ := ih going
          exact ⟨later, decides.append decidesLater, isResult⟩
      | error errno =>
          obtain ⟨rfl, rfl⟩ := Program.returns_done_iff.mp going
          exact ⟨.error errno, (List.append_nil before).symm ▸ decides, rfl⟩

theorem announce_job_decides {run : JobRun}
    (returns : (announceJob context run).Returns trace result) :
    ∃ written, trace.Decides written ∧ result = written.mapError .transfer :=
  announce_all_decides (announce_job_eq context run ▸ returns)

theorem announce_sends {line : String}
    (returns : (announce context line).Returns trace (.ok ())) :
    trace.sent context.output.toNat = (line ++ "\n").toUTF8 := by
  obtain ⟨writing, last, written, rfl, writes, ended⟩ := Program.returns_bind_iff.mp returns
  cases written with
  | ok =>
      obtain ⟨rfl, _⟩ := Program.returns_done_iff.mp ended
      rw [List.append_nil]
      exact (Program.write_all_returns writes).1
  | error errno => cases (Program.returns_done_iff.mp ended).2

theorem announce_all_sends (returns : (announceAll context lines).Returns trace (.ok ())) :
    trace.sent context.output.toNat = (String.join (lines.map (· ++ "\n"))).toUTF8 := by
  induction lines generalizing trace with
  | nil =>
      obtain ⟨rfl, _⟩ := Program.returns_done_iff.mp returns
      rfl
  | cons line lines ih =>
      obtain ⟨before, after, first, rfl, announcing, going⟩ := Program.returns_bind_iff.mp returns
      cases first with
      | ok =>
          rw [Trace.sent_append, announce_sends announcing, ih going, List.map_cons,
            String.join_cons]
          exact String.toByteArray_append.symm
      | error failure => cases (Program.returns_done_iff.mp going).2

theorem announce_job_can_return (context : Context) (run : JobRun) :
    ∃ trace, (announceJob context run).Returns trace (.ok ()) := by
  rw [announce_job_eq]
  induction run.notices with
  | nil => exact ⟨[], .stop _⟩
  | cons line lines ih =>
      obtain ⟨after, announces⟩ := ih
      obtain ⟨before, writes⟩ :=
        Program.write_all_can_return context.output.toNat (line ++ "\n").toUTF8
      have announcing : (announce context line).Returns before (.ok ()) :=
        Program.Returns.bind writes _
      exact ⟨before ++ after, (Program.Returns.bind announcing _).trans announces⟩

end

end JobShell
