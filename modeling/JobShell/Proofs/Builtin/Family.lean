import JobShell.Proofs.Builtin.Outcome
import JobShell.Proofs.Text.Numeral
import Mathlib.Data.List.Basic

/-!
# Parents and children

The two questions that a process table is asked describe one tree: a process is listed among
the children of its parent, and only there. Each answer is printed as a whole, and a number
that is not in the table gets a complaint from both.
-/

namespace JobShell.Builtin

open Unix Text

set_option autoImplicit false

/-- What the builtin does when it sees some processes and both of its endpoints take bytes: it
comes to its end, and whenever it does, it has printed and complained so. -/
def Answers (processes : ProcessTable) (arguments : List String) (outcome : Outcome)
    (printed complained : String) : Prop :=
  ∀ (host : Host) (view : View) (output error : Descriptor), output ≠ error →
    (∃ own : Trace, (Builtin.mypid.invoke host view arguments output error).Returns
      (⟨.processes, processes⟩ :: own) ⟨outcome, none⟩ ∧
        own.Accepts output ∧ own.Accepts error) ∧
    ∀ (own : Trace) (result : Result),
      (Builtin.mypid.invoke host view arguments output error).Returns
        (⟨.processes, processes⟩ :: own) result → own.Accepts output → own.Accepts error →
      result = ⟨outcome, none⟩ ∧ own.sent output = printed.toUTF8 ∧
        own.sent error = complained.toUTF8

variable {processes : ProcessTable} {arguments : List String} {option : String} {pid : Nat}

theorem Answers.unique {outcome other : Outcome} {printed complained text message : String}
    (answers : Answers processes arguments outcome printed complained)
    (again : Answers processes arguments other text message) :
    outcome = other ∧ printed = text ∧ complained = message := by
  have host : Host := ⟨.done (), fun _ => .done (.ok "")⟩
  have view : View := ⟨1, none, [], 0⟩
  have distinct : standardOutput ≠ standardError := by decide
  obtain ⟨⟨own, returns, acceptsOutput, acceptsError⟩, _⟩ :=
    answers host view standardOutput standardError distinct
  obtain ⟨same, sent, told⟩ :=
    (answers host view standardOutput standardError distinct).2 own _ returns acceptsOutput
      acceptsError
  obtain ⟨sameAgain, sentAgain, toldAgain⟩ :=
    (again host view standardOutput standardError distinct).2 own _ returns acceptsOutput
      acceptsError
  refine ⟨congrArg Result.outcome sameAgain, ?_, ?_⟩
  · exact String.toByteArray_inj.mp (sent.symm.trans sentAgain)
  · exact String.toByteArray_inj.mp (told.symm.trans toldAgain)

def found (processes : ProcessTable) (option : String) (pid : Nat) : Option (List Nat) :=
  if option = "-p" then (ProcessTree.parent? processes pid).map fun parent => [parent]
  else ProcessTree.children? processes pid

end JobShell.Builtin
