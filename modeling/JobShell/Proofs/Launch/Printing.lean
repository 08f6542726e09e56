import JobShell.Proofs.Program.Writing
import JobShell.Shell.Basic

/-!
# What builtins write

A builtin writes to its output only when it answers with a text to print, and then what
it has written and what it has left to write make up that text. All its other writes are
complaints.
-/

namespace JobShell

open Unix

set_option autoImplicit false

namespace Builtin

def printed (label : String) (error : Descriptor) : Except Errno Unit → Program Result
  | .ok _ => .done ⟨.handled, none⟩
  | .error errno => complainOn error (label ++ ": " ++ errno.ioMessage)

theorem carry_out_print (host : Host) (output error : Descriptor) (label text : String) :
    (Response.print label text).carryOut host output error =
      (Program.writeAll output text.toUTF8).bind (printed label error) := by
  refine congrArg (Program.bind _) (funext fun written => ?_)
  cases written <;> rfl

theorem complain_on_returns {error : Descriptor} {message : String} {own : Trace} {result : Result}
    (returns : (complainOn error message).Returns own result) : result = ⟨.failed, none⟩ := by
  obtain ⟨_, _, _, _, _, ended⟩ := Program.returns_bind_iff.mp returns
  exact (Program.returns_done_iff.mp ended).2

theorem print_returns {host : Host} {output error : Descriptor} {label text : String} {own : Trace}
    {result : Result}
    (returns : ((Response.print label text).carryOut host output error).Returns own result)
    (succeeds : result.outcome = .handled) :
    own.sent output = text.toUTF8 ∧
      ∀ exchange ∈ own, exchange.request.writesTo output = true := by
  rw [carry_out_print] at returns
  obtain ⟨writing, rest, answer, rfl, writes, ended⟩ := Program.returns_bind_iff.mp returns
  cases answer with
  | error errno =>
      rw [complain_on_returns ended] at succeeds
      cases succeeds
  | ok =>
      obtain ⟨rfl, _⟩ := Program.returns_done_iff.mp ended
      rw [List.append_nil]
      exact Program.write_all_returns writes

theorem complain_on_writes (error : Descriptor) (message : String) :
    (complainOn error message).OnlyCalls (Call.writesTo error) := by
  refine Program.only_calls_bind ?_ fun _ => trivial
  exact Program.only_calls_bind
    (Program.write_from_only_calls (fun _ => beq_self_eq_true error) _ _) fun _ => trivial

theorem enter_still (directory : String) :
    (Shell.host.enter directory).OnlyCalls Call.isStill := by
  change (Shell.enter directory).OnlyCalls Call.isStill
  unfold Shell.enter
  split
  · exact trivial
  · refine ⟨rfl, fun changed => ?_⟩
    cases changed with
    | error errno => exact trivial
    | ok =>
        refine ⟨rfl, fun found => ?_⟩
        cases found with
        | error errno => exact trivial
        | ok directory => exact trivial

theorem process_table_still (builtin : Builtin) :
    builtin.processTable.OnlyCalls Call.isStill := by
  cases builtin with
  | mypid => exact ⟨rfl, fun _ => trivial⟩
  | _ => exact trivial

def WritesText (response : Response) (output error : Descriptor) (own : Trace)
    (target : Descriptor) (bytes : ByteArray) (program : Program Result) : Prop :=
  ∃ label text turns, response = .print label text ∧ target = output ∧
    0 < bytes.size ∧ bytes.size ≤ turns ∧ own.sent output ++ bytes = text.toUTF8 ∧
    (∀ exchange ∈ own, exchange.request.isStill || exchange.request.writesTo output) ∧
    program = (Program.writeFrom output turns bytes).bind (printed label error)

theorem carry_out_writes {response : Response} {output error target : Descriptor} {own : Trace}
    {bytes : ByteArray} {inner : Except Errno Nat → Program Result}
    (follows : (response.carryOut Shell.host output error).Follows own
      (.call (.write target bytes) inner)) :
    target = error ∨
      WritesText response output error own target bytes (.call (.write target bytes) inner) := by
  have complains {message : String} {trace : Trace}
      (inside : (complainOn error message).Follows trace (.call (.write target bytes) inner)) :
      target = error := by
    have allowed := (complain_on_writes error message).asks inside
    exact beq_iff_eq.mp allowed
  cases response with
  | complain message => exact .inl (complains follows)
  | leave =>
      rcases Program.follows_call_iff.mp follows with ⟨_, impossible⟩ | ⟨never, _⟩
      · cases impossible
      · exact nomatch never
  | enter directory =>
      rcases Program.follows_bind_cases follows with
        ⟨request, next, inside, same⟩ | ⟨before, after, entered, rfl, _, inside⟩
      · have allowed := (enter_still directory).asks inside
        cases same
        cases allowed
      · cases entered with
        | ok path =>
            obtain ⟨_, impossible⟩ := Program.follows_done_iff.mp inside
            cases impossible
        | error reason => exact .inl (complains inside)
  | print label text =>
      rw [carry_out_print] at follows
      rcases Program.follows_bind_cases follows with
        ⟨request, next, inside, same⟩ | ⟨before, after, written, rfl, _, inside⟩
      · rcases Program.write_from_follows inside (Nat.le_refl _) with
          ⟨errno, impossible⟩ | ⟨turns, left, asked, fits, made⟩
        · cases impossible
        · rcases Nat.eq_zero_or_pos left.size with empty | nonempty
          · rw [Program.write_from_of_empty empty] at asked
            cases asked
          · obtain ⟨turns, rfl⟩ : ∃ fewer, turns = fewer + 1 :=
              ⟨turns - 1, by omega⟩
            rw [asked] at same
            have program := same
            rw [Program.write_from_of_nonempty nonempty] at same
            cases same
            have only : (Program.writeAll output text.toUTF8).OnlyCalls (Call.writesTo output) :=
              Program.write_from_only_calls (fun _ => beq_self_eq_true output) _ _
            have writes := only.along inside
            refine .inr ⟨label, text, turns + 1, rfl, rfl, nonempty, fits, made, ?_, program⟩
            intro exchange member
            exact Bool.or_eq_true_iff.mpr (.inr (writes exchange member))
      · cases written with
        | ok =>
            obtain ⟨_, impossible⟩ := Program.follows_done_iff.mp inside
            cases impossible
        | error errno => exact .inl (complains inside)

theorem invoke_writes {builtin : Builtin} {view : View} {arguments : List String}
    {output error target : Descriptor} {own : Trace} {bytes : ByteArray}
    {inner : Except Errno Nat → Program Result}
    (follows : (builtin.invoke Shell.host view arguments output error).Follows own
      (.call (.write target bytes) inner)) :
    target = error ∨ ∃ processes, WritesText (builtin.respond view processes arguments) output
      error own target bytes (.call (.write target bytes) inner) := by
  rcases Program.follows_bind_cases follows with
    ⟨request, next, inside, same⟩ | ⟨before, after, processes, rfl, returns, inside⟩
  · have allowed := builtin.process_table_still.asks inside
    cases same
    cases allowed
  · have still := builtin.process_table_still.along returns
    rcases carry_out_writes inside with complains |
      ⟨label, text, turns, answer, isOutput, nonempty, fits, made, writes, program⟩
    · exact .inl complains
    · refine .inr ⟨processes, label, text, turns, answer, isOutput, nonempty, fits, ?_, ?_, program⟩
      · rw [Trace.sent_append, Trace.sent_of_still output still, ByteArray.empty_append]
        exact made
      · rw [List.forall_mem_append]
        refine ⟨fun exchange member => ?_, writes⟩
        exact Bool.or_eq_true_iff.mpr (.inl (still exchange member))

end Builtin

end JobShell
