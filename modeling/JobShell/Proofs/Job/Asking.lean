import JobShell.Job.State
import JobShell.Proofs.System.Session

/-!
# Asking about a child

Every question about a child is one wait. An answer that leaves the state of the child open
is followed by the same question, and any other answer settles the state and is the last.
-/

namespace JobShell

open Unix

set_option autoImplicit false

/-- What an answer says of a stage. When asking failed, or the child was ended by a signal
without a name, the stage counts as done with exit code one. -/
inductive Unix.WaitAnswer.Settles : WaitAnswer → StageState → Prop where
  | exited (code : Int) : Settles (.exited code) (.done code)
  | killed (signal : Signal) : Settles (.killed signal.number) (.terminated signal)
  | stopped (signal : Signal) : Settles (.stopped signal) (.suspended signal)
  | failed {errno : Errno} (final : errno ≠ .interrupted) : Settles (.failed errno) (.done 1)
  | nameless {number : Nat} (unknown : ∀ signal : Signal, signal.number ≠ number) :
      Settles (.killed number) (.done 1)

/-- Answers about a child that tell its state: only the last one settles it. -/
inductive Unix.WaitAnswer.Tell : List WaitAnswer → StageState → Prop where
  | last {answer : WaitAnswer} {state : StageState} (settles : answer.Settles state) :
      Tell [answer] state
  | again {answer : WaitAnswer} {answers : List WaitAnswer} {state : StageState}
      (leavesOpen : answer.LeavesOpen) (later : Tell answers state) : Tell (answer :: answers) state

namespace StageState

variable {answer : WaitAnswer} {state : StageState}

theorem asks_again_iff : ofAnswer answer = .askAgain ↔ answer.LeavesOpen := by
  constructor
  · intro again
    cases answer with
    | exited code => cases again
    | stopped signal => cases again
    | resumed => exact .resumed
    | killed number =>
        simp only [ofAnswer] at again
        split at again <;> cases again
    | failed errno => cases errno <;> first | exact .interrupted | cases again
  · rintro (_ | _) <;> rfl

theorem number_of_signal {number : Nat} {signal : Signal}
    (named : Signal.ofNumber? number = some signal) : signal.number = number := by
  have matching := List.find?_some named
  exact beq_iff_eq.mp matching

theorem settles_iff :
    answer.Settles state ↔
      ofAnswer answer = .settled state ∨ ofAnswer answer = .gone ∧ state = .done 1 := by
  constructor
  · rintro (code | signal | signal | @⟨errno, final⟩ | @⟨number, unknown⟩)
    · exact .inl rfl
    · simp [ofAnswer, Signal.of_number_number]
    · exact .inl rfl
    · cases errno <;> first | exact absurd rfl final | exact .inr ⟨rfl, rfl⟩
    · cases named : Signal.ofNumber? number with
      | some signal => exact absurd (number_of_signal named) (unknown signal)
      | none => simp [ofAnswer, named]
  · rintro (settled | ⟨gone, rfl⟩)
    · cases answer with
      | exited code =>
          cases settled
          exact .exited code
      | stopped signal =>
          cases settled
          exact .stopped signal
      | resumed => cases settled
      | failed errno => cases errno <;> cases settled
      | killed number =>
          cases named : Signal.ofNumber? number with
          | none => simp [ofAnswer, named] at settled
          | some signal =>
              simp only [ofAnswer, named, Verdict.settled.injEq] at settled
              rw [← settled, ← number_of_signal named]
              exact .killed signal
    · cases answer with
      | exited code => cases gone
      | stopped signal => cases gone
      | resumed => cases gone
      | failed errno =>
          refine .failed ?_
          rintro rfl
          cases gone
      | killed number =>
          refine .nameless ?_
          rintro signal rfl
          simp [ofAnswer, Signal.of_number_number] at gone

theorem not_open_of_settles (settles : answer.Settles state) : ¬ answer.LeavesOpen := by
  cases settles with
  | failed final =>
      rintro ⟨⟩
      exact final rfl
  | _ => nofun

theorem told_is_final {answers : List WaitAnswer} (tell : WaitAnswer.Tell answers state) :
    state ≠ .running ∧ state ≠ .continued := by
  induction tell with
  | last settles => cases settles <;> exact ⟨nofun, nofun⟩
  | again leavesOpen later ih => exact ih

variable {again : Program (Option StageState)}

theorem hear_of_open (leavesOpen : answer.LeavesOpen) : hear again answer = again := by
  rw [hear, asks_again_iff.mpr leavesOpen]

theorem hear_of_settles (settles : answer.Settles state) :
    ∃ told, hear again answer = .done told ∧ told.getD (.done 1) = state := by
  rw [hear]
  rcases settles_iff.mp settles with settled | ⟨gone, rfl⟩
  · exact ⟨some state, by rw [settled]; rfl, rfl⟩
  · exact ⟨none, by rw [gone]; rfl, rfl⟩

theorem open_or_settles (answer : WaitAnswer) :
    answer.LeavesOpen ∨ ∃ state, answer.Settles state := by
  rw [← asks_again_iff]
  cases verdict : ofAnswer answer with
  | askAgain => exact .inl rfl
  | settled state => exact .inr ⟨state, settles_iff.mpr (.inl verdict)⟩
  | gone => exact .inr ⟨.done 1, settles_iff.mpr (.inr ⟨verdict, rfl⟩)⟩

end StageState

def Unix.Trace.asking (pid : Pid) (answers : List WaitAnswer) : Trace :=
  answers.map fun answer => ⟨.wait pid true, answer⟩

section

variable {pid : Pid} {turns : Nat} {trace : Trace} {told : Option StageState}

theorem await_child_succ (pid : Pid) (turns : Nat) :
    awaitChild pid (turns + 1) = .call (.wait pid true) (StageState.hear (awaitChild pid turns)) :=
  rfl

theorem await_child_only_calls {allowed : Call → Bool} (waits : allowed (.wait pid true) = true)
    (sleeps : allowed .pause = true) (turns : Nat) : (awaitChild pid turns).OnlyCalls allowed := by
  induction turns with
  | zero => exact ⟨sleeps, fun never => nomatch never⟩
  | succ turns ih =>
      rw [await_child_succ]
      refine ⟨waits, fun answer => ?_⟩
      rcases StageState.open_or_settles answer with leavesOpen | ⟨state, settles⟩
      · rw [StageState.hear_of_open leavesOpen]
        exact ih
      · obtain ⟨told, ended, -⟩ := StageState.hear_of_settles settles
        rw [ended]
        trivial

theorem await_child_returns (returns : (awaitChild pid turns).Returns trace told) :
    ∃ answers, trace = .asking pid answers ∧ WaitAnswer.Tell answers (told.getD (.done 1)) := by
  induction turns generalizing trace with
  | zero =>
      obtain ⟨never, _⟩ := Program.returns_call_iff.mp returns
      cases never
  | succ turns ih =>
      rw [await_child_succ] at returns
      obtain ⟨answer, later, rfl, heard⟩ := Program.returns_call_iff.mp returns
      rcases StageState.open_or_settles answer with leavesOpen | ⟨state, settles⟩
      · rw [StageState.hear_of_open leavesOpen] at heard
        obtain ⟨answers, rfl, tell⟩ := ih heard
        exact ⟨answer :: answers, rfl, .again leavesOpen tell⟩
      · obtain ⟨heardState, ended, rfl⟩ := StageState.hear_of_settles settles
        rw [ended] at heard
        obtain ⟨rfl, rfl⟩ := Program.returns_done_iff.mp heard
        exact ⟨[answer], rfl, .last settles⟩

theorem await_child_can_return {answers : List WaitAnswer} {state : StageState}
    (tell : WaitAnswer.Tell answers state) (patient : answers.length ≤ turns) :
    ∃ told, (awaitChild pid turns).Returns (.asking pid answers) told := by
  induction tell generalizing turns with
  | last settles =>
      obtain ⟨fewer, rfl⟩ := Nat.exists_eq_add_one_of_ne_zero (Nat.ne_zero_of_lt patient)
      obtain ⟨told, ended, -⟩ := StageState.hear_of_settles settles
      refine ⟨told, .step ?_⟩
      change (StageState.hear (awaitChild pid fewer) _).Follows _ _
      rw [ended]
      exact .stop _
  | again leavesOpen later ih =>
      obtain ⟨fewer, rfl⟩ := Nat.exists_eq_add_one_of_ne_zero (Nat.ne_zero_of_lt patient)
      obtain ⟨told, returns⟩ := ih (Nat.le_of_succ_le_succ patient)
      refine ⟨told, .step ?_⟩
      change (StageState.hear (awaitChild pid fewer) _).Follows _ _
      rw [StageState.hear_of_open leavesOpen]
      exact returns

end

end JobShell
