import JobShell.Proofs.Program.Delivery

/-!
# Programs that come back

A program stays when the process that runs it always gets a reply, whatever the replies are: it
never exits and never sleeps for ever. A child that it forks is another process and may do
both. Every moment of a program that stays can be continued until it has ended with a value.
-/

namespace JobShell.Unix

set_option autoImplicit false

namespace Program

variable {α β : Type}

/-- Every call that the process itself comes to has a reply. -/
def Stays : Program α → Prop
  | .done _ => True
  | .call request next =>
    request.neverReplies = false ∧
      ∀ reply, Trace.inChild [⟨request, reply⟩] = false → (next reply).Stays

theorem OnlyCalls.stays {allowed : Call → Bool} {program : Program α}
    (replies : ∀ call, allowed call = true → call.neverReplies = false)
    (only : program.OnlyCalls allowed) : program.Stays := by
  induction program with
  | done value => trivial
  | call request next ih => exact ⟨replies _ only.1, fun reply _ => ih reply (only.2 reply)⟩

theorem stays_bind {first : Program α} {following : α → Program β} (stays : first.Stays)
    (staysBehind : ∀ value, (following value).Stays) : (first.bind following).Stays := by
  induction first with
  | done value => exact staysBehind value
  | call request next ih =>
      exact ⟨stays.1, fun reply isFirst => ih reply (stays.2 reply isFirst)⟩

theorem Stays.along {program rest : Program α} {trace : Trace} (stays : program.Stays)
    (follows : program.Follows trace rest) (isFirst : trace.inChild = false) : rest.Stays := by
  induction follows with
  | stop program => exact stays
  | @step request next reply trace rest later ih =>
      rw [← List.singleton_append, Trace.in_child_append, Bool.or_eq_false_iff] at isFirst
      apply ih
      · exact stays.2 reply isFirst.1
      · exact isFirst.2

theorem Stays.can_return {program : Program α} (stays : program.Stays) :
    ∃ trace value, program.Returns trace value := by
  obtain ⟨trace, last, _, follows, _, _, isFirst, ends⟩ := program.can_end standardInput []
  have staysLast := stays.along follows isFirst
  cases last with
  | done value => exact ⟨trace, value, follows⟩
  | call request next => exact absurd ends (Bool.eq_false_iff.mp staysLast.1)

/-- A process that was not forked along the way can always go on until it has ended. -/
theorem Stays.can_go_on {program rest : Program α} {trace : Trace} (stays : program.Stays)
    (follows : program.Follows trace rest) (isFirst : trace.inChild = false) :
    ∃ more value, program.Returns (trace ++ more) value := by
  obtain ⟨more, value, returns⟩ := (stays.along follows isFirst).can_return
  exact ⟨more, value, follows.trans returns⟩

theorem OnlyCalls.in_child {allowed : Call → Bool} {program rest : Program α} {trace : Trace}
    (noFork : allowed .fork = false) (only : program.OnlyCalls allowed)
    (follows : program.Follows trace rest) : trace.inChild = false := by
  have made := only.along follows
  clear follows
  induction trace with
  | nil => rfl
  | cons exchange trace ih =>
      rw [List.forall_mem_cons] at made
      have notFork : exchange.request ≠ .fork := by
        intro isFork
        simp [isFork, noFork] at made
      rw [← List.singleton_append, Trace.in_child_append, Trace.in_child_of_not_fork notFork,
        ih made.2]
      rfl

end Program

end JobShell.Unix
