import JobShell.Proofs.Program.Trace

/-!
# Contracts of programs

A contract says, after each trace, which replies a program may expect and which calls it
may make then, and how it may go on with the reply. A program meets a contract with a
goal when every call that it makes on expected replies is a permitted one and every value
that it returns is in the goal. As the trace so far is all that a contract remembers, one
recursion over the program covers every invariant of its runs, and a program is shown to
meet a contract part by part, in the order of its text. What a contract demands of the way
in which a program goes on may therefore not depend on what comes behind the program.
-/

namespace JobShell.Unix

set_option autoImplicit false

/-- What a program may expect and what it has to keep to, after the trace so far. -/
structure Contract where
  allows : Trace → Exchange → Prop
  demands : Trace → {α : Type} → (request : Call) → (request.Reply → Program α) → Prop
  demands_bind : ∀ {trace : Trace} {α β : Type} {request : Call}
    {next : request.Reply → Program α} (following : α → Program β),
    demands trace request next → demands trace request fun reply => (next reply).bind following

namespace Contract

def Admits (contract : Contract) (before : Trace) : Trace → Prop
  | [] => True
  | exchange :: later =>
    contract.allows before exchange ∧ contract.Admits (before ++ [exchange]) later

end Contract

namespace Program

variable {α β : Type} {contract : Contract}

def Meets (contract : Contract) (goal : Trace → α → Prop) : Program α → Trace → Prop
  | .done value, trace => goal trace value
  | .call request next, trace =>
    contract.demands trace request next ∧
      ∀ reply, contract.allows trace ⟨request, reply⟩ →
        (next reply).Meets contract goal (trace ++ [⟨request, reply⟩])

theorem meets_mono {weaker stronger : Trace → α → Prop} {program : Program α} {trace : Trace}
    (implies : ∀ trace value, stronger trace value → weaker trace value)
    (meets : program.Meets contract stronger trace) :
    program.Meets contract weaker trace := by
  induction program generalizing trace with
  | done value => exact implies trace value meets
  | call request next ih =>
      obtain ⟨permitted, later⟩ := meets
      exact ⟨permitted, fun reply expected => ih reply (later reply expected)⟩

theorem meets_bind {first : Program α} {following : α → Program β} {goal : Trace → β → Prop}
    {trace : Trace}
    (meets : first.Meets contract
      (fun trace value => (following value).Meets contract goal trace) trace) :
    (first.bind following).Meets contract goal trace := by
  induction first generalizing trace with
  | done value => exact meets
  | call request next ih =>
      obtain ⟨permitted, later⟩ := meets
      exact ⟨contract.demands_bind following permitted,
        fun reply expected => ih reply (later reply expected)⟩

theorem meets_bind_of {first : Program α} {following : α → Program β} {reached : Trace → α → Prop}
    {goal : Trace → β → Prop} {trace : Trace} (meets : first.Meets contract reached trace)
    (rest : ∀ later value, reached later value → (following value).Meets contract goal later) :
    (first.bind following).Meets contract goal trace :=
  meets_bind (meets_mono rest meets)

/-- A program that meets a contract still does so after any expected trace, and what is
left of it is all that its goal depends on. -/
theorem Meets.along {program rest : Program α} {goal : Trace → α → Prop} {before trace : Trace}
    (meets : program.Meets contract goal before) (follows : program.Follows trace rest)
    (admitted : contract.Admits before trace) :
    rest.Meets contract goal (before ++ trace) := by
  induction follows generalizing before with
  | stop program => simpa using meets
  | step later ih =>
      obtain ⟨expected, admittedLater⟩ := admitted
      have met := ih (meets.2 _ expected) admittedLater
      simpa using met

/-- A program meets every contract that its calls cannot break, and the goal may tell the
trace that it made by itself. -/
theorem meets_own_trace (contract : Contract) (kept : Trace → Prop) {allowed : Call → Bool}
    {program : Program α} {trace : Trace} (only : program.OnlyCalls allowed) (holds : kept trace)
    (permits : ∀ own call next, kept (trace ++ own) → allowed call = true →
      program.Follows own (.call call next) → contract.demands (trace ++ own) call next)
    (keeps : ∀ own exchange, kept (trace ++ own) → allowed exchange.request = true →
      kept (trace ++ own ++ [exchange])) :
    program.Meets contract
      (fun later value => ∃ own, later = trace ++ own ∧ program.Returns own value ∧ kept later)
      trace := by
  induction program generalizing trace with
  | done value => exact ⟨[], by simp, returns_done_iff.mpr ⟨rfl, rfl⟩, holds⟩
  | call request next ih =>
      obtain ⟨isAllowed, onlyNext⟩ := only
      constructor
      · simpa using permits [] request next (by simpa using holds) isAllowed (.stop _)
      · intro reply _
        have keptHere : kept (trace ++ [⟨request, reply⟩]) := by
          simpa using keeps [] ⟨request, reply⟩ (by simpa using holds) isAllowed
        refine meets_mono ?_ (ih reply (onlyNext reply) keptHere ?_ ?_)
        · rintro later value ⟨own, rfl, returns, keptLater⟩
          exact ⟨⟨request, reply⟩ :: own, by simp, .step returns, keptLater⟩
        · intro own call rest keptOwn isAllowedCall follows
          have permitted := permits (⟨request, reply⟩ :: own) call rest (by simpa using keptOwn)
            isAllowedCall (.step follows)
          simpa using permitted
        · intro own exchange keptOwn isAllowedCall
          have kept := keeps (⟨request, reply⟩ :: own) exchange (by simpa using keptOwn)
            isAllowedCall
          simpa using kept

end Program

end JobShell.Unix
