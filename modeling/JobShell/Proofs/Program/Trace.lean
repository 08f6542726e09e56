import JobShell.Unix.Program
import Mathlib.Data.List.Induction

/-!
# Traces of a program

A trace is a sequence of calls together with the replies that they got. A program
follows a trace when it makes exactly these calls one after the other, and returns along
a trace when it has then ended with a value. A trace may stop anywhere, so what holds of
every trace that a program follows holds at every moment of every run.

A process that was forked has the trace of its parent up to the fork as the beginning of
its own. The reply to the fork tells the two apart.
-/

namespace JobShell.Unix

set_option autoImplicit false

def Call.transfers : Call → Bool
  | .read _ _ | .write _ _ => true
  | _ => false

structure Exchange where
  request : Call
  reply : request.Reply

abbrev Trace := List Exchange

namespace Trace

/-- A trace goes on as another one with calls that move no bytes. -/
def Grows (trace later : Trace) : Prop :=
  ∃ more, later = trace ++ more ∧ ∀ exchange ∈ more, exchange.request.transfers = false

/-- Whether the process of a trace was itself forked along it. -/
def inChild : Trace → Bool
  | [] => false
  | ⟨.fork, .ok none⟩ :: _ => true
  | _ :: rest => inChild rest

/-- The child that a call after a trace has forked, with the trace up to there. -/
def birth (before : Trace) : Exchange → List (Pid × Trace)
  | ⟨.fork, .ok (some child)⟩ => [(child, before)]
  | _ => []

def birthsAfter (before : Trace) : Trace → List (Pid × Trace)
  | [] => []
  | exchange :: later => birth before exchange ++ birthsAfter (before ++ [exchange]) later

def births (trace : Trace) : List (Pid × Trace) :=
  birthsAfter [] trace

theorem Grows.refl (trace : Trace) : trace.Grows trace :=
  ⟨[], (List.append_nil trace).symm, by simp⟩

theorem Grows.snoc (trace : Trace) {exchange : Exchange}
    (still : exchange.request.transfers = false) : trace.Grows (trace ++ [exchange]) :=
  ⟨[exchange], rfl, by simpa using still⟩

theorem Grows.trans {first second third : Trace} (one : first.Grows second)
    (other : second.Grows third) : first.Grows third := by
  obtain ⟨more, rfl, still⟩ := one
  obtain ⟨most, rfl, stillLater⟩ := other
  refine ⟨more ++ most, List.append_assoc .., fun exchange member => ?_⟩
  rcases List.mem_append.mp member with isFirst | isSecond
  · exact still exchange isFirst
  · exact stillLater exchange isSecond

theorem Grows.longer {trace later : Trace} (grows : trace.Grows later) : trace <+: later := by
  obtain ⟨more, rfl, _⟩ := grows
  exact List.prefix_append _ _

theorem in_child_append (first second : Trace) :
    (first ++ second).inChild = (first.inChild || second.inChild) := by
  induction first using inChild.induct with
  | case1 => rfl
  | case2 rest => rfl
  | case3 exchange rest notFork ih =>
      rw [List.cons_append, inChild.eq_3 _ _ notFork, inChild.eq_3 _ _ notFork, ih]

theorem births_after_append (before first second : Trace) :
    birthsAfter before (first ++ second) =
      birthsAfter before first ++ birthsAfter (before ++ first) second := by
  induction first generalizing before with
  | nil => simp [birthsAfter]
  | cons exchange first ih =>
      simp only [List.cons_append, birthsAfter, ih, List.append_assoc, List.nil_append]

theorem births_append (first second : Trace) :
    births (first ++ second) = births first ++ birthsAfter first second := by
  rw [births, births_after_append, List.nil_append]
  rfl

theorem births_snoc (trace : Trace) (exchange : Exchange) :
    births (trace ++ [exchange]) = births trace ++ birth trace exchange := by
  rw [births_append, birthsAfter, birthsAfter, List.append_nil]

def children (trace : Trace) : List Pid :=
  trace.births.map Prod.fst

theorem births_after_numbers (before other trace : Trace) :
    (birthsAfter before trace).map Prod.fst = (birthsAfter other trace).map Prod.fst := by
  induction trace generalizing before other with
  | nil => rfl
  | cons exchange trace ih =>
      have here : (birth before exchange).map Prod.fst = (birth other exchange).map Prod.fst := by
        unfold birth
        split <;> rfl
      rw [birthsAfter, birthsAfter, List.map_append, List.map_append, here, ih]

theorem children_append (first second : Trace) :
    (first ++ second).children = first.children ++ second.children := by
  rw [children, births_append, List.map_append, births_after_numbers first []]
  rfl

theorem longer_of_birth {trace : Trace} {birth : Pid × Trace} (born : birth ∈ trace.births) :
    birth.2 <+: trace := by
  induction trace using List.reverseRecOn with
  | nil => cases born
  | append_singleton trace exchange ih =>
      rw [births_snoc] at born
      rcases List.mem_append.mp born with isOld | isNew
      · exact (ih isOld).trans (List.prefix_append _ _)
      · unfold Trace.birth at isNew
        split at isNew
        · rw [List.mem_singleton.mp isNew]
          exact List.prefix_append _ _
        · cases isNew

theorem in_child_of_longer_not {trace later : Trace} (longer : trace <+: later)
    (isFirst : later.inChild = false) : trace.inChild = false := by
  obtain ⟨more, rfl⟩ := longer
  rw [in_child_append, Bool.or_eq_false_iff] at isFirst
  exact isFirst.1

/-- A child knows where it was forked. -/
theorem fork_unique {before other own rest : Trace} (isFirst : before.inChild = false)
    (otherIsFirst : other.inChild = false)
    (same : before ++ ⟨.fork, .ok none⟩ :: own = other ++ ⟨.fork, .ok none⟩ :: rest) :
    before = other := by
  rcases List.append_eq_append_iff.mp same with ⟨between, rfl, split⟩ | ⟨between, rfl, split⟩
  · cases between with
    | nil => exact (List.append_nil before).symm
    | cons exchange between =>
        obtain ⟨rfl, _⟩ := List.cons.inj split
        rw [in_child_append, isFirst] at otherIsFirst
        cases otherIsFirst
  · cases between with
    | nil => exact List.append_nil other
    | cons exchange between =>
        obtain ⟨rfl, _⟩ := List.cons.inj split
        rw [in_child_append, otherIsFirst] at isFirst
        cases isFirst

theorem birth_of_not_fork {before : Trace} {exchange : Exchange}
    (notFork : exchange.request ≠ .fork) : birth before exchange = [] := by
  obtain ⟨request, reply⟩ := exchange
  cases request <;> first | rfl | exact absurd rfl notFork

theorem in_child_of_not_fork {exchange : Exchange} (notFork : exchange.request ≠ .fork) :
    inChild [exchange] = false := by
  obtain ⟨request, reply⟩ := exchange
  cases request <;> first | rfl | exact absurd rfl notFork

theorem children_of_not_fork {trace : Trace}
    (noFork : ∀ exchange ∈ trace, exchange.request ≠ .fork) :
    trace.children = [] := by
  induction trace with
  | nil => rfl
  | cons exchange trace ih =>
      rw [List.forall_mem_cons] at noFork
      have whole := children_append [exchange] trace
      rw [ih noFork.2, List.append_nil] at whole
      rw [← List.singleton_append, whole, children, births, birthsAfter, birthsAfter,
        birth_of_not_fork noFork.1]
      rfl

end Trace

namespace Program

variable {α β : Type}

/-- Makes the calls of a trace, gets their replies and is left as the last program. -/
inductive Follows : Program α → Trace → Program α → Prop where
  | stop (program : Program α) : Follows program [] program
  | step {request : Call} {next : request.Reply → Program α} {reply : request.Reply}
      {trace : Trace} {rest : Program α} (later : Follows (next reply) trace rest) :
      Follows (.call request next) (⟨request, reply⟩ :: trace) rest

def Returns (program : Program α) (trace : Trace) (value : α) : Prop :=
  program.Follows trace (.done value)

@[simp]
theorem done_bind (value : α) (following : α → Program β) :
    (Program.done value).bind following = following value :=
  rfl

@[simp]
theorem call_bind {request : Call} (next : request.Reply → Program α)
    (following : α → Program β) :
    (Program.call request next).bind following =
      .call request fun reply => (next reply).bind following :=
  rfl

theorem exit_bind (code : Int) (following : α → Program β) :
    (exit code : Program α).bind following = exit code :=
  congrArg (Program.call (.exit code)) (funext fun never => nomatch never)

theorem follows_nil_iff {program rest : Program α} :
    program.Follows [] rest ↔ rest = program := by
  constructor
  · intro follows
    cases follows
    rfl
  · rintro rfl
    exact .stop _

theorem follows_done_iff {value : α} {trace : Trace} {rest : Program α} :
    (Program.done value).Follows trace rest ↔ trace = [] ∧ rest = .done value := by
  constructor
  · intro follows
    cases follows
    exact ⟨rfl, rfl⟩
  · rintro ⟨rfl, rfl⟩
    exact .stop _

theorem follows_call_iff {request : Call} {next : request.Reply → Program α} {trace : Trace}
    {rest : Program α} :
    (Program.call request next).Follows trace rest ↔
      trace = [] ∧ rest = .call request next ∨
        ∃ reply later, trace = ⟨request, reply⟩ :: later ∧ (next reply).Follows later rest := by
  constructor
  · intro follows
    cases follows with
    | stop => exact .inl ⟨rfl, rfl⟩
    | step later => exact .inr ⟨_, _, rfl, later⟩
  · rintro (⟨rfl, rfl⟩ | ⟨reply, later, rfl, follows⟩)
    · exact .stop _
    · exact .step follows

theorem Follows.trans {program middle rest : Program α} {first second : Trace}
    (before : program.Follows first middle) (after : middle.Follows second rest) :
    program.Follows (first ++ second) rest := by
  induction before with
  | stop program => exact after
  | step later ih => exact .step (ih after)

theorem Follows.cut {program rest : Program α} {first second : Trace}
    (follows : program.Follows (first ++ second) rest) :
    ∃ middle, program.Follows first middle ∧ middle.Follows second rest := by
  induction first generalizing program with
  | nil => exact ⟨program, .stop program, follows⟩
  | cons exchange first ih =>
      cases follows with
      | step later =>
          obtain ⟨middle, before, after⟩ := ih later
          exact ⟨middle, .step before, after⟩

theorem Follows.unique {program rest other : Program α} {trace : Trace}
    (follows : program.Follows trace rest) (again : program.Follows trace other) :
    rest = other := by
  induction follows with
  | stop program => exact (follows_nil_iff.mp again).symm
  | step later ih =>
      cases again with
      | step again => exact ih again

theorem returns_done_iff {value result : α} {trace : Trace} :
    (Program.done value).Returns trace result ↔ trace = [] ∧ result = value := by
  rw [Returns, follows_done_iff, Program.done.injEq]

theorem returns_call_iff {request : Call} {next : request.Reply → Program α} {trace : Trace}
    {result : α} :
    (Program.call request next).Returns trace result ↔
      ∃ reply later, trace = ⟨request, reply⟩ :: later ∧ (next reply).Returns later result := by
  rw [Returns, follows_call_iff]
  constructor
  · rintro (⟨_, impossible⟩ | found)
    · cases impossible
    · exact found
  · exact .inr

theorem follows_bind {first middle : Program α} {following : α → Program β} {trace : Trace}
    (follows : first.Follows trace middle) :
    (first.bind following).Follows trace (middle.bind following) := by
  induction follows with
  | stop program => exact .stop _
  | step later ih => exact .step ih

theorem Returns.bind {first : Program α} {trace : Trace} {value : α}
    (returns : first.Returns trace value)
    (following : α → Program β) : (first.bind following).Follows trace (following value) :=
  follows_bind returns

theorem returns_bind_iff {first : Program α} {following : α → Program β} {trace : Trace}
    {result : β} :
    (first.bind following).Returns trace result ↔
      ∃ before after value, trace = before ++ after ∧ first.Returns before value ∧
        (following value).Returns after result := by
  constructor
  · intro returns
    induction first generalizing trace with
    | done value => exact ⟨[], trace, value, rfl, returns_done_iff.mpr ⟨rfl, rfl⟩, returns⟩
    | call request next ih =>
        rw [call_bind, returns_call_iff] at returns
        obtain ⟨reply, later, rfl, returns⟩ := returns
        obtain ⟨before, after, value, rfl, returnsFirst, returnsRest⟩ := ih reply returns
        exact ⟨⟨request, reply⟩ :: before, after, value, rfl, .step returnsFirst, returnsRest⟩
  · rintro ⟨before, after, value, rfl, returnsFirst, returnsRest⟩
    exact (follows_bind returnsFirst).trans returnsRest

theorem returns_bind_append_iff {first : Program α} {following : α → Program β}
    {trace later : Trace} {value : α} {result : β} (returns : first.Returns trace value) :
    (first.bind following).Returns (trace ++ later) result ↔
      (following value).Returns later result := by
  have going := Returns.bind returns following
  constructor
  · intro whole
    obtain ⟨middle, before, after⟩ := whole.cut
    rw [before.unique going] at after
    exact after
  · exact going.trans

/-- A program that depends on the value of another one makes a call of the first, or the
first has returned. -/
theorem follows_bind_cases {first : Program α} {following : α → Program β} {trace : Trace}
    {rest : Program β} (follows : (first.bind following).Follows trace rest) :
    (∃ request next, first.Follows trace (.call request next) ∧
        rest = (Program.call request next).bind following) ∨
      ∃ before after value, trace = before ++ after ∧ first.Returns before value ∧
        (following value).Follows after rest := by
  induction first generalizing trace with
  | done value => exact .inr ⟨[], trace, value, rfl, .stop _, follows⟩
  | call request next ih =>
      rw [call_bind, follows_call_iff] at follows
      rcases follows with ⟨rfl, rfl⟩ | ⟨reply, later, rfl, follows⟩
      · exact .inl ⟨request, next, .stop _, rfl⟩
      · rcases ih reply follows with
          ⟨asked, goesOn, inFirst, rfl⟩ | ⟨before, after, value, rfl, returns, inRest⟩
        · exact .inl ⟨asked, goesOn, .step inFirst, rfl⟩
        · exact .inr ⟨⟨request, reply⟩ :: before, after, value, rfl, .step returns, inRest⟩

theorem only_calls_mono {allowed wider : Call → Bool} {program : Program α}
    (implies : ∀ call, allowed call = true → wider call = true)
    (only : program.OnlyCalls allowed) : program.OnlyCalls wider := by
  induction program with
  | done value => exact trivial
  | call request next ih => exact ⟨implies _ only.1, fun reply => ih reply (only.2 reply)⟩

theorem OnlyCalls.along {allowed : Call → Bool} {program rest : Program α} {trace : Trace}
    (only : program.OnlyCalls allowed) (follows : program.Follows trace rest) :
    ∀ exchange ∈ trace, allowed exchange.request = true := by
  induction follows with
  | stop program => simp
  | step later ih =>
      obtain ⟨isAllowed, onlyNext⟩ := only
      intro exchange member
      rcases List.mem_cons.mp member with rfl | member
      · exact isAllowed
      · exact ih (onlyNext _) exchange member

theorem OnlyCalls.asks {allowed : Call → Bool} {program : Program α} {trace : Trace}
    {request : Call} {next : request.Reply → Program α} (only : program.OnlyCalls allowed)
    (follows : program.Follows trace (.call request next)) : allowed request = true := by
  generalize left : Program.call request next = rest at follows
  induction follows with
  | stop program =>
      subst left
      exact only.1
  | step later ih => exact ih (only.2 _) left

end Program

end JobShell.Unix
