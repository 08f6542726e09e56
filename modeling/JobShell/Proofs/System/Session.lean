import JobShell.Proofs.System.Sound
import Mathlib.Data.List.Forall2

/-!
# Process groups and the terminal

The processes of a program belong to process groups, and one group is in the foreground of
the terminal. What the kernel says to the calls that concern this is fixed here, beside the
steps that the processes can make. A process can be put into a group by itself, or by its
parent as long as it has not started another program. A group can be joined while it has a
member, and everyone can begin a group of their own number. A process that has ended stays
where it is until its parent has been told so. A program that has been started does nothing
to the groups and the terminal.
-/

namespace JobShell.Unix

set_option autoImplicit false

/-- The trace of a child consists of the trace of its parent up to the fork and of its own. -/
structure Trace.IsForked (trace before own : Trace) : Prop where
  isFirst : before.inChild = false
  split : trace = before ++ ⟨.fork, .ok none⟩ :: own

inductive WaitAnswer.LeavesOpen : WaitAnswer → Prop where
  | interrupted : LeavesOpen (.failed .interrupted)
  | resumed : LeavesOpen .resumed

/-- What the kernel knows of each process by its number, the children that have ended and
have been waited for, and the foreground group of the terminal. -/
structure Control where
  parent : Pid → Option Pid
  group : Pid → Pid
  collected : List Pid
  foreground : Pid

/-- A number in a call, where zero stands for another one. -/
def Control.named (other number : Pid) : Pid :=
  if number = 0 then other else number

structure Session (α : Type) where
  world : World α
  control : Control

namespace Member

variable {α : Type}

def IsRunning (member : Member α) : Prop :=
  ∃ program, member.activity = .running program

def HasStarted (member : Member α) : Prop :=
  ∃ arguments received, member.activity = .started arguments received

/-- The signals of the terminal can stop a process once it has taken its signals back. -/
def CanBeStopped (member : Member α) : Prop :=
  member.HasStarted ∨ ∃ before own signals reply, member.trace.IsForked before own ∧
    ⟨.setSignals signals .default, reply⟩ ∈ own

end Member

namespace Session

variable {α : Type}

def initial (start : Holdings) (pid group : Pid) (program : Program α) : Session α where
  world := .initial start pid program
  control := ⟨fun _ => none, fun _ => group, [], group⟩

def HasMember (session : Session α) (group : Pid) : Prop :=
  ∃ member ∈ session.world.members, member.pid ∉ session.control.collected ∧
    session.control.group member.pid = group

/-- Whether the caller can put a process into a group. -/
def MayJoin (session : Session α) (caller : Member α) (subject group : Pid) : Prop :=
  subject ∉ session.control.collected ∧
    (subject = caller.pid ∨ session.control.parent subject = some caller.pid ∧
      ∀ member ∈ session.world.members, member.pid = subject → ¬ member.HasStarted) ∧
    (group = subject ∨ session.HasMember group)

/-- What a wait can say of a child, and what is known then. -/
def Reports (session : Session α) (child : Pid) : WaitAnswer → Control → Prop
  | .exited _, control | .killed _, control =>
    (∀ member ∈ session.world.members, member.pid = child → ¬ member.IsRunning) ∧
      control = { session.control with collected := child :: session.control.collected }
  | .stopped _, control =>
    (∀ member ∈ session.world.members, member.pid = child → member.CanBeStopped) ∧
      control = session.control
  | .resumed, control | .failed .interrupted, control => control = session.control
  | .failed _, _ => False

/-- Which replies a call of a process can get, and what is known afterwards. -/
def Governs (session : Session α) (caller : Member α) : Exchange → Control → Prop
  | ⟨.ownPid, pid⟩, control => pid = caller.pid ∧ control = session.control
  | ⟨.fork, .ok (some child)⟩, control =>
    0 < child ∧ control =
      { session.control with
        parent := Function.update session.control.parent child (some caller.pid)
        group := Function.update session.control.group child (session.control.group caller.pid) }
  | ⟨.joinGroup subject group, .ok _⟩, control =>
    let subject := Control.named caller.pid subject
    let group := Control.named subject group
    session.MayJoin caller subject group ∧ control =
      { session.control with group := Function.update session.control.group subject group }
  | ⟨.joinGroup subject group, .error _⟩, control =>
    let subject := Control.named caller.pid subject
    ¬ session.MayJoin caller subject (Control.named subject group) ∧ control = session.control
  | ⟨.giveTerminal group, .ok _⟩, control =>
    control = { session.control with foreground := group }
  | ⟨.wait child _, answer⟩, control =>
    if session.control.parent child = some caller.pid ∧ child ∉ session.control.collected then
      session.Reports child answer control
    else control = session.control
  | _, control => control = session.control

theorem governs_join {session : Session α} {caller : Member α} {child : Pid} (nonzero : child ≠ 0)
    (isChild : session.control.parent child = some caller.pid)
    (waiting : child ∉ session.control.collected)
    (running : ∀ member ∈ session.world.members, member.pid = child → member.IsRunning) :
    session.Governs caller ⟨.joinGroup child child, .ok ()⟩
      { session.control with group := Function.update session.control.group child child } := by
  simp only [Governs, Control.named, if_neg nonzero, and_true]
  refine ⟨waiting, .inr ⟨isChild, fun member among same => ?_⟩, .inl rfl⟩
  rintro ⟨_, _, hasStarted⟩
  obtain ⟨_, runs⟩ := running member among same
  rw [hasStarted] at runs
  cases runs

theorem governs_exited {session : Session α} {caller : Member α} {child : Pid}
    (isChild : session.control.parent child = some caller.pid)
    (waiting : child ∉ session.control.collected)
    (ended : ∀ member ∈ session.world.members, member.pid = child → ¬ member.IsRunning)
    (reportStops : Bool) (code : Int) :
    session.Governs caller ⟨.wait child reportStops, .exited code⟩
      { session.control with collected := child :: session.control.collected } := by
  simp only [Governs]
  rw [if_pos ⟨isChild, waiting⟩]
  exact ⟨ended, rfl⟩

/-- One step of one of the processes: a call that the kernel answers, or something else, of
which the kernel learns nothing. -/
inductive Step (capacity : Nat) : Session α → Session α → Prop where
  | call {session : Session α} {world : World α} {control : Control}
      {before after later : List (Member α)} {member changed : Member α} {exchange : Exchange}
      (step : Unix.Step capacity session.world world)
      (among : session.world.members = before ++ member :: after)
      (becomes : world.members = before ++ changed :: later)
      (made : changed.trace = member.trace ++ [exchange])
      (governed : session.Governs member exchange control) : Step capacity session ⟨world, control⟩
  | other {session : Session α} {world : World α} (step : Unix.Step capacity session.world world)
      (noCall : world.members.map Member.trace = session.world.members.map Member.trace) :
      Step capacity session ⟨world, session.control⟩

abbrev Run (capacity : Nat) : Session α → Session α → Prop :=
  Relation.ReflTransGen (Step capacity)

theorem Step.answer {capacity : Nat} {session : Session α} {after : List (Member α)}
    {member : Member α} {contents : Nat → ByteArray} {control : Control}
    (before : List (Member α)) (request : Call) {next : request.Reply → Program α}
    (reply : request.Reply) (among : session.world.members = before ++ member :: after)
    (asks : member.activity = .running (.call request next))
    (single : Exchange.forks ⟨request, reply⟩ = false)
    (expected : (session.world.holdings member).Expects ⟨request, reply⟩)
    (moved : session.world.Transfers capacity member ⟨request, reply⟩ contents)
    (governed : session.Governs member ⟨request, reply⟩ control) :
    Step capacity session
      ⟨{ files := ((session.world.holdings member).after ⟨request, reply⟩).files
         contents := contents
         members := before ++
           ⟨member.pid, member.trace ++ [⟨request, reply⟩],
             ((session.world.holdings member).after ⟨request, reply⟩).table,
             .running (next reply)⟩ :: after }, control⟩ :=
  .call (.answer among asks single expected moved) among rfl rfl governed

def Reaches (capacity : Nat) (goal : Session α → Prop) (session : Session α) : Prop :=
  ∃ later, Run capacity session later ∧ goal later

theorem Reaches.here {capacity : Nat} {goal : Session α → Prop} {session : Session α}
    (reached : goal session) : Reaches capacity goal session :=
  ⟨session, .refl, reached⟩

theorem Reaches.step {capacity : Nat} {goal : Session α → Prop} {session next : Session α}
    (first : Step capacity session next) (rest : Reaches capacity goal next) :
    Reaches capacity goal session := by
  obtain ⟨later, run, reached⟩ := rest
  exact ⟨later, .head first run, reached⟩

end Session

variable {α : Type} {whole : Program α} {start : Holdings} {capacity : Nat}

theorem Session.Step.world {session later : Session α}
    (step : Session.Step capacity session later) :
    Unix.Step capacity session.world later.world := by
  cases step <;> assumption

theorem Session.Run.world {session later : Session α} (run : Session.Run capacity session later) :
    Unix.Run capacity session.world later.world := by
  induction run with
  | refl => exact .refl
  | tail _ step ih => exact ih.tail step.world

theorem replaced_once {γ : Type} {before after before' after' later more : List γ}
    {old new old' new' : γ}
    (list : before ++ old :: after = before' ++ old' :: after')
    (replaced : before ++ new :: later = before' ++ new' :: (after' ++ more))
    (changed : old ≠ new) :
    before' = before ∧ old' = old ∧ after' = after ∧ new' = new ∧ later = after ++ more := by
  rcases List.append_eq_append_iff.mp list with ⟨between, rfl, split⟩ | ⟨between, rfl, split⟩
  · cases between with
    | nil =>
        obtain ⟨rfl, rfl⟩ := List.cons.inj split
        rw [List.append_nil, List.append_cancel_left_eq] at replaced
        obtain ⟨rfl, rfl⟩ := List.cons.inj replaced
        exact ⟨List.append_nil _, rfl, rfl, rfl, rfl⟩
    | cons head between =>
        obtain ⟨rfl, -⟩ := List.cons.inj split
        rw [List.append_assoc, List.append_cancel_left_eq] at replaced
        exact absurd (List.cons.inj replaced).1.symm changed
  · cases between with
    | nil =>
        obtain ⟨rfl, rfl⟩ := List.cons.inj split
        rw [List.append_nil, List.append_cancel_left_eq] at replaced
        obtain ⟨rfl, rfl⟩ := List.cons.inj replaced
        exact ⟨(List.append_nil _).symm, rfl, rfl, rfl, rfl⟩
    | cons head between =>
        obtain ⟨rfl, rfl⟩ := List.cons.inj split
        rw [List.append_assoc, List.append_cancel_left_eq] at replaced
        have rest : between ++ new :: later = (between ++ old :: after) ++ more :=
          (List.cons.inj replaced).2
        rw [List.append_assoc, List.append_cancel_left_eq] at rest
        exact absurd (List.cons.inj rest).1.symm changed

/-- A process without a call: it goes on as before, or it runs its own program no more. -/
structure Member.Ages (member aged : Member α) : Prop where
  pid : aged.pid = member.pid
  trace : aged.trace = member.trace
  activity : aged.activity = member.activity ∨ member.IsRunning ∧ ¬ aged.IsRunning

structure Member.Calls (member called : Member α) (exchange : Exchange) : Prop where
  asks : ∃ next, member.activity = .running (.call exchange.request next) ∧
    called.activity = .running (next exchange.reply)
  pid : called.pid = member.pid
  trace : called.trace = member.trace ++ [exchange]

/-- What one step does to the processes: the first one makes a call, perhaps a fork, or a
child makes a call, or no call is made. -/
inductive Session.Change (session later : Session α) (first : Member α)
    (children : List (Member α)) : Member α → List (Member α) → Prop where
  | first {called : Member α} {exchange : Exchange} (calls : first.Calls called exchange)
      (single : exchange.forks = false)
      (governed : session.Governs first exchange later.control) :
      Change session later first children called children
  | fork {called newborn : Member α} {child : Pid}
      (calls : first.Calls called ⟨.fork, .ok (some child)⟩) (pid : newborn.pid = child)
      (trace : newborn.trace = first.trace ++ [⟨.fork, .ok none⟩])
      (fresh : ∀ other ∈ first :: children, other.pid ≠ child)
      (governed : session.Governs first ⟨.fork, .ok (some child)⟩ later.control) :
      Change session later first children called (children ++ [newborn])
  | child {between after : List (Member α)} {member called : Member α} {exchange : Exchange}
      (among : children = between ++ member :: after) (calls : member.Calls called exchange)
      (single : exchange.forks = false)
      (governed : session.Governs member exchange later.control) :
      Change session later first children first (between ++ called :: after)
  | other {aged : Member α} {others : List (Member α)} (firstAges : first.Ages aged)
      (age : List.Forall₂ Member.Ages children others)
      (same : later.control = session.control) : Change session later first children aged others

theorem Member.Ages.refl (member : Member α) : member.Ages member :=
  ⟨rfl, rfl, .inl rfl⟩

theorem ages_of_replaced {before after : List (Member α)} {member aged : Member α}
    (ages : member.Ages aged) :
    List.Forall₂ Member.Ages (before ++ member :: after) (before ++ aged :: after) := by
  have same : ∀ others : List (Member α), List.Forall₂ Member.Ages others others :=
    fun others => List.forall₂_same.mpr fun other _ => .refl other
  exact List.rel_append (same before) (.cons ages (same after))

theorem Step.ages {world later : World α} (step : Unix.Step capacity world later)
    (noCall : later.members.map Member.trace = world.members.map Member.trace) :
    List.Forall₂ Member.Ages world.members later.members := by
  cases step with
  | answer among asks single expected moved =>
      rw [among] at noCall
      simp at noCall
  | fork among asks fresh =>
      have sameLength := congrArg List.length noCall
      rw [among] at sameLength
      simp at sameLength
  | execute among asks =>
      rw [among]
      exact ages_of_replaced ⟨rfl, rfl, .inr ⟨⟨_, asks⟩, nofun⟩⟩
  | finish among runs allowed =>
      rw [among]
      exact ages_of_replaced ⟨rfl, rfl, .inr ⟨⟨_, runs⟩, nofun⟩⟩
  | use among runs fewer moved =>
      rw [among]
      exact ages_of_replaced ⟨rfl, rfl, .inl runs.symm⟩

theorem Step.of_call {world later : World α} (step : Unix.Step capacity world later)
    {before after rest : List (Member α)} {member changed : Member α} {exchange : Exchange}
    (among : world.members = before ++ member :: after)
    (becomes : later.members = before ++ changed :: rest)
    (made : changed.trace = member.trace ++ [exchange]) :
    member.Calls changed exchange ∧
      (exchange.forks = false ∧ rest = after ∨
        ∃ child newborn, exchange = ⟨.fork, .ok (some child)⟩ ∧ newborn.pid = child ∧
          newborn.trace = member.trace ++ [⟨.fork, .ok none⟩] ∧
          (∀ other ∈ world.members, other.pid ≠ child) ∧ rest = after ++ [newborn]) := by
  have different : member ≠ changed := by
    rintro rfl
    simp at made
  have identify {before' after' : List (Member α)} (more : List (Member α))
      {member' changed' : Member α}
      (among' : world.members = before' ++ member' :: after')
      (becomes' : later.members = before' ++ changed' :: (after' ++ more)) :
      member' = member ∧ after' = after ∧ changed' = changed ∧ rest = after ++ more := by
    obtain ⟨_, isMember, isAfter, isChanged, isRest⟩ :=
      replaced_once (among.symm.trans among') (becomes.symm.trans becomes') different
    exact ⟨isMember, isAfter, isChanged, isRest⟩
  cases step with
  | answer among' asks single expected moved =>
      obtain ⟨rfl, rfl, rfl, rfl⟩ := identify [] among' (by rw [List.append_nil])
      have sameExchange : [_] = [exchange] := List.append_cancel_left made
      cases sameExchange
      exact ⟨⟨⟨_, asks, rfl⟩, rfl, rfl⟩, .inl ⟨single, List.append_nil _⟩⟩
  | fork among' asks fresh =>
      obtain ⟨rfl, rfl, rfl, rfl⟩ := identify [_] among' (List.append_assoc ..)
      have sameExchange : [_] = [exchange] := List.append_cancel_left made
      cases sameExchange
      exact ⟨⟨⟨_, asks, rfl⟩, rfl, rfl⟩, .inr ⟨_, _, rfl, rfl, rfl, fresh, rfl⟩⟩
  | execute among' asks =>
      obtain ⟨rfl, rfl, rfl, rfl⟩ := identify [] among' (by rw [List.append_nil])
      simp at made
  | finish among' runs allowed =>
      obtain ⟨rfl, rfl, rfl, rfl⟩ := identify [] among' (by rw [List.append_nil])
      simp at made
  | use among' runs fewer moved =>
      obtain ⟨rfl, rfl, rfl, rfl⟩ := identify [] among' (by rw [List.append_nil])
      simp at made

theorem Session.Step.change (calm : whole.LeavesFirst start) {session later : Session α}
    {first : Member α} {children : List (Member α)}
    (sound : Sound whole start session.world first children)
    (step : Session.Step capacity session later) :
    ∃ next others, Sound whole start later.world next others ∧
      Session.Change session later first children next others := by
  obtain ⟨next, others, soundLater⟩ := sound.step calm step.world
  refine ⟨next, others, soundLater, ?_⟩
  cases step with
  | @call world control before after rest member changed exchange inner among becomes made
      governed =>
      obtain ⟨calls, moved⟩ := inner.of_call among becomes made
      have isLater := soundLater.members.symm.trans becomes
      rcases sound.place among with ⟨rfl, rfl, rfl⟩ | ⟨between, rfl, rfl⟩
      · obtain ⟨rfl, rfl⟩ := List.cons.inj isLater
        rcases moved with ⟨single, rfl⟩ | ⟨child, newborn, rfl, pid, trace, fresh, rfl⟩
        · exact .first calls single governed
        · rw [sound.members] at fresh
          exact .fork calls pid trace fresh governed
      · obtain ⟨rfl, rfl⟩ := List.cons.inj isLater
        rcases moved with ⟨single, rfl⟩ | ⟨child, newborn, rfl, pid, trace, fresh, rfl⟩
        · exact .child rfl calls single governed
        · obtain ⟨_, asks, _⟩ := calls.asks
          obtain ⟨admitted, follows, _⟩ := (sound.traces_at among).of_running asks
          have inChild := sound.child_in_child (List.mem_append_right between List.mem_cons_self)
          exact absurd rfl (calm _ _ _ follows admitted inChild).2
  | other inner noCall =>
      have age := inner.ages noCall
      rw [sound.members] at age
      change List.Forall₂ _ _ _ at age
      rw [soundLater.members] at age
      cases age with
      | cons firstAges others => exact .other firstAges others rfl

theorem Member.Calls.not_started {member called : Member α} {exchange : Exchange}
    (calls : member.Calls called exchange) : ¬ member.HasStarted := by
  rintro ⟨arguments, received, runs⟩
  obtain ⟨_, asks, -⟩ := calls.asks
  rw [asks] at runs
  cases runs

theorem Member.Ages.has_started {member aged : Member α} (ages : member.Ages aged)
    (hasStarted : member.HasStarted) : aged.HasStarted := by
  rcases ages.activity with same | ⟨⟨_, runs⟩, -⟩
  · rwa [Member.HasStarted, same]
  · obtain ⟨_, _, started⟩ := hasStarted
    rw [runs] at started
    cases started

/-- A process later on, which has not undone the start of another program. -/
structure Member.Continues (member later : Member α) : Prop where
  pid : later.pid = member.pid
  started : member.HasStarted → later.HasStarted

theorem Member.Continues.refl (member : Member α) : member.Continues member :=
  ⟨rfl, id⟩

theorem Member.Continues.trans {member middle last : Member α} (one : member.Continues middle)
    (other : middle.Continues last) : member.Continues last :=
  ⟨other.pid.trans one.pid, fun hasStarted => other.started (one.started hasStarted)⟩

theorem Session.Change.continues {session later : Session α} {first next : Member α}
    {children others : List (Member α)} (change : Change session later first children next others) :
    first.trace <+: next.trace ∧ ∀ child ∈ children, ∃ other ∈ others, child.Continues other := by
  cases change with
  | first calls single governed =>
      exact ⟨calls.trace ▸ List.prefix_append _ _, fun child among => ⟨child, among, .refl child⟩⟩
  | fork calls pid trace fresh governed =>
      exact ⟨calls.trace ▸ List.prefix_append _ _,
        fun child among => ⟨child, List.mem_append_left _ among, .refl child⟩⟩
  | @child between after member called exchange among calls single governed =>
      refine ⟨List.prefix_rfl, fun child isChild => ?_⟩
      rw [among, List.mem_append, List.mem_cons] at isChild
      rcases isChild with isBetween | rfl | isAfter
      · exact ⟨child, List.mem_append_left _ isBetween, .refl child⟩
      · exact ⟨called, by simp, calls.pid, fun hasStarted => absurd hasStarted calls.not_started⟩
      · exact ⟨child, by simp [isAfter], .refl child⟩
  | other firstAges age same =>
      refine ⟨firstAges.trace ▸ List.prefix_rfl, fun child isChild => ?_⟩
      clear same
      induction age with
      | nil => cases isChild
      | cons ages _ ih =>
          rcases List.mem_cons.mp isChild with rfl | isLater
          · exact ⟨_, List.mem_cons_self, ages.pid, ages.has_started⟩
          · obtain ⟨other, isOther, continues⟩ := ih isLater
            exact ⟨other, List.mem_cons_of_mem _ isOther, continues⟩

theorem Session.Run.continues (calm : whole.LeavesFirst start) {session later : Session α}
    {first : Member α} {children : List (Member α)}
    (sound : Sound whole start session.world first children)
    (run : Session.Run capacity session later) :
    ∃ next others, Sound whole start later.world next others ∧ first.trace <+: next.trace ∧
      ∀ child ∈ children, ∃ other ∈ others, child.Continues other := by
  induction run with
  | refl =>
      exact ⟨first, children, sound, List.prefix_rfl,
        fun child among => ⟨child, among, .refl child⟩⟩
  | tail _ step ih =>
      obtain ⟨middle, between, soundMiddle, longer, kept⟩ := ih
      obtain ⟨next, others, soundLater, change⟩ := step.change calm soundMiddle
      obtain ⟨longest, keptLater⟩ := change.continues
      refine ⟨next, others, soundLater, longer.trans longest, fun child among => ?_⟩
      obtain ⟨other, isOther, continues⟩ := kept child among
      obtain ⟨last, isLast, continuesLater⟩ := keptLater other isOther
      exact ⟨last, isLast, continues.trans continuesLater⟩

end JobShell.Unix
