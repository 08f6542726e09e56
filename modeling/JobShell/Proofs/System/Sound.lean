import JobShell.Proofs.System.World
import Mathlib.Data.List.Nodup

/-!
# Processes and their traces

As long as only the first process opens files and forks, every process of a world is
where its trace has brought it and holds what its trace says, and the other processes are
the ones that the first has forked. Whatever is known of all traces of a program is known
of all its processes in this way, however their steps are mixed.
-/

namespace JobShell.Unix

set_option autoImplicit false

def Call.opens : Call → Bool
  | .pipe | .openFile _ _ => true
  | _ => false

namespace Holdings

theorem after_same_table {one other : Holdings} {exchange : Exchange}
    (same : one.table = other.table) (opensNot : exchange.request.opens = false) :
    (one.after exchange).table = (other.after exchange).table ∧
      (one.after exchange).files = one.files := by
  obtain ⟨files, table⟩ := one
  obtain ⟨otherFiles, otherTable⟩ := other
  cases same
  unfold after
  split
  · cases opensNot
  · cases opensNot
  · exact ⟨rfl, rfl⟩
  · dsimp only
    split
    · exact ⟨rfl, rfl⟩
    · split <;> exact ⟨rfl, rfl⟩
  · exact ⟨rfl, rfl⟩

theorem expects_same_table {one other : Holdings} {exchange : Exchange}
    (same : one.table = other.table) (expected : one.Expects exchange) :
    other.Expects exchange := by
  obtain ⟨files, table⟩ := one
  obtain ⟨otherFiles, otherTable⟩ := other
  cases same
  exact expected

theorem admits_snoc_iff (start : Holdings) (trace : Trace) (exchange : Exchange) :
    start.Admits (trace ++ [exchange]) ↔
      start.Admits trace ∧ (start.along trace).Expects exchange := by
  rw [admits_append_iff, Admits, Admits, and_true]

end Holdings

namespace Trace

theorem birth_of_not_forks {before : Trace} {exchange : Exchange}
    (single : exchange.forks = false) : birth before exchange = [] := by
  unfold birth
  split
  · cases single
  · rfl

theorem forks_not_of_quiet {exchange : Exchange}
    (quiet : Holdings.isQuiet exchange.request = true) : exchange.forks = false := by
  obtain ⟨request, reply⟩ := exchange
  cases request <;> first | rfl | cases quiet

theorem births_of_not_forks {trace more : Trace}
    (single : ∀ exchange ∈ more, exchange.forks = false) :
    births (trace ++ more) = births trace := by
  induction more generalizing trace with
  | nil => rw [List.append_nil]
  | cons exchange more ih =>
      rw [List.forall_mem_cons] at single
      rw [List.append_cons, ih single.2, births_snoc, birth_of_not_forks single.1,
        List.append_nil]

theorem in_child_of_not_forks {trace more : Trace}
    (single : ∀ exchange ∈ more, exchange.forks = false) :
    inChild (trace ++ more) = inChild trace := by
  have still : inChild more = false := by
    induction more with
    | nil => rfl
    | cons exchange more ih =>
        rw [List.forall_mem_cons] at single
        rw [inChild.eq_3 _ _ ?_]
        · exact ih single.2
        · rintro rfl
          cases single.1
  rw [in_child_append, still, Bool.or_false]

theorem in_child_behind_fork (before own : Trace) :
    inChild (before ++ ⟨.fork, .ok none⟩ :: own) = true := by
  rw [in_child_append]
  exact Bool.or_true _

end Trace

variable {α : Type}

/-- What a process does and what it holds is what its trace says. -/
inductive Member.Traces (whole : Program α) (start : Holdings) : Member α → Prop where
  | running {pid : Pid} {trace : Trace} {program : Program α} (admitted : start.Admits trace)
      (follows : whole.Follows trace program) :
      Traces whole start ⟨pid, trace, (start.along trace).table, .running program⟩
  | started {pid : Pid} {trace : Trace} {table : DescriptorTable} {arguments : List String}
      {next : Errno → Program α} (admitted : start.Admits trace)
      (follows : whole.Follows trace (.call (.execute arguments) next))
      (fewer : ∀ entry ∈ table, (start.along trace).table.afterExecute.Leads entry.2.file) :
      Traces whole start ⟨pid, trace, table,
        .started arguments (start.along trace).table.afterExecute⟩
  | ended {pid : Pid} {trace : Trace} (admitted : start.Admits trace) :
      Traces whole start ⟨pid, trace, [], .ended⟩

namespace Member.Traces

variable {whole program : Program α} {start : Holdings} {member : Member α}
  {arguments : List String} {received : DescriptorTable}

theorem of_running (traces : member.Traces whole start)
    (runs : member.activity = .running program) :
    start.Admits member.trace ∧ whole.Follows member.trace program ∧
      member.table = (start.along member.trace).table := by
  cases traces with
  | running admitted follows =>
      cases runs
      exact ⟨admitted, follows, rfl⟩
  | started => cases runs
  | ended => cases runs

theorem of_started (traces : member.Traces whole start)
    (runs : member.activity = .started arguments received) :
    start.Admits member.trace ∧
      (∃ next, whole.Follows member.trace (.call (.execute arguments) next)) ∧
      received = (start.along member.trace).table.afterExecute ∧
      ∀ entry ∈ member.table, received.Leads entry.2.file := by
  cases traces with
  | running => cases runs
  | started admitted follows fewer =>
      cases runs
      exact ⟨admitted, ⟨_, follows⟩, rfl, fewer⟩
  | ended => cases runs

theorem admitted (traces : member.Traces whole start) : start.Admits member.trace := by
  cases traces <;> assumption

theorem snoc {request : Call} {next : request.Reply → Program α}
    (traces : member.Traces whole start)
    (asks : member.activity = .running (.call request next)) {reply : request.Reply}
    {pid : Pid} {table : DescriptorTable}
    (expected : (start.along member.trace).Expects ⟨request, reply⟩)
    (sameTable : table = ((start.along member.trace).after ⟨request, reply⟩).table) :
    Member.Traces whole start
      ⟨pid, member.trace ++ [⟨request, reply⟩], table, .running (next reply)⟩ := by
  obtain ⟨admitted, follows, _⟩ := traces.of_running asks
  rw [sameTable, ← Holdings.along_snoc]
  refine .running ?_ (follows.trans (.step (.stop _)))
  rw [Holdings.admits_snoc_iff]
  exact ⟨admitted, expected⟩

end Member.Traces

def Program.LeavesFirst (whole : Program α) (start : Holdings) : Prop :=
  ∀ trace call next, whole.Follows trace (.call call next) → start.Admits trace →
    trace.inChild = true → call.opens = false ∧ call ≠ .fork

structure Sound (whole : Program α) (start : Holdings) (world : World α) (first : Member α)
    (children : List (Member α)) : Prop where
  members : world.members = first :: children
  traces : ∀ member ∈ world.members, member.Traces whole start
  isFirst : first.trace.inChild = false
  files : world.files = (start.along first.trace).files
  pids : children.map Member.pid = first.trace.children
  distinct : (world.members.map Member.pid).Nodup
  forked : ∀ child ∈ children, ∃ before own,
    child.trace = before ++ ⟨.fork, .ok none⟩ :: own ∧
      (child.pid, before) ∈ first.trace.births ∧
      (start.along child.trace).files = (start.along before).files

namespace Sound

variable {whole : Program α} {start : Holdings} {capacity : Nat} {world later : World α}
  {first : Member α} {children : List (Member α)}

theorem initial (whole : Program α) (start : Holdings) (pid : Pid) :
    Sound whole start (.initial start pid whole) ⟨pid, [], start.table, .running whole⟩ [] where
  members := rfl
  traces := by
    intro member among
    rw [List.mem_singleton.mp among]
    exact .running trivial (.stop whole)
  isFirst := rfl
  files := rfl
  pids := rfl
  distinct := List.nodup_singleton _
  forked := nofun

theorem place (sound : Sound whole start world first children) {before after : List (Member α)}
    {member : Member α} (among : world.members = before ++ member :: after) :
    before = [] ∧ member = first ∧ after = children ∨
      ∃ between, before = first :: between ∧ children = between ++ member :: after := by
  rw [sound.members] at among
  cases before with
  | nil =>
      obtain ⟨rfl, rfl⟩ := List.cons.inj among
      exact .inl ⟨rfl, rfl, rfl⟩
  | cons head between =>
      obtain ⟨rfl, rfl⟩ := List.cons.inj among
      exact .inr ⟨between, rfl, rfl⟩

theorem traces_at (sound : Sound whole start world first children)
    {before after : List (Member α)} {member : Member α}
    (among : world.members = before ++ member :: after) : member.Traces whole start := by
  refine sound.traces member ?_
  rw [among]
  exact List.mem_append_right _ List.mem_cons_self

theorem child_in_child (sound : Sound whole start world first children) {child : Member α}
    (among : child ∈ children) : child.trace.inChild = true := by
  obtain ⟨before, own, trace, _⟩ := sound.forked child among
  rw [trace, Trace.in_child_behind_fork]

theorem replace (sound : Sound whole start world first children)
    {before after : List (Member α)} {member changed : Member α} {more : Trace}
    {files : List Origin} {contents : Nat → ByteArray}
    (among : world.members = before ++ member :: after) (traces : changed.Traces whole start)
    (samePid : changed.pid = member.pid) (longer : changed.trace = member.trace ++ more)
    (single : ∀ exchange ∈ more, exchange.forks = false)
    (filesFirst : before = [] → files = (start.along changed.trace).files)
    (filesChild : before ≠ [] → files = world.files ∧
      (start.along changed.trace).files = (start.along member.trace).files) :
    ∃ first children,
      Sound whole start ⟨files, contents, before ++ changed :: after⟩ first children := by
  have tracesAll : ∀ other ∈ before ++ changed :: after, other.Traces whole start := by
    have old := sound.traces
    rw [among] at old
    simp only [List.forall_mem_append, List.forall_mem_cons] at old ⊢
    exact ⟨old.1, traces, old.2.2⟩
  have distinct : ((before ++ changed :: after).map Member.pid).Nodup := by
    have old := sound.distinct
    rw [among] at old
    simpa [samePid] using old
  have sameBirths : changed.trace.births = member.trace.births := by
    rw [longer, Trace.births_of_not_forks single]
  rcases sound.place among with ⟨rfl, rfl, rfl⟩ | ⟨between, rfl, rfl⟩
  · refine ⟨changed, after, rfl, tracesAll, ?_, filesFirst rfl, ?_, distinct, ?_⟩
    · rw [longer, Trace.in_child_of_not_forks single, sound.isFirst]
    · rw [sound.pids, Trace.children, Trace.children, sameBirths]
    · rw [sameBirths]
      exact sound.forked
  · obtain ⟨isOld, opensNothing⟩ := filesChild (List.cons_ne_nil _ _)
    refine ⟨first, between ++ changed :: after, rfl, tracesAll, sound.isFirst, ?_, ?_, distinct, ?_⟩
    · exact isOld.trans sound.files
    · rw [← sound.pids, List.map_append, List.map_append, List.map_cons, List.map_cons, samePid]
    · have old := sound.forked
      simp only [List.forall_mem_append, List.forall_mem_cons] at old ⊢
      refine ⟨old.1, ?_, old.2.2⟩
      obtain ⟨earlier, own, trace, born, sameFiles⟩ := old.2.1
      refine ⟨earlier, own ++ more, ?_, ?_, opensNothing.trans sameFiles⟩
      · rw [longer, trace, List.append_assoc, List.cons_append]
      · rw [samePid]
        exact born

theorem move (sound : Sound whole start world first children)
    {before after : List (Member α)} {member changed : Member α} {contents : Nat → ByteArray}
    (among : world.members = before ++ member :: after) (traces : changed.Traces whole start)
    (samePid : changed.pid = member.pid) (sameTrace : changed.trace = member.trace) :
    ∃ first children,
      Sound whole start ⟨world.files, contents, before ++ changed :: after⟩ first children := by
  refine sound.replace among traces samePid (sameTrace.trans (List.append_nil _).symm) (by simp) ?_
    (fun _ => ⟨rfl, by rw [sameTrace]⟩)
  rintro rfl
  rcases sound.place among with ⟨_, rfl, rfl⟩ | ⟨between, impossible, _⟩
  · rw [sameTrace]
    exact sound.files
  · cases impossible

theorem forks (calm : whole.LeavesFirst start) (sound : Sound whole start world first children)
    {before after : List (Member α)} {member : Member α} {next : Call.fork.Reply → Program α}
    {child : Pid} (among : world.members = before ++ member :: after)
    (asks : member.activity = .running (.call .fork next))
    (fresh : ∀ other ∈ world.members, other.pid ≠ child) :
    ∃ first children, Sound whole start
      { world with
        members := before ++
          ⟨member.pid, member.trace ++ [⟨.fork, .ok (some child)⟩], member.table,
            .running (next (.ok (some child)))⟩ :: after ++
          [⟨child, member.trace ++ [⟨.fork, .ok none⟩], member.table,
            .running (next (.ok none))⟩] } first children := by
  have isMember : member ∈ world.members := by
    rw [among]
    exact List.mem_append_right _ List.mem_cons_self
  have traced := sound.traces_at among
  obtain ⟨admitted, follows, table⟩ := traced.of_running asks
  rcases sound.place among with ⟨rfl, rfl, rfl⟩ | ⟨between, rfl, rfl⟩
  · refine ⟨_, after ++ [_], rfl, ?_, ?_, ?_, ?_, ?_, ?_⟩
    · have old := sound.traces
      rw [among] at old
      simp only [List.nil_append, List.cons_append, List.forall_mem_cons, List.forall_mem_append]
        at old ⊢
      refine ⟨traced.snoc asks trivial table, old.2, ?_, List.forall_mem_nil _⟩
      exact traced.snoc asks trivial table
    · rw [Trace.in_child_append, sound.isFirst]
      rfl
    · rw [Holdings.along_snoc, Holdings.after_fork]
      exact sound.files
    · rw [List.map_append, sound.pids, Trace.children_append]
      rfl
    · have old := sound.distinct
      rw [among] at old
      rw [List.map_append, List.nodup_append]
      refine ⟨old, List.nodup_singleton _, ?_⟩
      intro pid isOld other isNew
      rw [List.mem_singleton.mp isNew]
      obtain ⟨holder, isHolder, rfl⟩ := List.mem_map.mp isOld
      rcases List.mem_cons.mp isHolder with rfl | isHolder
      · exact fresh member isMember
      · exact fresh holder (by rw [among]; exact List.mem_cons_of_mem _ isHolder)
    · rw [Trace.births_snoc, List.forall_mem_append]
      refine ⟨fun other isOld => ?_, ?_⟩
      · obtain ⟨before, own, trace, born, sameFiles⟩ := sound.forked other isOld
        exact ⟨before, own, trace, List.mem_append_left _ born, sameFiles⟩
      · rw [List.forall_mem_singleton]
        refine ⟨member.trace, [], rfl, List.mem_append_right _ List.mem_cons_self, ?_⟩
        rw [Holdings.along_snoc, Holdings.after_fork]
  · have inChild := sound.child_in_child (List.mem_append_right between List.mem_cons_self)
    exact absurd rfl (calm _ _ _ follows admitted inChild).2

theorem step (calm : whole.LeavesFirst start) (sound : Sound whole start world first children)
    (step : Step capacity world later) :
    ∃ first children, Sound whole start later first children := by
  cases step with
  | @answer before after member request next reply contents among asks single expected moved =>
      have traced := sound.traces_at among
      obtain ⟨admitted, follows, table⟩ := traced.of_running asks
      have expectedAlong : (start.along member.trace).Expects ⟨request, reply⟩ :=
        Holdings.expects_same_table table expected
      rcases sound.place among with ⟨rfl, rfl, rfl⟩ | ⟨between, rfl, rfl⟩
      · have same : world.holdings member = start.along member.trace := by
          rw [World.holdings, sound.files, table]
        refine sound.replace among (traced.snoc asks expectedAlong (by rw [same])) rfl rfl
          (by simpa using single) (fun _ => ?_) (fun isChild => absurd rfl isChild)
        rw [same, Holdings.along_snoc]
      · have inChild := sound.child_in_child (List.mem_append_right between List.mem_cons_self)
        have opensNot := (calm _ _ _ follows admitted inChild).1
        have alike : ((world.holdings member).after ⟨request, reply⟩).table =
              ((start.along member.trace).after ⟨request, reply⟩).table ∧
            ((world.holdings member).after ⟨request, reply⟩).files = world.files :=
          Holdings.after_same_table table opensNot
        refine sound.replace among (traced.snoc asks expectedAlong alike.1) rfl rfl
          (by simpa using single) nofun (fun _ => ⟨alike.2, ?_⟩)
        rw [Holdings.along_snoc]
        exact (Holdings.after_same_table rfl opensNot).2
  | fork among asks fresh => exact sound.forks calm among asks fresh
  | @execute before after member arguments next among asks =>
      obtain ⟨admitted, follows, table⟩ := sound.traces_at among |>.of_running asks
      refine sound.move among ?_ rfl rfl
      rw [table]
      exact .started admitted follows fun entry isHeld => ⟨entry, isHeld, rfl⟩
  | @finish before after member program among runs allowed =>
      exact sound.move among (.ended (sound.traces_at among).admitted) rfl rfl
  | @use before after member arguments received table contents among runs fewer moved =>
      obtain ⟨admitted, ⟨next, follows⟩, rfl, old⟩ := sound.traces_at among |>.of_started runs
      refine sound.move among (.started admitted follows fun entry isHeld => ?_) rfl rfl
      obtain ⟨holder, isHeld, same⟩ := fewer entry isHeld
      rw [← same]
      exact old holder isHeld

theorem run (calm : whole.LeavesFirst start) {pid : Pid}
    (run : Run capacity (.initial start pid whole) world) :
    ∃ first children, Sound whole start world first children := by
  induction run with
  | refl => exact ⟨_, _, initial whole start pid⟩
  | tail _ step ih =>
      obtain ⟨first, children, sound⟩ := ih
      exact sound.step calm step

end Sound

end JobShell.Unix
