import JobShell.Proofs.Program.Writing
import JobShell.Proofs.System.Sound

/-!
# What is in the pipes

A process that alone has had the ends of a pipe finds in it what it has written and not
yet read. Nobody else has had them when every other process was forked before the pipe
was made.
-/

namespace JobShell.Unix

set_option autoImplicit false

namespace Holdings

/-- What a pipe holds after a call of a process, when it held some bytes before. -/
def flow (holdings : Holdings) (pipe : Nat) (held : ByteArray) : Exchange → ByteArray
  | ⟨.pipe, .ok _⟩ => if pipe = holdings.files.length then .empty else held
  | ⟨.write target bytes, .ok count⟩ =>
    if holdings.originAt target = some (.pipeEnd pipe true) then held ++ bytes.extract 0 count
    else held
  | ⟨.read source _, .ok bytes⟩ =>
    if holdings.originAt source = some (.pipeEnd pipe false) then held.extract bytes.size held.size
    else held
  | _ => held

def flowAlong (holdings : Holdings) (pipe : Nat) (held : ByteArray) : Trace → ByteArray
  | [] => held
  | exchange :: later =>
    (holdings.after exchange).flowAlong pipe (holdings.flow pipe held exchange) later

def piped (start : Holdings) (pipe : Nat) (trace : Trace) : ByteArray :=
  start.flowAlong pipe .empty trace

theorem flow_along_append (start : Holdings) (pipe : Nat) (held : ByteArray)
    (first second : Trace) :
    start.flowAlong pipe held (first ++ second) =
      (start.along first).flowAlong pipe (start.flowAlong pipe held first) second := by
  induction first generalizing start held with
  | nil => rfl
  | cons exchange first ih =>
      rw [List.cons_append, flowAlong, ih]
      rfl

theorem piped_snoc (start : Holdings) (pipe : Nat) (trace : Trace) (exchange : Exchange) :
    start.piped pipe (trace ++ [exchange]) =
      (start.along trace).flow pipe (start.piped pipe trace) exchange := by
  rw [piped, flow_along_append]
  rfl

/-- Every pipe end has the number that it is known by, and the writing end the next one. -/
def Numbered (holdings : Holdings) : Prop :=
  ∀ (number pipe : Nat) (writing : Bool),
    holdings.files[number]? = some (.pipeEnd pipe writing) →
      number = if writing then pipe + 1 else pipe

def Unpiped (start : Holdings) : Prop :=
  ∀ origin ∈ start.files, origin = .earlier

theorem Unpiped.numbered {start : Holdings} (unpiped : start.Unpiped) : start.Numbered := by
  intro number pipe writing found
  have same := unpiped _ (List.mem_of_getElem? found)
  cases same

theorem Numbered.after {holdings : Holdings} (numbered : holdings.Numbered) (exchange : Exchange) :
    (holdings.after exchange).Numbered := by
  intro number pipe writing found
  unfold Holdings.after at found
  split at found
  · rw [List.getElem?_append] at found
    split at found
    · exact numbered number pipe writing found
    · rename_i isNew
      match at_ : number - holdings.files.length with
      | 0 =>
          rw [at_] at found
          cases found
          simp only [Bool.false_eq_true, ↓reduceIte]
          omega
      | 1 =>
          rw [at_] at found
          cases found
          simp only [↓reduceIte]
          omega
      | _ + 2 =>
          rw [at_] at found
          cases found
  · rw [List.getElem?_append] at found
    split at found
    · exact numbered number pipe writing found
    · rw [List.getElem?_singleton] at found
      split at found <;> cases found
  · exact numbered number pipe writing found
  · split at found
    · exact numbered number pipe writing found
    · split at found <;> exact numbered number pipe writing found
  · exact numbered number pipe writing found

theorem Numbered.along {start : Holdings} (numbered : start.Numbered) (trace : Trace) :
    (start.along trace).Numbered := by
  induction trace generalizing start with
  | nil => exact numbered
  | cons exchange trace ih => exact ih (numbered.after exchange)

theorem flow_of_below {holdings : Holdings} {pipe : Nat} {exchange : Exchange} (held : ByteArray)
    (numbered : holdings.Numbered) (below : ∀ entry ∈ holdings.table, entry.2.file < pipe)
    (opensNot : exchange.request.opens = false) : holdings.flow pipe held exchange = held := by
  have notHeld (descriptor : Descriptor) (writing : Bool) :
      holdings.originAt descriptor ≠ some (.pipeEnd pipe writing) := by
    intro leads
    obtain ⟨slot, found, isEnd⟩ := Option.bind_eq_some_iff.mp leads
    have low : slot.file < pipe := below _ (DescriptorTable.mem_of_lookup found)
    have number := numbered slot.file pipe writing isEnd
    split at number <;> omega
  unfold flow
  split
  · cases opensNot
  · rw [if_neg (notHeld _ _)]
  · rw [if_neg (notHeld _ _)]
  · rfl

theorem piped_of_unopened {start : Holdings} {trace : Trace} {pipe : Nat}
    (numbered : start.Numbered) (unopened : (start.along trace).files.length ≤ pipe) :
    start.piped pipe trace = .empty := by
  induction trace using List.reverseRecOn with
  | nil => rfl
  | append_singleton trace exchange ih =>
      rw [along_snoc] at unopened
      have few : (start.along trace).files.length ≤ pipe :=
        Nat.le_trans (files_prefix_after (start.along trace) exchange).length_le unopened
      have notHeld (descriptor : Descriptor) (writing : Bool) :
          (start.along trace).originAt descriptor ≠ some (.pipeEnd pipe writing) := by
        intro leads
        obtain ⟨slot, _, isEnd⟩ := Option.bind_eq_some_iff.mp leads
        have low := (List.getElem?_eq_some_iff.mp isEnd).1
        have number := numbered.along trace slot.file pipe writing isEnd
        split at number <;> omega
      rw [piped_snoc, ih few]
      unfold flow
      split
      · rw [ite_self]
      · rw [if_neg (notHeld _ _)]
      · rw [if_neg (notHeld _ _)]
      · rfl

theorem piped_of_grows {start : Holdings} {trace later : Trace} {pipe : Nat}
    (grows : trace.Grows later) (empty : start.piped pipe trace = .empty) :
    start.piped pipe later = .empty := by
  obtain ⟨more, rfl, still⟩ := grows
  induction more using List.reverseRecOn with
  | nil => rw [List.append_nil, empty]
  | append_singleton more exchange ih =>
      rw [List.forall_mem_append, List.forall_mem_singleton] at still
      rw [← List.append_assoc, piped_snoc, ih still.1]
      unfold flow
      split
      · rw [ite_self]
      · cases still.2
      · cases still.2
      · rfl

theorem flow_of_still (holdings : Holdings) (pipe : Nat) (held : ByteArray) {exchange : Exchange}
    (quiet : isQuiet exchange.request = true) (still : exchange.request.isStill = true) :
    holdings.flow pipe held exchange = held := by
  unfold flow
  split
  · cases quiet
  · cases still
  · cases still
  · rfl

theorem piped_of_writes {start : Holdings} {before own : Trace} {pipe : Nat} {target : Descriptor}
    (quiet : ∀ exchange ∈ own, isQuiet exchange.request = true)
    (writes : ∀ exchange ∈ own, exchange.request.isStill || exchange.request.writesTo target)
    (leads : (start.along before).originAt target = some (.pipeEnd pipe true)) :
    start.piped pipe (before ++ own) = start.piped pipe before ++ own.sent target := by
  induction own using List.reverseRecOn with
  | nil =>
      rw [List.append_nil]
      exact ByteArray.append_empty.symm
  | append_singleton own exchange ih =>
      rw [List.forall_mem_append, List.forall_mem_singleton] at quiet writes
      have same : start.along (before ++ own) = start.along before := by
        rw [along_append, along_quiet quiet.1]
      rw [← List.append_assoc, piped_snoc, same, ih quiet.1 writes.1, Trace.sent_append]
      rcases Bool.or_eq_true_iff.mp writes.2 with still | isWrite
      · have silent : Trace.sent target [exchange] = .empty :=
          Trace.sent_of_still target (by simpa using still)
        rw [flow_of_still _ _ _ quiet.2 still, silent, ByteArray.append_empty]
      · obtain ⟨request, reply⟩ := exchange
        cases request with
        | write other bytes =>
            obtain rfl : other = target := beq_iff_eq.mp isWrite
            cases reply with
            | error errno =>
                have silent : Trace.sent other [⟨.write other bytes, .error errno⟩] = .empty := rfl
                rw [silent, ByteArray.append_empty]
                rfl
            | ok count =>
                rw [flow, if_pos leads, Trace.sent, if_pos rfl, Trace.sent, ByteArray.append_empty,
                  ByteArray.append_assoc]
        | _ => cases isWrite

end Holdings

section

variable {α : Type} {capacity : Nat} {world later : World α} {member : Member α}
  {contents : Nat → ByteArray}

theorem World.Transfers.flow {exchange : Exchange}
    (moved : world.Transfers capacity member exchange contents) (pipe : Nat) :
    contents pipe = (world.holdings member).flow pipe (world.contents pipe) exchange := by
  unfold World.Transfers at moved
  split at moved
  · rw [moved, Function.update_apply]
    rfl
  · rename_i target bytes reply
    split at moved
    · rename_i number isEnd
      cases reply with
      | error errno =>
          rw [moved.2]
          rfl
      | ok count =>
          rw [moved.2.2, Function.update_apply, Holdings.flow, isEnd]
          by_cases same : pipe = number
          · rw [if_pos same, if_pos (by rw [same]), same]
          · rw [if_neg same, if_neg (by simpa using Ne.symm same)]
    · rename_i notEnd
      rw [moved]
      cases reply with
      | error errno => rfl
      | ok count => rw [Holdings.flow, if_neg (notEnd pipe)]
  · rename_i source limit reply
    split at moved
    · rename_i number isEnd
      cases reply with
      | error errno =>
          rw [moved]
          rfl
      | ok bytes =>
          rw [moved.2.2.2, Function.update_apply, Holdings.flow, isEnd]
          by_cases same : pipe = number
          · rw [if_pos same, if_pos (by rw [same]), same]
          · rw [if_neg same, if_neg (by simpa using Ne.symm same)]
    · rename_i notEnd
      rw [moved]
      cases reply with
      | error errno => rfl
      | ok bytes => rw [Holdings.flow, if_neg (notEnd pipe)]
  · rename_i notPipe notWrite notRead
    rw [moved]
    unfold Holdings.flow
    split
    · exact absurd rfl (notPipe _)
    · exact absurd rfl (notWrite _ _ _)
    · exact absurd rfl (notRead _ _ _)
    · rfl

theorem World.Moves.below {pipe : Nat} (moved : world.Moves capacity member contents)
    (below : ∀ entry ∈ member.table, entry.2.file < pipe) :
    contents pipe = world.contents pipe := by
  have notHeld (number : Nat) (high : pipe ≤ number) : ¬ member.table.Leads number := by
    rintro ⟨entry, isHeld, rfl⟩
    exact absurd (below entry isHeld) (Nat.not_lt.mpr high)
  obtain ⟨taken, left, added, before, after, wasTaken, wasAdded⟩ := moved pipe
  have noneTaken := wasTaken.resolve_right (notHeld pipe (Nat.le_refl _))
  have noneAdded := wasAdded.resolve_right fun found => notHeld (pipe + 1) (Nat.le_succ _) found.1
  rw [ByteArray.size_eq_zero_iff] at noneTaken noneAdded
  rw [after, before, noneTaken, noneAdded, ByteArray.append_empty, ByteArray.empty_append]

def Trace.KeepsPipe (start : Holdings) (pipe : Nat) (trace : Trace) : Prop :=
  ∀ birth ∈ trace.births, (start.along birth.2).files.length ≤ pipe

/-- As long as the first process runs, it alone has filled the pipes that it has kept from
its children. -/
def World.Filled (start : Holdings) (world : World α) : Prop :=
  ∀ first children program pipe, world.members = first :: children →
    first.activity = .running program → first.trace.KeepsPipe start pipe →
      world.contents pipe = start.piped pipe first.trace

variable {whole : Program α} {start : Holdings} {first child : Member α}
    {children : List (Member α)}

theorem Sound.child_below (sound : Sound whole start world first children) (known : start.Known)
    (among : child ∈ children) {pipe : Nat} (kept : first.trace.KeepsPipe start pipe) :
    ∀ entry ∈ child.table, entry.2.file < pipe := by
  intro entry isHeld
  obtain ⟨before, own, trace, born, sameFiles⟩ := sound.forked child among
  have few : (start.along child.trace).files.length ≤ pipe := by
    rw [sameFiles]
    exact kept _ born
  have knownThen := known.along child.trace
  have isMember : child ∈ world.members := by
    rw [sound.members]
    exact List.mem_cons_of_mem _ among
  cases sound.traces child isMember with
  | running => exact Nat.lt_of_lt_of_le (knownThen entry isHeld) few
  | started admitted follows fewer =>
      obtain ⟨origin, isOrigin, same⟩ := fewer entry isHeld
      rw [← same]
      exact Nat.lt_of_lt_of_le (knownThen origin (List.mem_filter.mp isOrigin).1) few
  | ended => cases isHeld

theorem World.Filled.beside (filled : world.Filled start)
    (members : world.members = first :: children)
    {files : List Origin} {rest : List (Member α)}
    (same : ∀ pipe, first.trace.KeepsPipe start pipe → contents pipe = world.contents pipe) :
    World.Filled start ⟨files, contents, first :: rest⟩ := by
  intro head tail program pipe isHead runs kept
  obtain ⟨rfl, rfl⟩ := List.cons.inj isHead
  exact (same pipe kept).trans (filled first children program pipe members runs kept)

theorem World.Filled.step (calm : whole.LeavesFirst start) (known : start.Known)
    (numbered : start.Numbered) (sound : Sound whole start world first children)
    (filled : world.Filled start) (step : Step capacity world later) : later.Filled start := by
  cases step with
  | @answer before after member request next reply contents among asks single expected moved =>
      obtain ⟨admitted, follows, table⟩ := (sound.traces_at among).of_running asks
      rcases sound.place among with ⟨rfl, rfl, rfl⟩ | ⟨between, rfl, rfl⟩
      · intro head tail program pipe isHead _ kept
        obtain ⟨rfl, rfl⟩ := List.cons.inj isHead
        have sameBirths : (member.trace ++ [⟨request, reply⟩] : Trace).births =
            member.trace.births :=
          Trace.births_of_not_forks (by simpa using single)
        have keptBefore : member.trace.KeepsPipe start pipe := by
          rw [Trace.KeepsPipe, ← sameBirths]
          exact kept
        have same : world.holdings member = start.along member.trace := by
          rw [World.holdings, sound.files, table]
        calc contents pipe
            = (start.along member.trace).flow pipe (world.contents pipe) ⟨request, reply⟩ := by
              rw [← same, moved.flow pipe]
          _ = start.piped pipe (member.trace ++ [⟨request, reply⟩]) := by
              rw [filled member after _ pipe sound.members asks keptBefore, Holdings.piped_snoc]
      · have isChild : member ∈ between ++ member :: after :=
          List.mem_append_right _ List.mem_cons_self
        have opensNot := (calm _ _ _ follows admitted (sound.child_in_child isChild)).1
        have numberedNow : (world.holdings member).Numbered := by
          rw [World.holdings, sound.files]
          exact numbered.along first.trace
        refine filled.beside sound.members fun pipe kept => ?_
        rw [moved.flow pipe]
        exact Holdings.flow_of_below _ numberedNow (sound.child_below known isChild kept) opensNot
  | @fork before after member next child among asks fresh =>
      rcases sound.place among with ⟨rfl, rfl, rfl⟩ | ⟨between, rfl, rfl⟩
      · intro head tail program pipe isHead _ kept
        obtain ⟨rfl, rfl⟩ := List.cons.inj isHead
        have keptBefore : member.trace.KeepsPipe start pipe := by
          intro birth born
          refine kept birth ?_
          rw [Trace.births_snoc]
          exact List.mem_append_left _ born
        rw [Holdings.piped_snoc]
        exact filled member after _ pipe sound.members asks keptBefore
      · exact filled.beside sound.members fun _ _ => rfl
  | @execute before after member arguments next among asks =>
      rcases sound.place among with ⟨rfl, rfl, rfl⟩ | ⟨between, rfl, rfl⟩
      · intro head tail program pipe isHead runs _
        obtain ⟨rfl, rfl⟩ := List.cons.inj isHead
        cases runs
      · exact filled.beside sound.members fun _ _ => rfl
  | @finish before after member program among runs allowed =>
      rcases sound.place among with ⟨rfl, rfl, rfl⟩ | ⟨between, rfl, rfl⟩
      · intro head tail program pipe isHead runs _
        obtain ⟨rfl, rfl⟩ := List.cons.inj isHead
        cases runs
      · exact filled.beside sound.members fun _ _ => rfl
  | @use before after member arguments received table contents among runs fewer moved =>
      rcases sound.place among with ⟨rfl, rfl, rfl⟩ | ⟨between, rfl, rfl⟩
      · intro head tail program pipe isHead runs _
        obtain ⟨rfl, rfl⟩ := List.cons.inj isHead
        cases runs
      · have isChild : member ∈ between ++ member :: after :=
          List.mem_append_right _ List.mem_cons_self
        exact filled.beside sound.members fun pipe kept =>
          moved.below (sound.child_below known isChild kept)

theorem World.Filled.run (calm : whole.LeavesFirst start) (known : start.Known)
    (numbered : start.Numbered) {pid : Pid} (run : Run capacity (.initial start pid whole) world) :
    world.Filled start := by
  induction run with
  | refl =>
      intro head tail program pipe isHead _ _
      obtain ⟨rfl, rfl⟩ := List.cons.inj isHead
      rfl
  | tail before step ih =>
      obtain ⟨first, children, sound⟩ := Sound.run calm before
      exact ih.step calm known numbered sound step

end

end JobShell.Unix
