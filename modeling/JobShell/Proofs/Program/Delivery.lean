import JobShell.Proofs.Program.Trace

/-!
# Reading a source to its end

The bytes of a source come in blocks, and a program cannot know how large they are. A trace
delivers the source when its reads get all the bytes in their order, each at least one of
them as long as some are left.
-/

namespace JobShell.Unix

set_option autoImplicit false

def Call.readsFrom (source : Descriptor) : Call → Bool
  | .read other _ => other == source
  | _ => false

/-- A source with some bytes left is read along a trace, and then has others left. No read of
it fails, and a read that asks for bytes gets none only at the end. -/
inductive Delivers (source : Descriptor) : List UInt8 → Trace → List UInt8 → Prop where
  | nothing (left : List UInt8) : Delivers source left [] left
  | block {limit : Nat} {block : ByteArray} {left final : List UInt8} {trace : Trace}
      (fits : block.size ≤ limit) (ends : block.size = 0 → limit = 0 ∨ left = [])
      (later : Delivers source left trace final) :
      Delivers source (block.data.toList ++ left) (⟨.read source limit, .ok block⟩ :: trace) final
  | other {exchange : Exchange} {left final : List UInt8} {trace : Trace}
      (isOther : exchange.request.readsFrom source = false)
      (later : Delivers source left trace final) : Delivers source left (exchange :: trace) final

section

variable {source : Descriptor} {left final : List UInt8} {first second trace : Trace}

theorem delivers_nil_iff : Delivers source left [] final ↔ final = left := by
  constructor
  · rintro ⟨⟩
    rfl
  · rintro rfl
    exact .nothing _

theorem Delivers.of_read {limit : Nat} {reply : Except Errno ByteArray}
    (delivers : Delivers source left (⟨.read source limit, reply⟩ :: trace) final) :
    ∃ block rest, reply = .ok block ∧ left = block.data.toList ++ rest ∧
      (block.size = 0 → limit = 0 ∨ rest = []) ∧ Delivers source rest trace final := by
  cases delivers with
  | block fits ends later => exact ⟨_, _, rfl, rfl, ends, later⟩
  | other isOther later => simp [Call.readsFrom] at isOther

theorem delivers_append_iff :
    Delivers source left (first ++ second) final ↔
      ∃ middle, Delivers source left first middle ∧ Delivers source middle second final := by
  constructor
  · intro delivers
    induction first generalizing left with
    | nil => exact ⟨left, .nothing left, delivers⟩
    | cons exchange first ih =>
        cases delivers with
        | block fits ends later =>
            obtain ⟨middle, before, after⟩ := ih later
            exact ⟨middle, .block fits ends before, after⟩
        | other isOther later =>
            obtain ⟨middle, before, after⟩ := ih later
            exact ⟨middle, .other isOther before, after⟩
  · rintro ⟨middle, before, after⟩
    induction before with
    | nothing left => exact after
    | block fits ends _ ih => exact .block fits ends (ih after)
    | other isOther _ ih => exact .other isOther (ih after)

theorem delivers_of_others
    (others : ∀ exchange ∈ trace, exchange.request.readsFrom source = false) :
    Delivers source left trace final ↔ final = left := by
  induction trace with
  | nil => exact delivers_nil_iff
  | cons exchange trace ih =>
      rw [List.forall_mem_cons] at others
      rw [← ih others.2]
      constructor
      · intro delivers
        cases delivers with
        | block fits ends later => simp [Call.readsFrom] at others
        | other isOther later => exact later
      · exact .other others.1

theorem Delivers.suffix (delivers : Delivers source left trace final) : final <:+ left := by
  induction delivers with
  | nothing left => exact List.suffix_rfl
  | block _ _ _ ih => exact ih.trans (List.suffix_append _ _)
  | other _ _ ih => exact ih

end

/-- A write that takes all of its bytes, a wait that tells the end of a child, or any other
call. -/
def Exchange.IsObliging : Exchange → Prop
  | ⟨.write _ bytes, reply⟩ => reply = .ok bytes.size
  | ⟨.wait _ _, reply⟩ => reply = .exited 0
  | _ => True

theorem exists_reply {request : Call} (replies : request.neverReplies = false) :
    ∃ reply : request.Reply, Exchange.IsObliging ⟨request, reply⟩ := by
  cases request with
  | write target bytes => exact ⟨.ok bytes.size, rfl⟩
  | wait pid reportStops => exact ⟨.exited 0, rfl⟩
  | exit code => cases replies
  | pause => cases replies
  | _ =>
      first
        | exact ⟨.error .ioFailure, trivial⟩
        | exact ⟨.ioFailure, trivial⟩
        | exact ⟨[], trivial⟩
        | exact ⟨false, trivial⟩
        | exact ⟨(), trivial⟩
        | exact ⟨(0 : Nat), trivial⟩

theorem delivers_taken (source : Descriptor) (limit : Nat) (left : List UInt8) :
    Delivers source left [⟨.read source limit, .ok ⟨(left.take limit).toArray⟩⟩]
      (left.drop limit) := by
  have size : ByteArray.size ⟨(left.take limit).toArray⟩ = min limit left.length := by
    change (left.take limit).toArray.size = _
    rw [List.size_toArray, List.length_take]
  have fits : ByteArray.size ⟨(left.take limit).toArray⟩ ≤ limit := by
    rw [size]
    exact Nat.min_le_left _ _
  have ends : ByteArray.size ⟨(left.take limit).toArray⟩ = 0 →
      limit = 0 ∨ left.drop limit = [] := by
    rw [size]
    intro empty
    rcases Nat.min_eq_zero_iff.mp empty with noLimit | atEnd
    · exact .inl noLimit
    · rw [List.length_eq_zero_iff.mp atEnd]
      exact .inr List.drop_nil
  have delivers : Delivers source _ _ _ := .block fits ends (.nothing (left.drop limit))
  rwa [List.take_append_drop] at delivers

theorem reads_from_iff {source : Descriptor} {request : Call} :
    request.readsFrom source = true ↔ ∃ limit, request = .read source limit := by
  constructor
  · intro reads
    cases request with
    | read other limit => exact ⟨limit, congrArg (Call.read · limit) (beq_iff_eq.mp reads)⟩
    | _ => cases reads
  · rintro ⟨limit, rfl⟩
    exact beq_self_eq_true source

/-- A call that has a reply at all can be obliged while a source is delivered, so that a process
that forks goes on as the parent. -/
theorem exists_delivering_reply {request : Call} (replies : request.neverReplies = false)
    (source : Descriptor) (left : List UInt8) :
    ∃ (reply : request.Reply) (final : List UInt8),
      Delivers source left [⟨request, reply⟩] final ∧ Exchange.IsObliging ⟨request, reply⟩ ∧
        Trace.inChild [⟨request, reply⟩] = false := by
  by_cases isFork : request = .fork
  · subst isFork
    exact ⟨.error .ioFailure, left, .other rfl (.nothing left), trivial, rfl⟩
  by_cases reads : request.readsFrom source = true
  · obtain ⟨limit, rfl⟩ := reads_from_iff.mp reads
    exact ⟨_, _, delivers_taken source limit left, trivial, rfl⟩
  · obtain ⟨reply, obliging⟩ := exists_reply replies
    have isOther : request.readsFrom source = false := Bool.eq_false_iff.mpr reads
    exact ⟨reply, left, .other isOther (.nothing left), obliging,
      Trace.in_child_of_not_fork isFork⟩

/-- A program that has ended, or waits for a reply that never comes. -/
def Program.IsOver {α : Type} : Program α → Prop
  | .done _ => True
  | .call request _ => request.neverReplies = true

/-- Every program can be followed to its end, while a source is delivered to it and nothing
that it writes is refused. -/
theorem Program.can_end {α : Type} (program : Program α) (source : Descriptor)
    (left : List UInt8) :
    ∃ trace last final, program.Follows trace last ∧ Delivers source left trace final ∧
      (∀ exchange ∈ trace, exchange.IsObliging) ∧ trace.inChild = false ∧ last.IsOver := by
  induction program generalizing left with
  | done value =>
      exact ⟨[], _, left, .stop _, .nothing left, List.forall_mem_nil _, rfl, trivial⟩
  | call request next ih =>
      cases replies : request.neverReplies with
      | true => exact ⟨[], _, left, .stop _, .nothing left, List.forall_mem_nil _, rfl, replies⟩
      | false =>
          obtain ⟨reply, middle, delivered, obliging, isParent⟩ :=
            exists_delivering_reply replies source left
          obtain ⟨trace, last, final, follows, delivers, obligingLater, stays, ends⟩ :=
            ih reply middle
          refine ⟨[⟨request, reply⟩] ++ trace, last, final, .step follows,
            delivers_append_iff.mpr ⟨middle, delivered, delivers⟩,
            List.forall_mem_cons.mpr ⟨obliging, obligingLater⟩, ?_, ends⟩
          rw [Trace.in_child_append, isParent, stays]
          rfl

end JobShell.Unix
