import JobShell.Proofs.Program.Trace

/-!
# Writing a text piece by piece

Each write accepts some of the bytes that are left, so at every moment what was accepted
and what is left make up the text.
-/

namespace JobShell.Unix

set_option autoImplicit false

def Trace.sent (target : Descriptor) : Trace → ByteArray
  | [] => .empty
  | ⟨.write other bytes, .ok count⟩ :: later =>
    if other = target then bytes.extract 0 count ++ sent target later else sent target later
  | _ :: later => sent target later

theorem Trace.sent_append (target : Descriptor) (first second : Trace) :
    sent target (first ++ second) = sent target first ++ sent target second := by
  induction first using sent.induct target with
  | case1 => exact ByteArray.empty_append.symm
  | case2 bytes count later ih =>
      rw [List.cons_append, sent, sent, if_pos rfl, if_pos rfl, ih, ByteArray.append_assoc]
  | case3 other bytes count later different ih =>
      rw [List.cons_append, sent, sent, if_neg different, if_neg different, ih]
  | case4 exchange later notWrite ih =>
      rw [List.cons_append, sent.eq_3 _ _ _ notWrite, sent.eq_3 _ _ _ notWrite, ih]

inductive Exchange.RefusesBytes : Exchange → Prop where
  | failed (target : Descriptor) (bytes : ByteArray) (errno : Errno) :
      RefusesBytes ⟨.write target bytes, .error errno⟩
  | nothing (target : Descriptor) (bytes : ByteArray) :
      RefusesBytes ⟨.write target bytes, .ok 0⟩

/-- Why a write accepts nothing, where taking none of the bytes is a failure of its own. -/
inductive Exchange.RefusesFor : Exchange → Errno → Prop where
  | failed (target : Descriptor) (bytes : ByteArray) (errno : Errno) :
      RefusesFor ⟨.write target bytes, .error errno⟩ errno
  | nothing (target : Descriptor) (bytes : ByteArray) :
      RefusesFor ⟨.write target bytes, .ok 0⟩ .ioFailure

theorem Exchange.RefusesFor.refuses {exchange : Exchange} {errno : Errno}
    (refuses : exchange.RefusesFor errno) : exchange.RefusesBytes := by
  cases refuses with
  | failed target bytes => exact .failed target bytes _
  | nothing target bytes => exact .nothing target bytes

/-- What the writes of a trace have come to: each has accepted something, or one was refused,
and why. -/
inductive Trace.Decides (trace : Trace) : Except Errno Unit → Prop where
  | accepted (all : ∀ exchange ∈ trace, ¬ exchange.RefusesBytes) : trace.Decides (.ok ())
  | refused {refused : Exchange} {errno : Errno} (member : refused ∈ trace)
      (refuses : refused.RefusesFor errno) : trace.Decides (.error errno)

namespace Trace.Decides

variable {trace before after : Trace} {result : Except Errno Unit}

theorem append (first : before.Decides (.ok ())) (second : after.Decides result) :
    (before ++ after).Decides result := by
  obtain ⟨all⟩ := first
  cases second with
  | accepted allAfter => exact .accepted (List.forall_mem_append.mpr ⟨all, allAfter⟩)
  | refused member refuses => exact .refused (List.mem_append_right _ member) refuses

theorem succeeds (decides : trace.Decides result)
    (accepted : ∀ exchange ∈ trace, ¬ exchange.RefusesBytes) : result = .ok () := by
  cases decides with
  | accepted all => rfl
  | refused member refuses => exact absurd refuses.refuses (accepted _ member)

end Trace.Decides

def Call.writesTo (target : Descriptor) : Call → Bool
  | .write other _ => other == target
  | _ => false

def Call.isStill (call : Call) : Bool :=
  !call.transfers

theorem Trace.sent_of_still {trace : Trace} (target : Descriptor)
    (still : ∀ exchange ∈ trace, exchange.request.isStill = true) :
    trace.sent target = .empty := by
  induction trace with
  | nil => rfl
  | cons exchange trace ih =>
      rw [List.forall_mem_cons] at still
      rw [sent.eq_3]
      · exact ih still.2
      · rintro other bytes count rfl
        cases still.1

namespace Program

variable {target : Descriptor} {turns : Nat} {bytes left : ByteArray}

theorem write_from_of_empty (empty : bytes.size = 0) :
    writeFrom target turns bytes = .done (.ok ()) := by
  cases turns with
  | zero => rfl
  | succ turns =>
      rw [writeFrom, if_pos empty]
      rfl

def written (target : Descriptor) (turns : Nat) (bytes : ByteArray) :
    Except Errno Nat → Program (Except Errno Unit)
  | .error errno => .done (.error errno)
  | .ok 0 => .done (.error .ioFailure)
  | .ok (count + 1) => writeFrom target turns (bytes.extract (count + 1) bytes.size)

theorem write_from_of_nonempty (nonempty : 0 < bytes.size) :
    writeFrom target (turns + 1) bytes =
      .call (.write target bytes) (written target turns bytes) := by
  rw [writeFrom, if_neg (Nat.ne_of_gt nonempty)]
  refine congrArg (Program.call (.write target bytes)) (funext fun reply => ?_)
  rcases reply with errno | (_ | count) <;> rfl

theorem accepted_append_left (bytes : ByteArray) (count : Nat) :
    bytes.extract 0 count ++ bytes.extract count bytes.size = bytes := by
  rw [ByteArray.extract_append_extract, Nat.zero_min, ByteArray.extract_zero_max_size]

theorem write_from_follows {own : Trace} {rest : Program (Except Errno Unit)}
    (follows : (writeFrom target turns bytes).Follows own rest) (enough : bytes.size ≤ turns) :
    (∃ errno, rest = .done (.error errno)) ∨
      ∃ turnsLeft left, rest = writeFrom target turnsLeft left ∧ left.size ≤ turnsLeft ∧
        own.sent target ++ left = bytes := by
  induction turns generalizing bytes own with
  | zero =>
      obtain ⟨rfl, rfl⟩ := follows_done_iff.mp follows
      exact .inr ⟨0, bytes, rfl, enough, ByteArray.empty_append⟩
  | succ turns ih =>
      rcases Nat.eq_zero_or_pos bytes.size with empty | nonempty
      · rw [write_from_of_empty empty] at follows
        obtain ⟨rfl, rfl⟩ := follows_done_iff.mp follows
        refine .inr ⟨turns, bytes, (write_from_of_empty empty).symm, by omega, ?_⟩
        exact ByteArray.empty_append
      · rw [write_from_of_nonempty nonempty, follows_call_iff] at follows
        rcases follows with ⟨rfl, rfl⟩ | ⟨reply, later, rfl, follows⟩
        · refine .inr ⟨turns + 1, bytes, (write_from_of_nonempty nonempty).symm, enough, ?_⟩
          exact ByteArray.empty_append
        · rcases reply with errno | (_ | count)
          · obtain ⟨rfl, rfl⟩ := follows_done_iff.mp follows
            exact .inl ⟨errno, rfl⟩
          · obtain ⟨rfl, rfl⟩ := follows_done_iff.mp follows
            exact .inl ⟨_, rfl⟩
          · have enoughLeft : (bytes.extract (count + 1) bytes.size).size ≤ turns := by
              rw [ByteArray.size_extract]
              omega
            rcases ih follows enoughLeft with failed | ⟨turnsLeft, left, rfl, fits, made⟩
            · exact .inl failed
            · refine .inr ⟨turnsLeft, left, rfl, fits, ?_⟩
              rw [Trace.sent, if_pos rfl, ByteArray.append_assoc, made]
              exact accepted_append_left bytes (count + 1)

theorem write_all_returns {own : Trace}
    (returns : (writeAll target bytes).Returns own (.ok ())) :
    own.sent target = bytes ∧ ∀ exchange ∈ own, exchange.request.writesTo target = true := by
  have only : (writeAll target bytes).OnlyCalls (Call.writesTo target) :=
    write_from_only_calls (fun _ => beq_self_eq_true target) _ _
  refine ⟨?_, only.along returns⟩
  rcases write_from_follows returns (Nat.le_refl _) with
    ⟨errno, impossible⟩ | ⟨turnsLeft, left, stopped, fits, made⟩
  · cases impossible
  · rcases Nat.eq_zero_or_pos left.size with empty | nonempty
    · rw [ByteArray.size_eq_zero_iff.mp empty, ByteArray.append_empty] at made
      exact made
    · obtain ⟨turns, rfl⟩ : ∃ turns, turnsLeft = turns + 1 := ⟨turnsLeft - 1, by omega⟩
      rw [write_from_of_nonempty nonempty] at stopped
      cases stopped

theorem write_from_decides {own : Trace} {result : Except Errno Unit}
    (returns : (writeFrom target turns bytes).Returns own result) : own.Decides result := by
  induction turns generalizing bytes own with
  | zero =>
      obtain ⟨rfl, rfl⟩ := returns_done_iff.mp returns
      exact .accepted (List.forall_mem_nil _)
  | succ turns ih =>
      rcases Nat.eq_zero_or_pos bytes.size with empty | nonempty
      · rw [write_from_of_empty empty] at returns
        obtain ⟨rfl, rfl⟩ := returns_done_iff.mp returns
        exact .accepted (List.forall_mem_nil _)
      · rw [write_from_of_nonempty nonempty] at returns
        obtain ⟨reply, later, rfl, going⟩ := returns_call_iff.mp returns
        rcases reply with errno | (_ | count)
        · obtain ⟨rfl, rfl⟩ := returns_done_iff.mp going
          exact .refused List.mem_cons_self (.failed target bytes errno)
        · obtain ⟨rfl, rfl⟩ := returns_done_iff.mp going
          exact .refused List.mem_cons_self (.nothing target bytes)
        · have taken : Trace.Decides [⟨.write target bytes, .ok (count + 1)⟩] (.ok ()) :=
            .accepted (List.forall_mem_singleton.mpr nofun)
          exact taken.append (ih going)

theorem write_all_can_return (target : Descriptor) (bytes : ByteArray) :
    ∃ trace, (writeAll target bytes).Returns trace (.ok ()) := by
  unfold writeAll
  rcases Nat.eq_zero_or_pos bytes.size with empty | nonempty
  · exact ⟨[], by rw [write_from_of_empty empty]; exact .stop _⟩
  · obtain ⟨turns, isSize⟩ : ∃ turns, bytes.size = turns + 1 := ⟨bytes.size - 1, by omega⟩
    refine ⟨[⟨.write target bytes, .ok (turns + 1)⟩], ?_⟩
    rw [isSize, write_from_of_nonempty nonempty]
    refine .step ?_
    have nothingLeft : (bytes.extract (turns + 1) bytes.size).size = 0 := by
      rw [ByteArray.size_extract]
      omega
    rw [written, write_from_of_empty nothingLeft]
    exact .stop _

end Program

end JobShell.Unix
