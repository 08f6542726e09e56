import JobShell.Proofs.System.Pipes

/-!
# A process that waits for itself

A process that writes to a full pipe waits until somebody reads. When it has the only
reading end itself, nobody ever will.
-/

namespace JobShell.Unix

set_option autoImplicit false

variable {α : Type} {capacity : Nat} {whole : Program α} {start : Holdings}
  {world later : World α} {first : Member α} {children : List (Member α)}

/-- The first process is about to write to a pipe that is full, and it has the only reading
end of the pipe itself. -/
def Stalled (capacity : Nat) (world : World α) : Prop :=
  ∃ first children target bytes next pipe, world.members = first :: children ∧
    first.activity = .running (.call (.write target bytes) next) ∧ 0 < bytes.size ∧
    (world.holdings first).originAt target = some (.pipeEnd pipe true) ∧
    capacity ≤ (world.contents pipe).size ∧ first.table.Leads pipe ∧
    ∀ child ∈ children, ¬ child.table.Leads pipe

theorem Step.of_writing (sound : Sound whole start world first children)
    (step : Step capacity world later) {target : Descriptor} {bytes : ByteArray}
    {next : Except Errno Nat → Program α}
    (writes : first.activity = .running (.call (.write target bytes) next)) :
    ∃ head tail, later.members = head :: tail ∧
      (head = first ∨ ∃ reply, head.trace = first.trace ++ [⟨.write target bytes, reply⟩] ∧
        head.activity = .running (next reply) ∧
        world.Transfers capacity first ⟨.write target bytes, reply⟩ later.contents) := by
  -- The step is that of the first process or of a child, and the first can only have its
  -- write answered.
  cases step with
  | @answer before after member request goesOn reply contents among asks single expected moved =>
      rcases sound.place among with ⟨rfl, rfl, rfl⟩ | ⟨between, rfl, rfl⟩
      · rw [writes] at asks
        cases asks
        exact ⟨_, _, rfl, .inr ⟨reply, rfl, rfl, moved⟩⟩
      · exact ⟨first, _, rfl, .inl rfl⟩
  | @fork before after member goesOn child among asks fresh =>
      rcases sound.place among with ⟨rfl, rfl, rfl⟩ | ⟨between, rfl, rfl⟩
      · rw [writes] at asks
        cases asks
      · exact ⟨first, _, rfl, .inl rfl⟩
  | @execute before after member arguments goesOn among asks =>
      rcases sound.place among with ⟨rfl, rfl, rfl⟩ | ⟨between, rfl, rfl⟩
      · rw [writes] at asks
        cases asks
      · exact ⟨first, _, rfl, .inl rfl⟩
  | @finish before after member program among runs allowed =>
      rcases sound.place among with ⟨rfl, rfl, rfl⟩ | ⟨between, rfl, rfl⟩
      · rw [writes] at runs
        cases runs
        rcases allowed with impossible | ⟨code, goesOn, isExit⟩
        · exact absurd rfl impossible
        · cases isExit
      · exact ⟨first, _, rfl, .inl rfl⟩
  | @use before after member arguments received table contents among runs fewer moved =>
      rcases sound.place among with ⟨rfl, rfl, rfl⟩ | ⟨between, rfl, rfl⟩
      · rw [writes] at runs
        cases runs
      · exact ⟨first, _, rfl, .inl rfl⟩

end JobShell.Unix
