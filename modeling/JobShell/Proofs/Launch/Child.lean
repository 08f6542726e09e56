import JobShell.Proofs.Launch.Rules

/-!
# The child of a stage

A child moves its two endpoints onto the standard descriptors and then starts the
program. The endpoints that the shell opened are marked to be closed by then, and the
copies are not, so that of all the files that the child took over with the descriptors of
the shell only these two are left.
-/

namespace JobShell

open Unix

set_option autoImplicit false

namespace Unix.DescriptorTable

variable {table : DescriptorTable} {descriptor : Descriptor} {slot : Slot}

theorem lookup_after_execute (found : table.lookup descriptor = some slot)
    (stays : slot.closeOnExecute = false) :
    table.afterExecute.lookup descriptor = some slot := by
  induction table with
  | nil => cases found
  | cons head table ih =>
      obtain ⟨number, held⟩ := head
      rw [List.lookup_cons] at found
      by_cases same : descriptor = number
      · subst same
        rw [beq_self_eq_true] at found
        cases found
        rw [afterExecute, List.filter_cons, if_pos (by simp [stays]), List.lookup_cons,
          beq_self_eq_true]
      · rw [beq_false_of_ne same] at found
        have later := ih found
        rw [afterExecute, List.filter_cons]
        split
        · rw [List.lookup_cons, beq_false_of_ne same]
          exact later
        · exact later

end Unix.DescriptorTable

/-- The table after a descriptor was moved onto another one, or left where it was. -/
def Moved (table moved : DescriptorTable) (source target : Descriptor) : Prop :=
  source = target ∧ moved = table ∨
    source ≠ target ∧ ∃ slot, table.lookup source = some slot ∧
      moved = (table.put target { slot with closeOnExecute := false }).drop source

namespace Moved

variable {table moved : DescriptorTable} {source target other : Descriptor} {slot : Slot}

theorem lookup_other (move : Moved table moved source target) (notSource : other ≠ source)
    (notTarget : other ≠ target) : moved.lookup other = table.lookup other := by
  rcases move with ⟨_, rfl⟩ | ⟨_, held, _, rfl⟩
  · rfl
  · rw [DescriptorTable.lookup_drop_other notSource, DescriptorTable.lookup_put_other notTarget]

theorem lookup_target (move : Moved table moved source target)
    (found : table.lookup source = some slot)
    (stays : source = target → slot.closeOnExecute = false) :
    moved.lookup target = some ⟨slot.file, false⟩ := by
  rcases move with ⟨same, rfl⟩ | ⟨different, held, foundHeld, rfl⟩
  · rw [← same, found, ← stays same]
  · rw [found] at foundHeld
    cases foundHeld
    rw [DescriptorTable.lookup_drop_other (Ne.symm different), DescriptorTable.lookup_put_same]

theorem mem (move : Moved table moved source target) {entry : Descriptor × Slot}
    (member : entry ∈ moved) :
    entry ∈ table ∨
      source ≠ target ∧ entry.1 = target ∧ table.fileAt source = some entry.2.file := by
  rcases move with ⟨_, rfl⟩ | ⟨different, held, found, rfl⟩
  · exact .inl member
  · rcases DescriptorTable.mem_of_mem_put (DescriptorTable.mem_of_mem_drop member) with rfl | old
    · refine .inr ⟨different, rfl, ?_⟩
      rw [DescriptorTable.fileAt, found, Option.map_some]
    · exact .inl old

end Moved

/-- Where the descriptor of an endpoint leads: to the file of the endpoint, or as the
standard descriptor does. It is none of the other standard descriptors. -/
theorem Endpoint.Holds.leads {start : Holdings} {trace : Trace} {owned entries : DescriptorTable}
    {endpoint : Endpoint} {file : Option Nat} {standard : Descriptor}
    (holds : endpoint.Holds file entries) (owns : Owns start trace owned)
    (among : entries ⊆ owned) (isOpen : ∃ file, start.table.lookup standard = some ⟨file, false⟩) :
    ∃ slot, (start.along trace).table.lookup (endpoint.descriptor standard) = some slot ∧
      some slot.file = file.or (start.table.fileAt standard) ∧
      (endpoint.descriptor standard = standard → slot.closeOnExecute = false) ∧
      ∀ other, other ≠ standard → (start.table.lookup other).isSome →
        other ≠ endpoint.descriptor standard := by
  obtain ⟨standardFile, found⟩ := isOpen
  cases holds with
  | inherited =>
      refine ⟨_, owns.lookup_start found, ?_, fun _ => rfl, fun other different _ => different⟩
      rw [Option.none_or, DescriptorTable.fileAt, found, Option.map_some]
  | owned descriptor file =>
      have member := among List.mem_cons_self
      have free : start.table.lookup descriptor = none := owns.free _ member
      refine ⟨_, owns.lookup_own member, rfl, ?_, ?_⟩
      · intro same
        change descriptor = standard at same
        rw [same, found] at free
        cases free
      · intro other _ isOpen same
        change other = descriptor at same
        rw [same, free] at isOpen
        cases isOpen

theorem receives_of_moves {start : Holdings} {stages : List Stage} {index : Nat} {trace : Trace}
    {input output : Endpoint} {first second : DescriptorTable} (known : start.Known)
    (standard : start.HasStandard) (ready : Ready start stages index trace input output)
    (moveInput : Moved (start.along trace).table first (input.descriptor standardInput)
      standardInput)
    (moveOutput : Moved first second (output.descriptor standardOutput) standardOutput) :
    Receives start second.afterExecute (Wiring.sourceOf start.files.length stages index)
      (Wiring.targetOf start.files.length stages index) := by
  obtain ⟨owned, inputEntries, outputEntries, owns, inputHolds, outputHolds, inputAmong,
    outputAmong⟩ := ready.holds
  obtain ⟨inputSlot, inputFound, inputFile, inputStays, inputApart⟩ :=
    inputHolds.leads owns inputAmong (standard standardInput (by decide))
  obtain ⟨outputSlot, outputFound, outputFile, outputStays, outputApart⟩ :=
    outputHolds.leads owns outputAmong (standard standardOutput (by decide))
  obtain ⟨errorFile, errorFound⟩ := standard standardError (by decide)
  have isOpen (descriptor : Descriptor) (small : descriptor < 3) :
      (start.table.lookup descriptor).isSome := by
    obtain ⟨file, found⟩ := standard descriptor small
    rw [found]
    rfl
  -- The first move must not overwrite what the second one is still to copy.
  have outputNotInput : output.descriptor standardOutput ≠ input.descriptor standardInput := by
    cases output with
    | inherited => exact inputApart standardOutput (by decide) (isOpen _ (by decide))
    | owned descriptor =>
        cases input with
        | inherited => exact (outputApart standardInput (by decide) (isOpen _ (by decide))).symm
        | owned other =>
            intro same
            exact ready.apart other rfl (congrArg Endpoint.owned same)
  have outputNotZero : output.descriptor standardOutput ≠ standardInput :=
    (outputApart standardInput (by decide) (isOpen _ (by decide))).symm
  have inputMoved : first.lookup standardInput = some ⟨inputSlot.file, false⟩ :=
    moveInput.lookup_target inputFound inputStays
  have outputFoundThen : first.lookup (output.descriptor standardOutput) = some outputSlot := by
    rw [moveInput.lookup_other outputNotInput outputNotZero, outputFound]
  have outputMoved : second.lookup standardOutput = some ⟨outputSlot.file, false⟩ :=
    moveOutput.lookup_target outputFoundThen outputStays
  have inputKept : second.lookup standardInput = some ⟨inputSlot.file, false⟩ := by
    rw [moveOutput.lookup_other outputNotZero.symm (by decide), inputMoved]
  have errorKept : second.lookup standardError = some ⟨errorFile, false⟩ := by
    rw [moveOutput.lookup_other (outputApart _ (by decide) (isOpen _ (by decide))) (by decide),
      moveInput.lookup_other (inputApart _ (by decide) (isOpen _ (by decide))) (by decide),
      owns.lookup_start errorFound]
  have ofStart {file : Option Nat} {descriptor : Descriptor} {number : Nat}
      (leads : some number = file.or (start.table.fileAt descriptor))
      (isNew : start.files.length ≤ number) : file = some number := by
    cases file with
    | some file => simpa using leads.symm
    | none =>
        obtain ⟨slot, found, rfl⟩ := Option.map_eq_some_iff.mp leads.symm
        have earlier := known _ (DescriptorTable.mem_of_lookup found)
        exact absurd earlier (by simpa using isNew)
  refine ⟨?_, ?_, ?_, ?_⟩
  · rw [DescriptorTable.fileAt, DescriptorTable.lookup_after_execute inputKept rfl, ← inputFile]
    rfl
  · rw [DescriptorTable.fileAt, DescriptorTable.lookup_after_execute outputMoved rfl, ← outputFile]
    rfl
  · rw [DescriptorTable.fileAt, DescriptorTable.lookup_after_execute errorKept rfl,
      DescriptorTable.fileAt, errorFound]
  · intro entry member isNew
    obtain ⟨member, stays⟩ := List.mem_filter.mp member
    rcases moveOutput.mem member with member | ⟨_, isOutput, leads⟩
    · rcases moveInput.mem member with member | ⟨_, isInput, leads⟩
      · obtain ⟨exact, permuted, table⟩ := owns.table
        rw [table] at member
        rcases List.mem_append.mp member with isOwn | isEarlier
        · rw [owns.flagged entry (permuted.mem_iff.mp isOwn)] at stays
          cases stays
        · exact absurd (known entry isEarlier) (Nat.not_lt.mpr isNew)
      · rw [DescriptorTable.fileAt, inputFound, Option.map_some] at leads
        rw [Option.some.inj leads] at inputFile
        exact .inl ⟨isInput, ofStart inputFile isNew⟩
    · rw [DescriptorTable.fileAt, outputFoundThen, Option.map_some] at leads
      rw [Option.some.inj leads] at outputFile
      exact .inr ⟨isOutput, ofStart outputFile isNew⟩

section

variable {start : Holdings} {launcher : Launcher} {stages : List Stage} {trace : Trace}

theorem child_permits {α : Type} {request : Call} {next : request.Reply → Program α}
    (isChild : trace.inChild = true) (may : ChildMay start stages trace request) :
    (launchContract start launcher stages).demands trace request next := by
  simp only [launchContract, isChild, ↓reduceIte]
  exact may

theorem in_child_of_longer {later : Trace} (isChild : trace.inChild = true)
    (longer : trace <+: later) : later.inChild = true := by
  obtain ⟨more, rfl⟩ := longer
  rw [Trace.in_child_append, isChild, Bool.true_or]

theorem give_up_meets {α : Type} {goal : Trace → α → Prop} (message : String)
    (isChild : trace.inChild = true) :
    (giveUp message).Meets (launchContract start launcher stages) goal trace := by
  have said := Program.meets_own_trace (launchContract start launcher stages)
    (fun later => later.inChild = true)
    (Program.print_keeps_process standardError (message ++ "\n")) isChild
    (by
      intro own call next isChildLater keeps _
      refine child_permits isChildLater ?_
      cases call <;> first | exact trivial | cases keeps)
    (by
      intro own exchange isChildLater _
      exact in_child_of_longer isChildLater (List.prefix_append _ _))
  refine Program.meets_bind_of said ?_
  rintro later _ ⟨own, rfl, _, isChildLater⟩
  exact ⟨child_permits isChildLater trivial, nofun⟩

theorem move_onto_meets (source target : Descriptor) (isChild : trace.inChild = true) :
    (moveOnto source target).Meets (launchContract start launcher stages)
      (fun later result => trace <+: later ∧
        match result with
        | .error _ => True
        | .ok _ => Moved (start.along trace).table (start.along later).table source target)
      trace := by
  unfold moveOnto
  split
  · rename_i same
    exact ⟨List.prefix_rfl, .inl ⟨same, rfl⟩⟩
  · rename_i different
    refine ⟨child_permits isChild trivial, fun reply expected => ?_⟩
    have longer : trace <+: trace ++ [⟨.duplicate source target, reply⟩] := List.prefix_append _ _
    cases reply with
    | error errno => exact ⟨longer, trivial⟩
    | ok =>
        refine ⟨child_permits (in_child_of_longer isChild longer) trivial, fun closed _ => ?_⟩
        have longest := longer.trans (List.prefix_append _ [⟨.close source, closed⟩])
        cases closed with
        | error errno => exact ⟨longest, trivial⟩
        | ok =>
            obtain ⟨slot, found⟩ := Option.isSome_iff_exists.mp expected
            refine ⟨longest, .inr ⟨different, slot, found, ?_⟩⟩
            rw [Holdings.along_snoc, Holdings.along_snoc, Holdings.after, Holdings.after, found]
            simp only [if_neg different]

theorem child_quiet_meets {α : Type} {goal : Trace → α → Prop} {call : Call}
    {next : call.Reply → Program α} (isChild : trace.inChild = true)
    (may : ChildMay start stages trace call) (quiet : Holdings.isQuiet call = true)
    (rest : ∀ later, trace <+: later → (start.along later).table = (start.along trace).table →
      ∀ reply, (next reply).Meets (launchContract start launcher stages) goal later) :
    (Program.call call next).Meets (launchContract start launcher stages) goal trace := by
  refine ⟨child_permits isChild may, fun reply _ => rest _ (List.prefix_append _ _) ?_ reply⟩
  rw [Holdings.along_snoc, Holdings.after_quiet _ quiet]

theorem start_program_meets {α : Type} {goal : Trace → α → Prop} {index : Nat} {stage : Stage}
    {input output : Endpoint} {own : Trace} (found : stages[index]? = some stage)
    (kind : stage.kind = .external) (ready : Ready start stages index trace input output)
    (sameTable : (start.along (trace ++ ⟨.fork, .ok none⟩ :: own)).table =
      (start.along trace).table) :
    (startProgram stage.arguments (input.descriptor standardInput)
      (output.descriptor standardOutput)).Meets (launchContract start launcher stages) goal
      (trace ++ ⟨.fork, .ok none⟩ :: own) := by
  have isChild : (trace ++ ⟨.fork, .ok none⟩ :: own : Trace).inChild = true := by
    rw [Trace.in_child_append, ready.isShell]
    rfl
  unfold startProgram
  refine Program.meets_bind_of (move_onto_meets _ _ isChild) ?_
  rintro second (failure | _) ⟨longer, moveInput⟩
  · exact give_up_meets _ (in_child_of_longer isChild longer)
  refine Program.meets_bind_of (move_onto_meets _ _ (in_child_of_longer isChild longer)) ?_
  rintro third (failure | _) ⟨longest, moveOutput⟩
  · exact give_up_meets _ (in_child_of_longer isChild (longer.trans longest))
  have isChildThen := in_child_of_longer isChild (longer.trans longest)
  rw [sameTable] at moveInput
  refine ⟨child_permits isChildThen ?_, fun errno _ =>
    give_up_meets _ (in_child_of_longer isChildThen (List.prefix_append _ _))⟩
  obtain ⟨more, rfl⟩ := longer.trans longest
  refine ⟨index, stage, trace, own ++ more, input, output, ?_, found, kind, rfl, ready, ?_⟩
  · simp
  · intro known standard
    exact receives_of_moves known standard ready moveInput moveOutput

theorem become_stage_meets {α : Type} {goal : Trace → α → Prop} {index : Nat} {stage : Stage}
    {input output : Endpoint} (context : Context) (group : Option Pid)
    (found : stages[index]? = some stage) (kind : stage.kind = .external)
    (ready : Ready start stages index trace input output) :
    (becomeStage context group stage.arguments (input.descriptor standardInput)
      (output.descriptor standardOutput)).Meets (launchContract start launcher stages) goal
      (trace ++ [⟨.fork, .ok none⟩]) := by
  have isChild : (trace ++ [⟨.fork, .ok none⟩] : Trace).inChild = true := by
    rw [Trace.in_child_append, ready.isShell]
    rfl
  have sameTable : (start.along (trace ++ [⟨.fork, .ok none⟩])).table =
      (start.along trace).table := by
    rw [Holdings.along_snoc, Holdings.after_fork]
  have finish {later : Trace} (longer : trace ++ [⟨.fork, .ok none⟩] <+: later)
      (same : (start.along later).table = (start.along trace).table) :
      (startProgram stage.arguments (input.descriptor standardInput)
        (output.descriptor standardOutput)).Meets (launchContract start launcher stages) goal
        later := by
    obtain ⟨more, rfl⟩ := longer
    rw [List.append_assoc] at same ⊢
    exact start_program_meets found kind ready same
  unfold becomeStage
  refine child_quiet_meets isChild trivial rfl fun second longer same own => ?_
  refine child_quiet_meets (in_child_of_longer isChild longer) trivial rfl
    fun third longerThird sameThird _ => ?_
  have isChildThird := in_child_of_longer isChild (longer.trans longerThird)
  split
  · refine child_quiet_meets isChildThird trivial rfl fun fourth longerFourth sameFourth _ => ?_
    refine child_quiet_meets (in_child_of_longer isChildThird longerFourth) trivial rfl
      fun fifth longerFifth sameFifth _ => ?_
    refine finish (longer.trans (longerThird.trans (longerFourth.trans longerFifth))) ?_
    rw [sameFifth, sameFourth, sameThird, same, sameTable]
  · refine child_quiet_meets isChildThird trivial rfl fun fourth longerFourth sameFourth _ => ?_
    refine finish (longer.trans (longerThird.trans longerFourth)) ?_
    rw [sameFourth, sameThird, same, sameTable]

end

end JobShell
