import JobShell.Proofs.Launch.Child

/-!
# Launching stage after stage

Each function of a launch keeps to the contract, and its goal says what the shell holds
afterwards. A stage takes over the reading end of the pipe before it, adds at most the
two ends of its own pipe and two redirections, and leaves only the reading end for the
next stage. That is the invariant over the stages, and the reason why five descriptors
are enough.
-/

namespace JobShell

open Unix

set_option autoImplicit false

section

variable {start : Holdings} {launcher : Launcher} {stages : List Stage} {trace : Trace}
  {owned : DescriptorTable} {files : List Origin} {births : List (Pid × Trace)}

theorem Stands.permits {α : Type} {request : Call} {next : request.Reply → Program α}
    (stands : Stands start trace owned files births) (room : owned.length ≤ 5)
    (may : ShellMay start trace request) :
    (launchContract start launcher stages).demands trace request next := by
  simp only [launchContract, stands.isShell, Bool.false_eq_true, ↓reduceIte]
  exact ⟨.inl may, owned, stands.owns, room⟩

theorem Stands.permits_builtin {α : Type} {request : Call} {next : request.Reply → Program α}
    (stands : Stands start trace owned files births) (room : owned.length ≤ 5)
    (inside : InBuiltin start launcher stages trace request next) :
    (launchContract start launcher stages).demands trace request next := by
  simp only [launchContract, stands.isShell, Bool.false_eq_true, ↓reduceIte]
  exact ⟨.inr inside, owned, stands.owns, room⟩

theorem release_meets {endpoint : Endpoint} {file : Option Nat} {entries : DescriptorTable}
    (others : DescriptorTable) (stands : Stands start trace owned files births)
    (holds : endpoint.Holds file entries) (same : owned.Perm (entries ++ others))
    (room : owned.length ≤ 5) :
    endpoint.release.Meets (launchContract start launcher stages)
      (fun later _ => Stands start later others files births ∧ trace.Grows later) trace := by
  cases holds with
  | inherited => exact ⟨stands.perm same, .refl trace⟩
  | owned descriptor file =>
      have arranged := stands.perm same
      refine ⟨stands.permits room ⟨_, _, arranged.owns, List.mem_cons_self⟩, fun reply _ => ?_⟩
      exact ⟨arranged.close reply, .snoc trace rfl⟩

theorem connect_meets (isLast : Bool) (stands : Stands start trace owned files births)
    (room : owned.length ≤ 5) :
    (connect isLast).Meets (launchContract start launcher stages)
      (fun later result => trace.Grows later ∧
        match result with
        | .error _ => Stands start later owned files births
        | .ok (output, next) => ∃ outputEntries nextEntries,
            output.Holds (if isLast then none else some (files.length + 1)) outputEntries ∧
            next.Holds (if isLast then none else some files.length) nextEntries ∧
            Stands start later (outputEntries ++ (nextEntries ++ owned))
              (files ++ pipeOrigins isLast files.length) births) trace := by
  unfold connect
  cases isLast with
  | true => exact ⟨.refl trace, [], [], .inherited, .inherited, by simpa [pipeOrigins] using stands⟩
  | false =>
      refine ⟨stands.permits room trivial, fun reply expected => ?_⟩
      cases reply with
      | error errno => exact ⟨.snoc trace rfl, stands.refused nofun rfl rfl⟩
      | ok ends =>
          obtain ⟨reader, writer⟩ := ends
          exact ⟨.snoc trace rfl, _, _, .owned _ _, .owned _ _, stands.pipe expected⟩

theorem open_path_meets (path : String) (access : Access)
    (stands : Stands start trace owned files births) (room : owned.length ≤ 5) :
    (openPath path access).Meets (launchContract start launcher stages)
      (fun later result => trace.Grows later ∧
        match result with
        | .error _ => Stands start later owned files births
        | .ok descriptor => Stands start later ((descriptor, ⟨files.length, true⟩) :: owned)
            (files ++ [.path path access]) births) trace := by
  unfold openPath
  split
  · exact ⟨.refl trace, stands⟩
  · refine ⟨stands.permits room trivial, fun reply expected => ?_⟩
    cases reply with
    | error errno => exact ⟨.snoc trace rfl, stands.refused nofun rfl rfl⟩
    | ok descriptor => exact ⟨.snoc trace rfl, stands.openFile expected⟩

theorem open_side_meets (path : Option String) (access : Access)
    (stands : Stands start trace owned files births) (room : owned.length ≤ 5) :
    (Redirection.openSide path access).Meets (launchContract start launcher stages)
      (fun later result => trace.Grows later ∧
        match result with
        | .error _ => Stands start later owned files births
        | .ok endpoint => ∃ entries,
            endpoint.Holds (path.map fun _ => files.length) entries ∧
            Stands start later (entries ++ owned)
              (files ++ path.toList.map fun path => Origin.path (.ofText path) access)
              births) trace := by
  unfold Redirection.openSide
  cases path with
  | none => exact ⟨.refl trace, [], .inherited, by simpa using stands⟩
  | some path =>
      refine Program.meets_bind_of (open_path_meets path access stands room) ?_
      rintro later (fault | descriptor) ⟨longer, standsLater⟩
      · exact ⟨longer, standsLater⟩
      · exact ⟨longer, _, .owned _ _, standsLater⟩

theorem open_for_meets (stage : Stage) (stands : Stands start trace owned files births)
    (room : owned.length ≤ 3) :
    (Redirection.openFor stage).Meets (launchContract start launcher stages)
      (fun later result => trace.Grows later ∧
        match result with
        | .error _ => ∃ opened, Stands start later owned opened births
        | .ok redirection => ∃ inputEntries outputEntries,
            redirection.input.Holds (stage.input.map fun _ => files.length) inputEntries ∧
            redirection.output.Holds
              (stage.output.map fun _ => files.length + stage.input.toList.length)
              outputEntries ∧
            Stands start later (outputEntries ++ (inputEntries ++ owned))
              (files ++ stage.redirected) births) trace := by
  unfold Redirection.openFor
  refine Program.meets_bind_of (open_side_meets _ _ stands (by omega)) ?_
  rintro later (failure | input) ⟨longer, reached⟩
  · exact ⟨longer, files, reached⟩
  · obtain ⟨inputEntries, inputHolds, standsInput⟩ := reached
    have few := inputHolds.length_le
    have room : (inputEntries ++ owned).length ≤ 5 := by
      rw [List.length_append]
      omega
    refine Program.meets_bind_of (open_side_meets _ _ standsInput room) ?_
    rintro last (failure | output) ⟨longest, reached⟩
    · refine Program.meets_bind_of
        (release_meets _ reached inputHolds (List.Perm.refl _) room) ?_
      rintro final _ ⟨standsFinal, afterwards⟩
      exact ⟨longer.trans (longest.trans afterwards), _, standsFinal⟩
    · obtain ⟨outputEntries, outputHolds, standsOutput⟩ := reached
      refine ⟨longer.trans longest, inputEntries, outputEntries, inputHolds, ?_, ?_⟩
      · simpa using outputHolds
      · rw [Stage.redirected, ← List.append_assoc files]
        exact standsOutput

theorem start_child_meets {index : Nat} {stage : Stage} {input output : Endpoint}
    (context : Context) (group : Option Pid) (found : stages[index]? = some stage)
    (kind : stage.kind = .external) (ready : Ready start stages index trace input output)
    (stands : Stands start trace owned files births) (room : owned.length ≤ 5) :
    (startChild context group stage.arguments (input.descriptor standardInput)
      (output.descriptor standardOutput)).Meets (launchContract start launcher stages)
      (fun later result => trace <+: later ∧
        match result with
        | .error _ => Stands start later owned files births
        | .ok child => ∃ before, Stands start later owned files (births ++ [(child, before)]) ∧
            Ready start stages index before input output) trace := by
  unfold startChild
  cases checkArguments stage.arguments with
  | error failure => exact ⟨List.prefix_rfl, stands⟩
  | ok =>
      refine ⟨stands.permits room trivial, fun flushed _ => ?_⟩
      have standsFlushed : Stands start (trace ++ [⟨.flushOutput, flushed⟩]) owned files births :=
        stands.quiet rfl
      have readyFlushed : Ready start stages index
          (trace ++ [⟨.flushOutput, flushed⟩]) input output :=
        ready.flush
      have longer : trace <+: trace ++ [⟨.flushOutput, flushed⟩] := List.prefix_append _ _
      cases flushed with
      | error errno => exact ⟨longer, standsFlushed⟩
      | ok =>
          refine ⟨standsFlushed.permits room trivial, fun reply _ => ?_⟩
          rcases reply with errno | (_ | child)
          · exact ⟨longer.trans (List.prefix_append _ _), standsFlushed.fork_refused⟩
          · exact become_stage_meets context group found kind readyFlushed
          · exact ⟨longer.trans (List.prefix_append _ _), _, standsFlushed.forked, readyFlushed⟩

theorem invoke_meets {index : Nat} {stage : Stage} {command : Builtin} {input output : Endpoint}
    (found : stages[index]? = some stage) (kind : stage.kind = .builtin command)
    (ready : Ready start stages index trace input output)
    (stands : Stands start trace owned files births) (room : owned.length ≤ 5) :
    (launcher.invoke command
      (launcher.context.withEndpoints (input.descriptor standardInput)
        (output.descriptor standardOutput)) stage.arguments).Meets
      (launchContract start launcher stages)
      (fun later result => ∃ own, later = trace ++ own ∧
        (launcher.invoke command
          (launcher.context.withEndpoints (input.descriptor standardInput)
            (output.descriptor standardOutput)) stage.arguments).Returns own result ∧
        Stands start later owned files births) trace := by
  refine Program.meets_own_trace (launchContract start launcher stages)
    (fun later => Stands start later owned files births)
    (launcher.keepsProcess command _ stage.arguments) stands ?_ ?_
  · intro own call next standsOwn _ follows
    refine standsOwn.permits_builtin room ⟨index, stage, command, trace, own, input, output, next,
      .done, rfl, found, kind, ready, follows, ?_⟩
    funext reply
    exact (Program.bind_done _).symm
  · intro own exchange standsOwn keeps
    exact standsOwn.quiet (Holdings.quiet_of_keeps_process keeps)

theorem launch_on_meets {index : Nat} {stage : Stage} {input output : Endpoint}
    (group : Option Pid) (found : stages[index]? = some stage)
    (ready : Ready start stages index trace input output)
    (stands : Stands start trace owned files births) (room : owned.length ≤ 5) :
    (launchOn launcher group stage (input.descriptor standardInput)
      (output.descriptor standardOutput)).Meets (launchContract start launcher stages)
      (fun later result => trace <+: later ∧
        match result with
        | .error _ => Stands start later owned files births
        | .ok launched => ∃ born, Stands start later owned files (births ++ born) ∧
            Ran start launcher stages index stage later launched.run ∧
            born.map Prod.fst = launched.run.pid.toList ∧
            ∀ birth ∈ born, Ready start stages index birth.2 input output) trace := by
  unfold launchOn
  cases kind : stage.kind with
  | builtin command =>
      refine Program.meets_bind_of (invoke_meets found kind ready stands room) ?_
      rintro later result ⟨own, rfl, returns, standsLater⟩
      refine ⟨List.prefix_append _ _, [], by simpa using standsLater, ?_, rfl, by simp⟩
      exact .builtin kind ready returns (List.append_nil _).symm
  | external =>
      refine Program.meets_bind_of
        (start_child_meets launcher.context group found kind ready stands room) ?_
      rintro later (failure | child) ⟨longer, reached⟩
      · exact ⟨longer, reached⟩
      obtain ⟨before, standsLater, readyBefore⟩ := reached
      have born : (child, before) ∈ later.births := by
        rw [standsLater.births]
        exact List.mem_append_right _ List.mem_cons_self
      have launched {last : Trace} (longest : later <+: last)
          (standsLast : Stands start last owned files (births ++ [(child, before)])) :
          trace <+: last ∧ ∃ born, Stands start last owned files (births ++ born) ∧
            Ran start launcher stages index stage last ⟨stage, some child, .running⟩ ∧
            born.map Prod.fst = (some child).toList ∧
            ∀ birth ∈ born, Ready start stages index birth.2 input output := by
        refine ⟨longer.trans longest, [(child, before)], standsLast, ?_, rfl,
          by simpa using readyBefore⟩
        exact (Ran.external kind readyBefore born).extend longest
      refine ⟨standsLater.permits room trivial, fun joined _ => ?_⟩
      have standsJoined : Stands start (later ++ [⟨.joinGroup child (group.getD child), joined⟩])
          owned files (births ++ [(child, before)]) := standsLater.quiet rfl
      have longerJoined := List.prefix_append later [⟨.joinGroup child (group.getD child), joined⟩]
      split
      · refine ⟨standsJoined.permits room trivial, fun given _ => ?_⟩
        exact launched (longerJoined.trans (List.prefix_append _ _)) (standsJoined.quiet rfl)
      · exact launched longerJoined standsJoined

theorem redirection_release_meets {redirection : Redirection} {readFile writeFile : Option Nat}
    {readEntries writeEntries : DescriptorTable}
    (stands : Stands start trace (writeEntries ++ (readEntries ++ owned)) files births)
    (readHolds : redirection.input.Holds readFile readEntries)
    (writeHolds : redirection.output.Holds writeFile writeEntries)
    (room : (writeEntries ++ (readEntries ++ owned)).length ≤ 5) :
    redirection.release.Meets (launchContract start launcher stages)
      (fun later _ => Stands start later owned files births ∧ trace <+: later) trace := by
  have swapped : (writeEntries ++ (readEntries ++ owned)).Perm
      (readEntries ++ (writeEntries ++ owned)) := by
    rw [List.perm_iff_count]
    intro entry
    simp only [List.count_append]
    omega
  have roomThen : (writeEntries ++ owned).length ≤ 5 := by
    simp only [List.length_append] at room ⊢
    omega
  refine Program.meets_bind_of (release_meets _ stands readHolds swapped room) ?_
  rintro later _ ⟨standsLater, longer⟩
  refine Program.meets_mono ?_ (release_meets _ standsLater writeHolds (List.Perm.refl _) roomThen)
  rintro last _ ⟨standsLast, longest⟩
  exact ⟨standsLast, (longer.trans longest).longer⟩

structure Before (start : Holdings) (stages : List Stage) (index : Nat) (input : Endpoint)
    (trace : Trace) (entries : DescriptorTable) (births : List (Pid × Trace)) : Prop where
  stands : Stands start trace entries
    (start.files ++ Wiring.originsBefore start.files.length stages index) births
  holds : input.Holds (Wiring.pipeTo start.files.length stages index) entries
  bornBefore : ∀ birth ∈ births,
    (start.along birth.2).files.length ≤ Wiring.firstFile start.files.length stages index
  childCount : births.length = Wiring.externalsBefore stages index

theorem ready_of_opened {index : Nat} {input output next : Endpoint} {earlier : Trace}
    {redirection : Redirection}
    {inputEntries outputEntries nextEntries readEntries writeEntries : DescriptorTable}
    (before : Before start stages index input earlier inputEntries births)
    (grows : earlier.Grows trace)
    (outputHolds : output.Holds
      ((Wiring.filesAt start.files.length stages index).pipe.map (· + 1)) outputEntries)
    (nextHolds : next.Holds (Wiring.pipeTo start.files.length stages (index + 1)) nextEntries)
    (readHolds : redirection.input.Holds
      (Wiring.filesAt start.files.length stages index).input readEntries)
    (writeHolds : redirection.output.Holds
      (Wiring.filesAt start.files.length stages index).output writeEntries)
    (stands : Stands start trace
      (writeEntries ++ (readEntries ++ (outputEntries ++ (nextEntries ++ inputEntries))))
      (start.files ++ Wiring.originsBefore start.files.length stages (index + 1)) births) :
    Ready start stages index trace (redirection.input.orElse input)
      (redirection.output.orElse output) := by
  obtain ⟨chosenInput, chosenInputHolds, inputAmong⟩ := readHolds.or_else before.holds
  obtain ⟨chosenOutput, chosenOutputHolds, outputAmong⟩ := writeHolds.or_else outputHolds
  have sorted : (writeEntries ++ (readEntries ++
      (outputEntries ++ (nextEntries ++ inputEntries)))).Perm
      ((readEntries ++ inputEntries) ++ ((writeEntries ++ outputEntries) ++ nextEntries)) := by
    rw [List.perm_iff_count]
    intro entry
    simp only [List.count_append]
    omega
  have owns := (stands.perm sorted).owns
  refine ⟨stands.isShell, ⟨_, chosenInput, chosenOutput, owns, chosenInputHolds,
    chosenOutputHolds, ?_, ?_⟩, ?_, stands.files, ⟨earlier, grows, ?_⟩, ?_, ?_, ?_⟩
  · exact List.Subset.trans inputAmong (List.subset_append_left _ _)
  · exact List.Subset.trans outputAmong
      (List.Subset.trans (List.subset_append_left _ _) (List.subset_append_right _ _))
  · intro descriptor isInput isOutput
    rw [isInput] at chosenInputHolds
    rw [isOutput] at chosenOutputHolds
    obtain ⟨inputSlot, inputMember⟩ := chosenInputHolds.mem_of_owned
    obtain ⟨outputSlot, outputMember⟩ := chosenOutputHolds.mem_of_owned
    have distinct := owns.distinct
    rw [List.map_append, List.nodup_append] at distinct
    exact distinct.2.2 descriptor (List.mem_map_of_mem (inputAmong inputMember)) descriptor
      (List.mem_map_of_mem (List.mem_append_left _ (outputAmong outputMember))) rfl
  · rw [before.stands.files, List.length_append, Wiring.firstFile]
  · intro reader isReader
    rw [Wiring.pipeTo, isReader] at nextHolds
    cases nextHolds with
    | owned descriptor =>
        refine ⟨descriptor, owns.lookup_own ?_⟩
        exact List.mem_append_right _ (List.mem_append_right _ List.mem_cons_self)
  · rw [stands.births]
    exact before.bornBefore
  · rw [stands.births]
    exact before.childCount

theorem launch_stage_meets {index : Nat} {stage : Stage} {input output next : Endpoint}
    {earlier : Trace} {inputEntries outputEntries nextEntries : DescriptorTable}
    (group : Option Pid) (found : stages[index]? = some stage)
    (before : Before start stages index input earlier inputEntries births)
    (grows : earlier.Grows trace)
    (outputHolds : output.Holds
      ((Wiring.filesAt start.files.length stages index).pipe.map (· + 1)) outputEntries)
    (nextHolds : next.Holds (Wiring.pipeTo start.files.length stages (index + 1)) nextEntries)
    (stands : Stands start trace (outputEntries ++ (nextEntries ++ inputEntries)) files births)
    (opened : files = start.files ++ Wiring.originsBefore start.files.length stages index ++
      pipeOrigins (index + 1 == stages.length)
        (Wiring.firstFile start.files.length stages index)) :
    (launchStage launcher group stage input output).Meets (launchContract start launcher stages)
      (fun later result => trace <+: later ∧
        match result with
        | .error _ => ∃ opened,
            Stands start later (outputEntries ++ (nextEntries ++ inputEntries)) opened births
        | .ok launched => ∃ born,
            Stands start later (outputEntries ++ (nextEntries ++ inputEntries))
              (start.files ++ Wiring.originsBefore start.files.length stages (index + 1))
              (births ++ born) ∧
            Ran start launcher stages index stage later launched.run ∧
            born.map Prod.fst = launched.run.pid.toList ∧
            ∀ birth ∈ born, (start.along birth.2).files.length ≤
              Wiring.firstFile start.files.length stages (index + 1)) trace := by
  have few := before.holds.length_le
  have fewOut := outputHolds.length_le
  have fewNext := nextHolds.length_le
  unfold launchStage
  refine Program.meets_bind_of (open_for_meets stage stands ?_) ?_
  · simp only [List.length_append]
    omega
  rintro later (failure | redirection) ⟨growsLater, reached⟩
  · exact ⟨growsLater.longer, reached⟩
  have longer := growsLater.longer
  obtain ⟨readEntries, writeEntries, readHolds, writeHolds, standsOpen⟩ := reached
  have fewRead := readHolds.length_le
  have fewWrite := writeHolds.length_le
  have room : (writeEntries ++ (readEntries ++
      (outputEntries ++ (nextEntries ++ inputEntries)))).length ≤ 5 := by
    simp only [List.length_append]
    omega
  have count : files.length = Wiring.firstFile start.files.length stages index +
      (pipeOrigins (index + 1 == stages.length)
        (Wiring.firstFile start.files.length stages index)).length := by
    rw [opened, List.length_append, List.length_append, Wiring.firstFile]
  have allOpened : files ++ stage.redirected =
      start.files ++ Wiring.originsBefore start.files.length stages (index + 1) := by
    rw [opened, Wiring.origins_before_succ found]
    simp only [List.append_assoc]
  rw [allOpened] at standsOpen
  have ready : Ready start stages index later (redirection.input.orElse input)
      (redirection.output.orElse output) := by
    refine ready_of_opened before (grows.trans growsLater) outputHolds nextHolds ?_ ?_ standsOpen
    · rw [Wiring.files_at_of_found found, Stage.files, ← count]
      exact readHolds
    · rw [Wiring.files_at_of_found found, Stage.files, ← count]
      exact writeHolds
  refine Program.meets_bind_of (launch_on_meets group found ready standsOpen room) ?_
  rintro last (failure | launched) ⟨longest, reached⟩
  · refine Program.meets_bind_of
      (redirection_release_meets reached readHolds writeHolds room) ?_
    rintro final _ ⟨standsFinal, afterwards⟩
    exact ⟨longer.trans (longest.trans afterwards), _, standsFinal⟩
  · obtain ⟨born, standsLast, ran, pids, readyBirths⟩ := reached
    refine Program.meets_bind_of
      (redirection_release_meets standsLast readHolds writeHolds room) ?_
    rintro final _ ⟨standsFinal, afterwards⟩
    refine ⟨longer.trans (longest.trans afterwards), born, standsFinal, ran.extend afterwards,
      pids, fun birth member => Nat.le_of_eq ?_⟩
    rw [(readyBirths birth member).files, List.length_append, Wiring.firstFile]

/-- What holds when the launch of the stages from an index on has ended: nothing of the
job is held any more, the children are those of the stages, and without a failure every
file was opened and every stage was run. -/
structure Concluded (start : Holdings) (launcher : Launcher) (stages : List Stage) (index : Nat)
    (births : List (Pid × Trace)) (trace : Trace) (launch : Launch) : Prop where
  stands : ∃ opened born, Stands start trace [] opened (births ++ born) ∧
    born.map Prod.fst = launch.stages.filterMap StageRun.pid ∧
    (launch.failure = none →
      opened = start.files ++ Wiring.originsBefore start.files.length stages stages.length)
  ran : launch.failure = none → ∀ offset stage, stages[index + offset]? = some stage →
    ∃ run, launch.stages[offset]? = some run ∧
      Ran start launcher stages (index + offset) stage trace run

theorem pids_of_stages (left : List Stage) :
    (left.map StageRun.ofStage).filterMap StageRun.pid = [] := by
  rw [List.filterMap_eq_nil_iff]
  intro run member
  obtain ⟨stage, _, rfl⟩ := List.mem_map.mp member
  rfl

theorem Concluded.stopped {index : Nat} {opened : List Origin} (failure : ShellError)
    (group : Option Pid) (left : List Stage) (stands : Stands start trace [] opened births) :
    Concluded start launcher stages index births trace (.stopped (some failure) group left) := by
  refine ⟨⟨opened, [], by simpa using stands, (pids_of_stages left).symm, nofun⟩, nofun⟩

theorem Concluded.after {index : Nat} {stage : Stage} {born : List (Pid × Trace)} {later : Trace}
    {launched : Launched} {launch : Launch}
    (found : stages[index]? = some stage)
    (ran : Ran start launcher stages index stage trace launched.run) (longer : trace <+: later)
    (pids : born.map Prod.fst = launched.run.pid.toList)
    (concluded : Concluded start launcher stages (index + 1) (births ++ born) later launch) :
    Concluded start launcher stages index births later (launch.after launched) := by
  obtain ⟨opened, bornLater, stands, pidsLater, all⟩ := concluded.stands
  constructor
  · refine ⟨opened, born ++ bornLater, by simpa using stands, ?_, all⟩
    rw [List.map_append, pids, pidsLater, Launch.after, List.filterMap_cons]
    cases launched.run.pid <;> rfl
  · intro succeeded offset other foundOther
    cases offset with
    | zero =>
        have same : stage = other := by
          rw [Nat.add_zero, found] at foundOther
          exact Option.some.inj foundOther
        subst same
        exact ⟨launched.run, rfl, ran.extend longer⟩
    | succ offset =>
        have shifted : index + (offset + 1) = index + 1 + offset := by omega
        rw [shifted] at foundOther ⊢
        obtain ⟨run, foundRun, ranLater⟩ := concluded.ran succeeded offset other foundOther
        exact ⟨run, by simpa [Launch.after] using foundRun, ranLater⟩

theorem release_all_meets {α : Type} {goal : Trace → α → Prop} {final : Program α}
    {next output input : Endpoint} {nextFile outputFile inputFile : Option Nat}
    {nextEntries outputEntries inputEntries : DescriptorTable}
    (nextHolds : next.Holds nextFile nextEntries)
    (outputHolds : output.Holds outputFile outputEntries)
    (inputHolds : input.Holds inputFile inputEntries)
    (stands : Stands start trace (outputEntries ++ (nextEntries ++ inputEntries)) files births)
    (rest : ∀ later, Stands start later [] files births → trace <+: later →
      final.Meets (launchContract start launcher stages) goal later) :
    (next.release.bind fun _ => output.release.bind fun _ => input.release.bind fun _ =>
      final).Meets (launchContract start launcher stages) goal trace := by
  have few := inputHolds.length_le
  have fewOutput := outputHolds.length_le
  have fewNext := nextHolds.length_le
  have swapped : (outputEntries ++ (nextEntries ++ inputEntries)).Perm
      (nextEntries ++ (outputEntries ++ inputEntries)) := by
    rw [List.perm_iff_count]
    intro entry
    simp only [List.count_append]
    omega
  refine Program.meets_bind_of (release_meets _ stands nextHolds swapped ?_) ?_
  · simp only [List.length_append]
    omega
  rintro second _ ⟨standsSecond, longer⟩
  refine Program.meets_bind_of (release_meets _ standsSecond outputHolds (List.Perm.refl _) ?_) ?_
  · simp only [List.length_append]
    omega
  rintro third _ ⟨standsThird, longest⟩
  refine Program.meets_bind_of (release_meets [] standsThird inputHolds (by simp) (by omega)) ?_
  rintro last _ ⟨standsLast, afterwards⟩
  exact rest last standsLast (longer.trans (longest.trans afterwards)).longer

theorem launch_stages_meets (launcher : Launcher) (rest : List Stage) {index : Nat}
    {input : Endpoint}
    {entries : DescriptorTable} (group : Option Pid) (dropped : stages.drop index = rest)
    (size : index + rest.length = stages.length)
    (before : Before start stages index input trace entries births) :
    (launchStages launcher input group rest).Meets (launchContract start launcher stages)
      (fun later launch => trace <+: later ∧
        Concluded start launcher stages index births later launch) trace := by
  have few := before.holds.length_le
  -- The stages shrink while the index grows; where the shell stands between two stages is the
  -- invariant.
  induction rest generalizing index input entries group trace births with
  | nil =>
      refine Program.meets_bind_of
        (release_meets [] before.stands before.holds (by simp) (by omega)) ?_
      rintro later _ ⟨stands, grows⟩
      have longer := grows.longer
      have isEnd : index = stages.length := by simpa using size
      refine ⟨longer, ⟨_, [], by simpa using stands, rfl, fun _ => by rw [isEnd]⟩, ?_⟩
      intro _ offset stage found
      rw [List.getElem?_eq_none (by omega)] at found
      cases found
  | cons stage rest ih =>
      have found : stages[index]? = some stage := by
        rw [← List.head?_drop, dropped, List.head?_cons]
      have droppedNext : stages.drop (index + 1) = rest := by
        rw [← List.tail_drop, dropped, List.tail_cons]
      have sizeNext : index + 1 + rest.length = stages.length := by
        rw [← size, List.length_cons]
        omega
      have isLast : rest.isEmpty = (index + 1 == stages.length) := by
        rw [← sizeNext]
        cases rest <;> simp
      have count : (start.files ++ Wiring.originsBefore start.files.length stages index).length =
          Wiring.firstFile start.files.length stages index := List.length_append
      unfold launchStages
      refine Program.meets_bind_of (connect_meets rest.isEmpty before.stands (by omega)) ?_
      rw [isLast, count]
      rintro later (failure | ⟨output, next⟩) ⟨grows, reached⟩
      · refine Program.meets_bind_of
          (release_meets [] reached before.holds (by simp) (by omega)) ?_
        rintro last _ ⟨stands, growsLast⟩
        exact ⟨(grows.trans growsLast).longer, .stopped failure group (stage :: rest) stands⟩
      have longer := grows.longer
      obtain ⟨outputEntries, nextEntries, outputHolds, nextHolds, stands⟩ := reached
      have outputLeads : output.Holds
          ((Wiring.filesAt start.files.length stages index).pipe.map (· + 1)) outputEntries := by
        rw [Wiring.writer_at_of_found found]
        exact outputHolds
      have nextLeads : next.Holds (Wiring.pipeTo start.files.length stages (index + 1))
          nextEntries := by
        rw [Wiring.pipeTo, Wiring.pipe_at_of_found found]
        exact nextHolds
      have fewOutput := outputLeads.length_le
      have fewNext := nextLeads.length_le
      refine Program.meets_bind_of
        (launch_stage_meets group found before grows outputLeads nextLeads stands rfl) ?_
      rintro second (failure | launched) ⟨longerSecond, reached⟩
      · obtain ⟨opened, standsSecond⟩ := reached
        refine release_all_meets nextLeads outputLeads before.holds standsSecond
          fun last standsLast longest => ?_
        exact ⟨longer.trans (longerSecond.trans longest),
          .stopped failure group (stage :: rest) standsLast⟩
      · obtain ⟨born, standsSecond, ran, pids, bornBefore⟩ := reached
        have bornCount : born.length = if stage.kind.isExternal then 1 else 0 := by
          rw [← ran.pid_count, ← pids, List.length_map]
        refine Program.meets_bind_of
          (release_meets _ standsSecond outputLeads (List.Perm.refl _) ?_) ?_
        · simp only [List.length_append]
          omega
        rintro third _ ⟨standsThird, growsThird⟩
        refine Program.meets_bind_of
          (release_meets _ standsThird before.holds List.perm_append_comm ?_) ?_
        · simp only [List.length_append]
          omega
        rintro fourth _ ⟨standsFourth, growsFourth⟩
        have beforeNext : Before start stages (index + 1) next fourth nextEntries
            (births ++ born) := by
          refine ⟨standsFourth, nextLeads, fun birth member => ?_, ?_⟩
          · rcases List.mem_append.mp member with isOld | isNew
            · exact Nat.le_trans (before.bornBefore birth isOld) (Wiring.first_file_le_succ _ _ _)
            · exact bornBefore birth isNew
          · rw [List.length_append, before.childCount, bornCount,
              Wiring.externals_before_succ found]
        refine Program.meets_bind_of (ih launched.group droppedNext sizeNext beforeNext fewNext) ?_
        rintro last launch ⟨longerLast, concluded⟩
        have toEnd := growsThird.longer.trans (growsFourth.longer.trans longerLast)
        exact ⟨longer.trans (longerSecond.trans toEnd), concluded.after found ran toEnd pids⟩

end

end JobShell
