import JobShell.Proofs.Job.Slots
import JobShell.Proofs.Launch.Settle
import JobShell.Proofs.Launch.Trace
import JobShell.Proofs.Line.Meaning
import JobShell.Proofs.Shell.Turn

/-!
# Background jobs over the turns of a shell

The table of a shell holds the background jobs in the order of their turns, as far as it has
slots for them. What happens to the job does not matter: it takes its slot before it is
launched and keeps it when the launch fails.
-/

namespace JobShell

open Unix

set_option autoImplicit false

/-- What a turn adds to the table: a line that was read as a background job, and the first
child that was forked in the turn. -/
def Turn.entry? (turn : Turn) : Option JobEntry :=
  match Line.parse turn.text with
  | .ok (some job) =>
    match job.mode with
    | .background => some ⟨turn.text, turn.calls.children.head?⟩
    | .foreground => none
  | _ => none

namespace Turn

variable {turn : Turn} {job : Job}

structure Launches (turn : Turn) (job : Job) (trace : Trace) (launch : Launch) : Prop where
  reads : Line.parse turn.text = .ok (some job)
  begins : trace <+: turn.calls
  returns : (launchStages ((turn.recorded.launcher turn.context).forJob job) .inherited none
    job.stages).Returns trace launch

theorem Happens.launches (happens : turn.Happens)
    (reads : Line.parse turn.text = .ok (some job)) :
    ∃ trace launch, turn.Launches job trace launch ∧
      turn.calls.children = launch.stages.filterMap StageRun.pid ∧
      turn.after.jobs =
        recordGroup (takeSlot job turn.before.jobs).2 (takeSlot job turn.before.jobs).1
          launch.group := by
  cases happens.course with
  | refused otherwise quiet left ends => simp [reads] at otherwise
  | idle otherwise quiet left ends => simp [reads] at otherwise
  | @ran other result again returns left ends =>
      have same : other = job := by simpa [reads] using again.symm
      subst same
      obtain ⟨launching, settling, launch, made, launches, settles⟩ := run_job_returns returns
      obtain ⟨table, noChild⟩ := settle_job_returns settles
      have begins : launching <+: turn.calls := ⟨settling, made.symm⟩
      refine ⟨launching, launch, ⟨reads, begins, launches⟩, ?_, ?_⟩
      · rw [made, Trace.children_append, noChild, List.append_nil, launch_children launches]
      · rw [left, Shell.after_job_jobs, table, recorded_jobs]

theorem Happens.jobs_of_job (happens : turn.Happens)
    (reads : Line.parse turn.text = .ok (some job)) :
    turn.after.jobs =
      recordGroup (takeSlot job turn.before.jobs).2 (takeSlot job turn.before.jobs).1
        turn.calls.children.head? := by
  obtain ⟨trace, launch, launches, children, jobs⟩ := happens.launches reads
  have group : launch.group = none.or trace.children.head? := launch_group launches.returns
  rw [jobs, group, children, launch_children launches.returns, Option.none_or]

theorem Happens.jobs_of_foreground (happens : turn.Happens)
    (foreground : ∀ job, Line.parse turn.text = .ok (some job) → job.mode = .foreground) :
    turn.after.jobs = turn.before.jobs := by
  cases happens.course with
  | refused reads quiet left ends => rw [left, recorded_jobs]
  | idle reads quiet left ends => rw [left, recorded_jobs]
  | ran reads returns left ends =>
      rw [happens.jobs_of_job reads, takeSlot, foreground _ reads]
      rfl

theorem Happens.jobs_filled (happens : turn.Happens) {capacity : Nat} {entries : List JobEntry}
    (held : turn.before.jobs = .filled capacity entries) :
    turn.after.jobs = .filled capacity (entries ++ turn.entry?.toList) := by
  by_cases foreground : ∀ job, Line.parse turn.text = .ok (some job) → job.mode = .foreground
  · have noEntry : turn.entry? = none := by
      unfold entry?
      split
      · rename_i job reads
        simp [foreground job reads]
      · rfl
    rw [happens.jobs_of_foreground foreground, noEntry, held]
    simp
  · push Not at foreground
    obtain ⟨job, reads, notForeground⟩ := foreground
    have inBackground : job.mode = .background := by
      cases mode : job.mode with
      | foreground => exact absurd mode notForeground
      | background => rfl
    have isEntry : turn.entry? = some ⟨turn.text, turn.calls.children.head?⟩ := by
      unfold entry?
      simp only [reads, inBackground]
    rw [happens.jobs_of_job reads, held, record_group_filled inBackground,
      Line.parse_job_text reads, isEntry]
    rfl

end Turn

theorem Shell.Evaluated.jobs_filled {start final : Shell} {turns : List Turn} {capacity : Nat}
    {entries : List JobEntry} (evaluated : start.Evaluated turns final)
    (held : start.jobs = .filled capacity entries) :
    final.jobs = .filled capacity (entries ++ turns.filterMap Turn.entry?) := by
  induction evaluated with
  | start => simpa using held
  | @turn turns last earlier happens ih =>
      rw [happens.jobs_filled ih]
      cases isEntry : last.entry? <;> simp [isEntry]

/-- After any turns of a new shell, the first slots hold the lines of the background jobs in
their order, each with the first child forked for it, and all other slots are free. An entry
stays as its own turn has left it, and other lines leave the table alone. The children of a
turn are the processes of the stages of its job, in their order. -/
theorem background_jobs_keep_slots {settings : Settings} {pid : Pid} {user : String}
    {home : Option String} {directory : String} {turns : List Turn} {final : Shell}
    (evaluated : (Shell.new settings pid user home directory).Evaluated turns final) :
    final.jobs.capacity = settings.maxJobs ∧
    (∀ slot, (final.jobs.get? slot).isSome = true ↔
      1 ≤ slot ∧ slot ≤ min settings.maxJobs (turns.filterMap Turn.entry?).length) ∧
    (∀ index entry, index < settings.maxJobs →
      (turns.filterMap Turn.entry?)[index]? = some entry →
        final.jobs.get? (index + 1) = some entry) ∧
    (∀ turn ∈ turns, ∀ slot entry, turn.after.jobs.get? slot = some entry →
      final.jobs.get? slot = some entry) ∧
    (∀ turn ∈ turns,
      (∀ job, Line.parse turn.text = .ok (some job) → job.mode = .foreground) →
        turn.after.jobs = turn.before.jobs) ∧
    ∀ turn ∈ turns, ∀ job, Line.parse turn.text = .ok (some job) →
      ∃ trace launch, turn.Launches job trace launch ∧
        turn.calls.children = launch.stages.filterMap StageRun.pid := by
  have empty : (Shell.new settings pid user home directory).jobs =
      .filled settings.maxJobs [] := (JobTable.filled_nil settings.maxJobs).symm
  have whole := evaluated.jobs_filled empty
  rw [List.nil_append] at whole
  refine ⟨?_, ?_, ?_, ?_, ?_, ?_⟩
  · rw [whole, JobTable.capacity_filled]
  · intro slot
    rw [whole]
    cases slot with
    | zero => simp [JobTable.get?]
    | succ index =>
        rw [JobTable.get_filled]
        by_cases isSlot : index < settings.maxJobs
        · rw [if_pos isSlot, Option.isSome_iff_ne_none, ne_eq, List.getElem?_eq_none_iff]
          omega
        · rw [if_neg isSlot]
          simp
          omega
  · intro index entry isSlot isEntry
    rw [whole, JobTable.get_filled, if_pos isSlot, isEntry]
  · intro turn member slot entry held
    obtain ⟨earlier, later, rfl, before, happens, after⟩ := evaluated.of_mem member
    have here := happens.jobs_filled (before.jobs_filled empty)
    have there := after.jobs_filled here
    rw [here] at held
    rw [there]
    exact JobTable.get_filled_append held
  · intro turn member foreground
    obtain ⟨_, _, _, _, happens, _⟩ := evaluated.of_mem member
    exact happens.jobs_of_foreground foreground
  · intro turn member job reads
    obtain ⟨_, _, _, _, happens, _⟩ := evaluated.of_mem member
    obtain ⟨trace, launch, launches, children, _⟩ := happens.launches reads
    exact ⟨trace, launch, launches, children⟩

def oneSlotShell : Shell :=
  .new { Settings.default with maxJobs := 1 } 100 "user" none "/"

def failingTurn : Turn where
  before := oneSlotShell
  context := oneSlotShell.context false
  input := "wc < gone &"
  calls := [⟨.openFile "gone" .reading, .error .noEntry⟩]
  after :=
    { oneSlotShell.remember "wc < gone &" with jobs := ⟨[some ⟨"wc < gone &", none⟩]⟩ }
  outcome := .error (.redirect "gone" (.refused .noEntry))

def unregisteredTurn : Turn where
  before := failingTurn.after
  context := oneSlotShell.context false
  input := "cat &"
  calls :=
    [⟨.flushOutput, .ok ()⟩, ⟨.fork, .ok (some 200)⟩, ⟨.joinGroup 200 200, .ok ()⟩,
      ⟨.write 1 "200\n".toUTF8, .ok 4⟩]
  after := failingTurn.after.remember "cat &"
  outcome := .ok (some .running)

theorem one_slot_evaluates :
    oneSlotShell.Evaluated [failingTurn, unregisteredTurn] unregisteredTurn.after := by
  have fails : failingTurn.Happens := .step (.stop _)
  have runs : unregisteredTurn.Happens := .step (.step (.step (.step (.stop _))))
  exact (Shell.Evaluated.start.turn fails).turn runs

theorem background_jobs_keep_slots_of_one :
    oneSlotShell.Evaluated [failingTurn, unregisteredTurn] unregisteredTurn.after ∧
      [failingTurn, unregisteredTurn].filterMap Turn.entry? =
        [⟨"wc < gone &", none⟩, ⟨"cat &", some 200⟩] ∧
      unregisteredTurn.after.jobs.get? 1 = some ⟨"wc < gone &", none⟩ := by
  have kept := background_jobs_keep_slots one_slot_evaluates
  have entries : [failingTurn, unregisteredTurn].filterMap Turn.entry? =
      [⟨"wc < gone &", none⟩, ⟨"cat &", some 200⟩] := by decide
  refine ⟨one_slot_evaluates, entries, kept.2.2.1 0 _ (by decide) ?_⟩
  rw [entries]
  rfl

end JobShell
