import JobShell.Proofs.Launch.Stages
import JobShell.Shell.Basic

/-!
# The shell's descriptors over a launch

Whatever fails on the way, a launch leaves the shell with the descriptors that it had
before, has closed every file that it opened exactly once and nothing else, and never
holds more than five files of the job at a time.
-/

namespace JobShell

open Unix

set_option autoImplicit false

section

variable {start : Holdings} {launcher : Launcher} {stages : List Stage}

theorem launch_contract_admits {before trace : Trace}
    (admitted : (start.along before).Admits trace) :
    (launchContract start launcher stages).Admits before trace := by
  induction trace generalizing before with
  | nil => exact trivial
  | cons exchange trace ih =>
      obtain ⟨expected, admittedLater⟩ := admitted
      refine ⟨expected, ih ?_⟩
      rw [Holdings.along_snoc]
      exact admittedLater

theorem before_first (start : Holdings) (stages : List Stage) :
    Before start stages 0 .inherited [] [] [] := by
  refine ⟨⟨Owns.nothing start, rfl, ?_, rfl⟩, .inherited, by simp, rfl⟩
  rw [Wiring.originsBefore, List.append_nil]
  rfl

/-- The launch of a job keeps to its contract at every moment of every process that
comes of it. -/
theorem launch_meets_along {group : Option Pid} {trace : Trace} {rest : Program Launch}
    (follows : (launchStages launcher .inherited group stages).Follows trace rest)
    (admitted : start.Admits trace) :
    rest.Meets (launchContract start launcher stages)
      (fun later launch => Concluded start launcher stages 0 [] later launch) trace := by
  have meets := launch_stages_meets launcher stages group List.drop_zero
    (Nat.zero_add _) (before_first start stages)
  have met := (Program.meets_mono (fun later launch reached => reached.2) meets).along follows
    (launch_contract_admits admitted)
  simpa using met

theorem owns_along {group : Option Pid} {trace : Trace} {rest : Program Launch}
    (follows : (launchStages launcher .inherited group stages).Follows trace rest)
    (admitted : start.Admits trace) (isShell : trace.inChild = false) :
    ∃ owned, Owns start trace owned ∧ owned.length ≤ 5 := by
  have met := launch_meets_along follows admitted
  cases rest with
  | done launch =>
      obtain ⟨opened, born, stands, _⟩ := met.stands
      exact ⟨[], stands.owns, by simp⟩
  | call request next =>
      have permitted := met.1
      simp only [launchContract, isShell, Bool.false_eq_true, ↓reduceIte] at permitted
      exact permitted.2

/-- For every job and every reply of the system, at every moment of its launch: the shell
holds what it held before under at most five files that it opened for the job, and its
closes have let go only such files, none of them twice. When the launch has returned,
with or without a failure, it holds exactly what it held before and each of those files
has been let go by exactly one close. -/
theorem launch_restores_descriptors {group : Option Pid} {trace : Trace} {rest : Program Launch}
    (follows : (launchStages launcher .inherited group stages).Follows trace rest)
    (admitted : start.Admits trace) (isShell : trace.inChild = false) :
    (∃ own : DescriptorTable, (start.along trace).table = own ++ start.table ∧ own.length ≤ 5 ∧
      ∀ entry ∈ own, entry.2.file ∈ start.opened trace) ∧
    (start.closed trace).Nodup ∧
    (∀ file ∈ start.closed trace, ∃ number ∈ start.opened trace, file = some number) ∧
    ∀ launch, rest = .done launch →
      (start.along trace).table = start.table ∧
        (start.closed trace).Perm ((start.opened trace).map some) := by
  obtain ⟨owned, owns, few⟩ := owns_along follows admitted isShell
  refine ⟨?_, owns.closed_nodup, fun file member => owns.mem_closed member, ?_⟩
  · obtain ⟨own, permuted, table⟩ := owns.table
    refine ⟨own, table, by rw [permuted.length_eq]; exact few, fun entry member => ?_⟩
    exact owns.mem_opened (permuted.mem_iff.mp member)
  · rintro launch rfl
    obtain ⟨opened, born, stands, _⟩ := (launch_meets_along follows admitted).stands
    obtain ⟨own, permuted, table⟩ := stands.owns.table
    rw [permuted.eq_nil] at table
    exact ⟨table, by simpa using stands.owns.accounted⟩

end

def Unix.Holdings.standard : Holdings where
  files := [.earlier, .earlier, .earlier]
  table := [(0, ⟨0, false⟩), (1, ⟨1, false⟩), (2, ⟨2, false⟩)]

theorem Unix.Holdings.standard_known : Holdings.standard.Known := by
  unfold Holdings.Known
  decide

theorem Unix.Holdings.standard_has_standard : Holdings.standard.HasStandard := by
  intro descriptor small
  match descriptor, small with
  | 0, _ => exact ⟨0, rfl⟩
  | 1, _ => exact ⟨1, rfl⟩
  | 2, _ => exact ⟨2, rfl⟩

def missingFileStages : List Stage :=
  [⟨"cat < gone", ["cat"], some "gone", none⟩, ⟨"wc", ["wc"], none, none⟩]

def plainShell : Shell :=
  .new .default 100 "user" none "/"

def plainLauncher : Launcher :=
  plainShell.launcher (plainShell.context false)

def missingFileTrace : Trace :=
  [⟨.pipe, .ok (3, 4)⟩, ⟨.openFile "gone" .reading, .error .noEntry⟩,
    ⟨.close 3, .ok ()⟩, ⟨.close 4, .ok ()⟩]

theorem launch_restores_descriptors_missing_file :
    (∃ launch, (launchStages plainLauncher .inherited none
        missingFileStages).Returns missingFileTrace launch) ∧
      Holdings.standard.Admits missingFileTrace ∧
      (Holdings.standard.along missingFileTrace).table = Holdings.standard.table ∧
      (Holdings.standard.closed missingFileTrace).Perm [some 3, some 4] := by
  have returns : (launchStages plainLauncher .inherited none
      missingFileStages).Returns missingFileTrace
      (.stopped (some (.redirect "gone" (.refused .noEntry))) none missingFileStages) :=
    .step (.step (.step (.step (.stop _))))
  have admitted : Holdings.standard.Admits missingFileTrace :=
    ⟨⟨rfl, rfl, by decide⟩, trivial, trivial, trivial, trivial⟩
  obtain ⟨table, closed⟩ := (launch_restores_descriptors returns admitted rfl).2.2.2 _ rfl
  exact ⟨⟨_, returns⟩, admitted, table, closed⟩

end JobShell
