import JobShell.Proofs.Launch.Printing
import JobShell.Proofs.Shell.Background
import JobShell.Proofs.Shell.Remembered

/-!
# The numbers of a listing

The history is listed when the line that lists it has been recorded, and a line is replayed
before it is recorded itself. Nothing is recorded between the two, so a number means the same
entry in both.
-/

namespace JobShell

open Unix

set_option autoImplicit false

def History.listing (history : History) : String :=
  String.join ((List.range' 1 history.length).map fun number =>
    Text.padLeft 2 (toString number) ++ "  " ++ (history.get? number).getD "" ++ "\n")

namespace Builtin

theorem listing_of_entries (history : History) :
    String.join (history.entries.zipIdx.map fun (line, index) => recordLine (index + 1) line) =
      history.listing := by
  refine congrArg String.join (List.ext_getElem (by simp [History.length]) ?_)
  intro index isEntry isNumber
  have within : index < history.entries.length := by simpa using isEntry
  have numbered : 1 + index = index + 1 := Nat.add_comm 1 index
  simp [recordLine, numbered, History.get?, within]

theorem record_returns {shell : Shell} {arguments : List String} {output error : Descriptor}
    {own : Trace} {result : Result}
    (returns : (Builtin.record.invoke Shell.host shell.view arguments output error).Returns own
      result)
    (succeeds : result.outcome = .handled) :
    own.sent output = shell.history.listing.toUTF8 ∧
      ∀ exchange ∈ own, exchange.request.writesTo output = true := by
  have prints : ((Response.print "record" shell.history.listing).carryOut Shell.host output
      error).Returns own result := by
    rw [← listing_of_entries]
    exact returns
  exact print_returns prints succeeds

theorem Outcome.handled_of_exit_code {outcome : Outcome} (succeeds : outcome.exitCode = 0) :
    outcome = .handled := by
  cases outcome with
  | handled => rfl
  | failed => cases succeeds

end Builtin

theorem Turn.Launches.record_lists {turn : Turn} {job : Job} {trace : Trace} {launch : Launch}
    {index : Nat} {run : StageRun} (launches : turn.Launches job trace launch)
    (happens : turn.Happens) (found : launch.stages[index]? = some run)
    (isRecord : run.stage.kind = .builtin .record) (written : run.state = .done 0) :
    ∃ before opening own after output result, trace = before ++ opening ++ own ++ after ∧
      BuiltinRuns ((turn.recorded.launcher turn.context).forJob job) run.stage
        (decide (index + 1 = job.stages.length)) .record opening own output result ∧
      (∀ exchange ∈ own, exchange.request.writesTo output = true) ∧
      own.sent output = turn.after.history.listing.toUTF8 := by
  have settled : run.state ≠ .running := by simp [written]
  obtain ⟨before, opening, own, after, output, result, isTrace, runs, state⟩ :=
    launch_ran_builtin launches.returns found isRecord settled
  have succeeds : result.outcome.exitCode = 0 := by
    rw [written] at state
    exact (StageState.done.inj state).symm
  obtain ⟨input, returns⟩ := runs.returns
  have listed := Builtin.record_returns returns (Builtin.Outcome.handled_of_exit_code succeeds)
  rw [Turn.recorded_history, ← happens.history_eq] at listed
  exact ⟨before, opening, own, after, output, result, isTrace, runs, listed.2, listed.1⟩

/-- A builtin that lists the history in a turn, and does not fail, writes the history that the
turn leaves, each entry behind its number. In the shell after the turn these numbers replay
these entries, whatever the replaying line pushes out when it is recorded, and other numbers
replay nothing. The size of the history is a machine word, as all sizes in settings are. -/
theorem listed_numbers_replay {settings : Settings} {pid : Pid} {user : String}
    {home : Option String} {directory : String} {turns : List Turn} {turn : Turn} {job : Job}
    {trace : Trace} {launch : Launch} {index : Nat} {run : StageRun}
    (sized : settings.historySize ≤ Text.Decimal.wordBound)
    (evaluated : (Shell.new settings pid user home directory).Evaluated turns turn.before)
    (happens : turn.Happens) (launches : turn.Launches job trace launch)
    (found : launch.stages[index]? = some run) (isRecord : run.stage.kind = .builtin .record)
    (written : run.state = .done 0) :
    (∃ before opening own after output result, trace = before ++ opening ++ own ++ after ∧
      BuiltinRuns ((turn.recorded.launcher turn.context).forJob job) run.stage
        (decide (index + 1 = job.stages.length)) .record opening own output result ∧
      (∀ exchange ∈ own, exchange.request.writesTo output = true) ∧
      own.sent output = turn.after.history.listing.toUTF8) ∧
    (∀ number, 1 ≤ number → number ≤ turn.after.history.length →
      ∃ entry, turn.after.history.get? number = some entry ∧
        (∀ context, turn.after.evaluate context ("replay " ++ toString number) =
          turn.after.perform context entry) ∧
        ∀ next : Turn, next.before = turn.after → next.input = "replay " ++ toString number →
          next.Happens → next.text = entry ∧ next.after.history.entries.getLast? = some entry) ∧
    ∀ number, turn.after.history.length < number →
      turn.after.history.substitute ("replay " ++ toString number) =
        "replay " ++ toString number := by
  refine ⟨launches.record_lists happens found isRecord written, ?_, ?_⟩
  · intro number positive within
    have whole := evaluated.turn happens
    have capacity : turn.after.history.capacity = settings.historySize := whole.history_capacity
    have fits : number ≤ Text.Decimal.wordBound := by
      have bounded := turn.after.history.fits
      simp only [History.length] at within
      omega
    obtain ⟨entry, named, _⟩ := History.get_of_within positive within
    have replaced := History.substitute_number fits named
    have isEntry := History.mem_of_get named
    have visible := whole.entries_visible entry isEntry
    refine ⟨entry, named, fun context => ?_, fun next isNext input again => ?_⟩
    · rw [Shell.evaluate_eq_perform, replaced]
    · have isText : next.text = entry := by rw [Turn.text, isNext, input, replaced]
      refine ⟨isText, ?_⟩
      rw [again.history_eq, isText, isNext]
      exact History.last_of_record visible (History.capable_of_mem isEntry)
  · intro number beyond
    rw [← History.index_line_of_number]
    apply History.substitute_missing (Text.Decimal.to_string_is_numeral number)
    rw [Text.Decimal.value_of_to_string]
    exact History.get_of_beyond (.inr beyond)

def recordStage : Stage :=
  ⟨"record", ["record"], none, none⟩

def recordTurn : Turn where
  before := fullShell
  context := twoLineShell.context false
  input := "record"
  calls := [⟨.write 1 " 1  cat <\n 2  record\n".toUTF8, .ok 21⟩]
  after := fullShell.remember "record"
  outcome := .ok (some (.done 0))

def recordLaunch : Launch :=
  ⟨none, none, [⟨recordStage, none, .done 0⟩], none⟩

theorem record_turn_launches :
    recordTurn.Launches ⟨"record", .foreground, [recordStage]⟩ recordTurn.calls recordLaunch where
  reads := by decide
  begins := List.prefix_refl _
  returns := .step (.stop _)

theorem record_turn_happens : recordTurn.Happens :=
  .step (.stop _)

theorem listed_numbers_replay_two :
    recordTurn.after.history.entries = ["cat <", "record"] ∧
      recordTurn.after.history.listing = " 1  cat <\n 2  record\n" ∧
      ∀ context, recordTurn.after.evaluate context "replay 1" =
        recordTurn.after.perform context "cat <" := by
  have evaluates : twoLineShell.Evaluated quietTurns recordTurn.before := quiet_turns_evaluate
  have found : recordLaunch.stages[0]? = some ⟨recordStage, none, .done 0⟩ := rfl
  have listed := listed_numbers_replay (by decide) evaluates record_turn_happens
    record_turn_launches found (by decide) rfl
  obtain ⟨entry, named, replays, _⟩ := listed.2.1 1 (by decide) (by decide)
  have isEntry : entry = "cat <" := by
    have first : recordTurn.after.history.get? 1 = some "cat <" := by decide
    rw [first] at named
    exact (Option.some.inj named).symm
  refine ⟨by decide, by decide, fun context => ?_⟩
  rw [← isEntry]
  exact replays context

end JobShell
