import JobShell.Proofs.Launch.Settle
import JobShell.Shell.Basic

/-!
# The turns of a shell

A turn is the evaluation of one entered line. The calls of a turn are all that the system
decides about it, so what holds of every turn holds whatever the system replies. A shell
that has evaluated lines has taken one turn after the other, each from the state in which
the turn before has left it.
-/

namespace JobShell

open Unix

set_option autoImplicit false

@[simp]
theorem Shell.remember_history (shell : Shell) (line : String) :
    (shell.remember line).history = shell.history.record line :=
  rfl

@[simp]
theorem Shell.remember_jobs (shell : Shell) (line : String) :
    (shell.remember line).jobs = shell.jobs := by
  rw [Shell.remember]

@[simp]
theorem Shell.after_job_history (shell : Shell) (result : JobResult) :
    (shell.afterJob result).history = shell.history := by
  rw [Shell.afterJob]

@[simp]
theorem Shell.after_job_jobs (shell : Shell) (result : JobResult) :
    (shell.afterJob result).jobs = result.table :=
  rfl

def Shell.perform (shell : Shell) (context : Context) (line : String) :
    Program (Shell × Except ShellError (Option StageState)) := do
  let shell := shell.remember line
  match Line.parse line with
  | .error fault => return (shell, .error (.ofMissingPath fault))
  | .ok none => return (shell, .ok none)
  | .ok (some job) =>
    let (shell, result) ← shell.launch context job
    return (shell, result.outcome.map some)

theorem Shell.evaluate_eq_perform (shell : Shell) (context : Context) (input : String) :
    shell.evaluate context input = shell.perform context (shell.history.substitute input) := by
  unfold Shell.evaluate Shell.perform
  rfl

theorem Shell.perform_of_builtin {shell : Shell} {context : Context} {line : String}
    {stage : Stage} {command : Builtin}
    (reads : Line.parse line = .ok (some ⟨line, .foreground, [stage]⟩))
    (kind : stage.kind = .builtin command) (noInput : stage.input = none)
    (noOutput : stage.output = none) :
    shell.perform context line =
      (command.invoke Shell.host (shell.remember line).view stage.arguments standardOutput
        context.error.toNat).bind fun result =>
          .done ({ shell.remember line with directory := result.directory.getD shell.directory },
            .ok (some (.done result.outcome.exitCode))) := by
  unfold Shell.perform
  simp only [reads, Shell.launch, run_job_of_builtin kind noInput noOutput]
  change ((Program.bind (Program.bind _ _) _).bind _) = _
  rw [Program.bind_assoc, Program.bind_assoc]
  rfl

structure Turn where
  before : Shell
  context : Context
  input : String
  calls : Trace
  after : Shell
  outcome : Except ShellError (Option StageState)

namespace Turn

variable {turn : Turn}

def text (turn : Turn) : String :=
  turn.before.history.substitute turn.input

def recorded (turn : Turn) : Shell :=
  turn.before.remember turn.text

@[simp]
theorem recorded_history : turn.recorded.history = turn.before.history.record turn.text :=
  Shell.remember_history _ _

@[simp]
theorem recorded_jobs : turn.recorded.jobs = turn.before.jobs :=
  Shell.remember_jobs _ _

/-- The shell evaluates the line with the calls of the turn and ends as the turn says. -/
def Happens (turn : Turn) : Prop :=
  (turn.before.evaluate turn.context turn.input).Returns turn.calls (turn.after, turn.outcome)

/-- What a turn can be: a line that cannot be read, a line without a job, or a job. -/
inductive Course (turn : Turn) : Prop where
  | refused {fault : Line.MissingPath} (reads : Line.parse turn.text = .error fault)
      (quiet : turn.calls = []) (left : turn.after = turn.recorded)
      (ends : turn.outcome = .error (.ofMissingPath fault))
  | idle (reads : Line.parse turn.text = .ok none) (quiet : turn.calls = [])
      (left : turn.after = turn.recorded) (ends : turn.outcome = .ok none)
  | ran {job : Job} {result : JobResult} (reads : Line.parse turn.text = .ok (some job))
      (returns : (runJob (turn.recorded.launcher turn.context) turn.recorded.jobs job).Returns
        turn.calls result)
      (left : turn.after = turn.recorded.afterJob result)
      (ends : turn.outcome = result.outcome.map some)

theorem Happens.course (happens : turn.Happens) : turn.Course := by
  have returns : (turn.before.perform turn.context turn.text).Returns turn.calls
      (turn.after, turn.outcome) := happens
  unfold Shell.perform at returns
  cases reads : Line.parse turn.text with
  | error fault =>
      rw [reads] at returns
      obtain ⟨quiet, same⟩ := Program.returns_done_iff.mp returns
      obtain ⟨left, ends⟩ := Prod.mk.inj same
      exact .refused reads quiet left ends
  | ok found =>
      cases found with
      | none =>
          rw [reads] at returns
          obtain ⟨quiet, same⟩ := Program.returns_done_iff.mp returns
          obtain ⟨left, ends⟩ := Prod.mk.inj same
          exact .idle reads quiet left ends
      | some job =>
          rw [reads] at returns
          obtain ⟨launching, last, launched, made, launches, ended⟩ :=
            Program.returns_bind_iff.mp returns
          obtain ⟨running, final, result, rfl, runs, answered⟩ :=
            Program.returns_bind_iff.mp launches
          obtain ⟨rfl, rfl⟩ := Program.returns_done_iff.mp answered
          obtain ⟨rfl, same⟩ := Program.returns_done_iff.mp ended
          obtain ⟨left, ends⟩ := Prod.mk.inj same
          rw [List.append_nil, List.append_nil] at made
          exact .ran reads (made ▸ runs) left ends

theorem Happens.history_eq (happens : turn.Happens) :
    turn.after.history = turn.before.history.record turn.text := by
  cases happens.course with
  | refused reads quiet left ends => rw [left, recorded_history]
  | idle reads quiet left ends => rw [left, recorded_history]
  | ran reads returns left ends => rw [left, Shell.after_job_history, recorded_history]

end Turn

namespace Shell

inductive Evaluated (start : Shell) : List Turn → Shell → Prop where
  | start : Evaluated start [] start
  | turn {turns : List Turn} {turn : Turn} (earlier : Evaluated start turns turn.before)
      (happens : turn.Happens) : Evaluated start (turns ++ [turn]) turn.after

theorem Evaluated.cons {turn : Turn} {turns : List Turn} {final : Shell} (happens : turn.Happens)
    (later : Evaluated turn.after turns final) : Evaluated turn.before (turn :: turns) final := by
  induction later with
  | start => exact .turn .start happens
  | turn _ happened ih => exact .turn ih happened

theorem Evaluated.of_mem {start final : Shell} {turns : List Turn} {turn : Turn}
    (evaluated : Evaluated start turns final) (member : turn ∈ turns) :
    ∃ earlier later, turns = earlier ++ turn :: later ∧ Evaluated start earlier turn.before ∧
      turn.Happens ∧ Evaluated turn.after later final := by
  induction evaluated with
  | start => simp at member
  | @turn turns last evaluated happens ih =>
      rw [List.mem_append, List.mem_singleton] at member
      rcases member with isEarlier | rfl
      · obtain ⟨earlier, later, rfl, before, happened, after⟩ := ih isEarlier
        exact ⟨earlier, later ++ [last], by simp, before, happened, after.turn happens⟩
      · exact ⟨turns, [], rfl, evaluated, happens, .start⟩

end Shell

end JobShell
