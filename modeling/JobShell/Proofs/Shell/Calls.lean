import JobShell.Proofs.Launch.Failure
import JobShell.Proofs.Shell.Turn

/-!
# The calls of a turn

A turn makes few kinds of calls: those that launch stages, those of the builtins and those
that settle a job. What none of these does is done on no line that a shell evaluates.
-/

namespace JobShell

open Unix

set_option autoImplicit false

def Unix.Call.launches : Call → Bool
  | .pipe | .openFile _ _ | .close _ | .flushOutput | .fork | .joinGroup _ _
  | .giveTerminal _ => true
  | _ => false

def Unix.Call.awaits : Call → Bool
  | .wait _ _ | .pause => true
  | _ => false

def Unix.Call.isOfBuiltin : Call → Bool
  | .write _ _ | .exit _ | .processes | .changeDirectory _ | .currentDirectory => true
  | _ => false

def Unix.Call.isOfTurn (call : Call) : Bool :=
  call.launches || call.isOfBuiltin || call.awaits

theorem Unix.Call.not_reading_of_turn {call : Call} (ofTurn : call.isOfTurn = true)
    (source : Descriptor) (limit : Nat) : call ≠ .read source limit := by
  rintro rfl
  cases ofTurn

namespace Builtin

theorem complain_on_calls (error : Descriptor) (message : String) :
    (complainOn error message).OnlyCalls Call.isOfBuiltin := by
  refine Program.only_calls_bind ?_ fun _ => trivial
  exact Program.only_calls_bind (Program.write_from_only_calls (fun _ => rfl) _ _) fun _ => trivial

theorem enter_calls (directory : String) :
    (Shell.host.enter directory).OnlyCalls Call.isOfBuiltin := by
  change (Shell.enter directory).OnlyCalls Call.isOfBuiltin
  unfold Shell.enter
  split
  · exact trivial
  · refine ⟨rfl, fun changed => ?_⟩
    cases changed with
    | error errno => exact trivial
    | ok =>
        refine ⟨rfl, fun found => ?_⟩
        cases found <;> exact trivial

theorem carry_out_calls (response : Response) (output error : Descriptor) :
    (response.carryOut Shell.host output error).OnlyCalls Call.isOfBuiltin := by
  cases response with
  | print label text =>
      refine Program.only_calls_bind (Program.write_from_only_calls (fun _ => rfl) _ _)
        fun written => ?_
      cases written with
      | ok => exact trivial
      | error errno => exact complain_on_calls error _
  | complain message => exact complain_on_calls error message
  | leave => exact ⟨rfl, fun never => nomatch never⟩
  | enter directory =>
      refine Program.only_calls_bind (enter_calls directory) fun entered => ?_
      cases entered with
      | ok path => exact trivial
      | error reason => exact complain_on_calls error _

theorem invoke_calls (builtin : Builtin) (view : View) (arguments : List String)
    (output error : Descriptor) :
    (builtin.invoke Shell.host view arguments output error).OnlyCalls Call.isOfBuiltin := by
  refine Program.only_calls_bind ?_ fun table => carry_out_calls _ output error
  cases builtin with
  | mypid => exact ⟨rfl, fun _ => trivial⟩
  | _ => exact trivial

end Builtin

section

variable {launcher : Launcher} {allowed : Call → Bool} {trace : Trace}

theorem LaunchStep.launches_of_call {step : LaunchStep} {call : Call}
    (made : step.call = some call) :
    call.launches = true := by
  cases step <;> cases made <;> rfl

theorem StageLaunched.calls {group : Option Pid} {stage : Stage} {isLast : Bool}
    {launched : Launched} (launches : ∀ call : Call, call.launches = true → allowed call = true)
    (builtins : ∀ builtin context arguments,
      (launcher.invoke builtin context arguments).OnlyCalls allowed)
    (stageLaunched : StageLaunched launcher group stage isLast trace launched) :
    ∀ exchange ∈ trace, allowed exchange.request = true := by
  obtain ⟨opening, own, closing, rfl, passes, runs, closes⟩ := stageLaunched.parts
  rw [List.forall_mem_append, List.forall_mem_append]
  refine ⟨⟨fun exchange member => ?_, ?_⟩, fun exchange member => ?_⟩
  · obtain ⟨step, _, made⟩ := passes.call_of_mem member
    exact launches _ (LaunchStep.launches_of_call made)
  · generalize opening.children = children at runs
    cases runs with
    | external kind settled =>
        refine List.forall_mem_cons.mpr ⟨launches _ rfl, ?_⟩
        rcases settled with rfl | ⟨given, rfl⟩
        · simp
        · exact List.forall_mem_singleton.mpr (launches _ rfl)
    | builtin kind returns => exact (builtins _ _ _).along returns
  · obtain ⟨descriptor, isClose⟩ := closes exchange member
    exact launches _ (isClose ▸ rfl)

theorem launch_calls {input : Endpoint} {group : Option Pid} {stages : List Stage} {launch : Launch}
    (launches : ∀ call : Call, call.launches = true → allowed call = true)
    (builtins : ∀ builtin context arguments,
      (launcher.invoke builtin context arguments).OnlyCalls allowed)
    (returns : (launchStages launcher input group stages).Returns trace launch) :
    ∀ exchange ∈ trace, allowed exchange.request = true := by
  have closed {closing : Trace} (closes : closing.OnlyCloses) :
      ∀ exchange ∈ closing, allowed exchange.request = true := by
    intro exchange member
    obtain ⟨descriptor, isClose⟩ := closes exchange member
    exact launches _ (isClose ▸ rfl)
  induction stages generalizing input group trace launch with
  | nil =>
      obtain ⟨closing, _, _, rfl, closes, ended⟩ := Program.returns_bind_iff.mp returns
      obtain ⟨rfl, _⟩ := Program.returns_done_iff.mp ended
      rw [List.append_nil]
      exact closed (release_returns closes)
  | cons stage rest ih =>
      rcases launch_stages_cons_returns returns with ⟨failure, _, stops⟩ |
        ⟨piping, own, closing, later, output, next, launched, laterLaunch, rfl, connecting,
          launching, closes, launchingRest, _⟩
      · obtain ⟨tried, closing, rfl, stopsTried, closes⟩ := stops
        refine List.forall_mem_append.mpr ⟨fun exchange member => ?_, closed closes⟩
        obtain ⟨step, _, made⟩ := stopsTried.call_of_mem member
        exact launches _ (LaunchStep.launches_of_call made)
      · refine List.forall_mem_append.mpr ⟨?_, ih launchingRest⟩
        exact (stage_launched_of_returns connecting launching closes).calls launches builtins

end

theorem Turn.Happens.calls {turn : Turn} (happens : turn.Happens) :
    ∀ exchange ∈ turn.calls, exchange.request.isOfTurn = true := by
  cases happens.course with
  | refused reads quiet left ends => simp [quiet]
  | idle reads quiet left ends => simp [quiet]
  | ran reads returns left ends =>
      obtain ⟨launching, settling, launch, made, launches, settles⟩ := run_job_returns returns
      rw [made, List.forall_mem_append]
      constructor
      · refine launch_calls (fun call isLaunch => ?_) (fun builtin context arguments => ?_) launches
        · simp [Call.isOfTurn, isLaunch]
        · refine Program.only_calls_mono (fun call ofBuiltin => ?_)
            (Builtin.invoke_calls builtin _ arguments _ _)
          simp [Call.isOfTurn, ofBuiltin]
      · intro exchange member
        have isSettling := (settle_job_settles _ _ _ launch).along settles exchange member
        generalize exchange.request = call at isSettling
        cases call <;> first | rfl | cases isSettling

end JobShell
