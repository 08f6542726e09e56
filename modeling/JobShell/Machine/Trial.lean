import JobShell.Builtin.Command
import JobShell.Job.State
import JobShell.Machine.Basic

/-!
# Trials on a machine

Small programs for the first process of a machine that try out one part of the
shell: a builtin on given endpoints, repeated waits for a child, and the
process tree as `mypid` shows it.
-/

namespace JobShell.Machine.Trial

open Unix (Pid Program Signal)

set_option autoImplicit false

inductive Output where
  | file
  | full
  | readOnly
  deriving DecidableEq, Repr

/-- A host that leaves nothing and enters every directory, or none for a given
reason. -/
def scriptedHost (refusal : Option String) : Builtin.Host where
  leave := pure ()
  enter path := pure (match refusal with
    | some reason => .error reason
    | none => .ok path)

def builtin (builtin : Builtin) (host : Builtin.Host) (view : Builtin.View)
    (arguments : List String) (output : Output) : Program Builtin.Result := do
  let invoke (target : Unix.Descriptor) : Program Builtin.Result :=
    builtin.invoke host view arguments target Unix.standardError
  let opened (path : String) (access : Unix.Access) : Program Builtin.Result := do
    match ← Program.openFile path access with
    | .error _ => invoke Unix.standardOutput
    | .ok target =>
      let result ← invoke target
      let _ ← Program.close target
      return result
  match output with
  | .file => invoke Unix.standardOutput
  | .full => opened "/dev/full" (.appending 0o666)
  | .readOnly => opened "/dev/null" .reading

def waits (child : Pid) : Nat → Program (List (Option StageState))
  | 0 => pure []
  | times + 1 => do
    let state ← awaitChild child Shell.patience
    match state with
    | some (.suspended _) =>
      let _ ← Program.sendSignal child Signal.cont.number
      pure ()
    | _ => pure ()
    let others ← waits child times
    return state :: others

def start (arguments : List String) : Program (Option Pid) := do
  match ← Program.fork with
  | .error _ => return none
  | .ok (some child) => return some child
  | .ok none =>
    let _ ← Program.setSignals [.pipe] .default
    let _ ← Program.execute arguments
    Program.exit 127

def waitsFor (script : String) (times : Nat) : Program (List (Option StageState)) := do
  match ← start ["sh", "-c", script] with
  | none => return []
  | some child => waits child times

def startIdle : Nat → Program (List Pid)
  | 0 => pure []
  | count + 1 => do
    match ← Program.fork with
    | .ok none =>
      let _ ← Program.sendSignal (← Program.ownPid) Signal.stop.number
      Program.exit 0
    | .ok (some child) =>
      let others ← startIdle count
      return child :: others
    | .error _ => return []

structure Tree where
  code : Int
  childrenMatch : Bool
  parentsMatch : List Bool

def parentsAre (view : Builtin.View) (table : Unix.ProcessTable) (own : Pid) :
    List Pid → List Bool
  | [] => []
  | child :: rest =>
    let response := Builtin.mypid.respond view table ["mypid", "-p", toString child]
    (response == .print "mypid" (Builtin.numberLines [own.toNat])) ::
      parentsAre view table own rest

def tree (count : Nat) : Program Tree := do
  let children ← startIdle count
  let own ← Program.ownPid
  let table ← Program.processes
  let view : Builtin.View := ⟨own, none, [], 0⟩
  let response := Builtin.mypid.respond view table ["mypid", "-c", toString own]
  let expected := Builtin.numberLines (children.map Int.toNat)
  let result ← response.carryOut (scriptedHost none) Unix.standardOutput Unix.standardError
  return {
    code := result.outcome.code
    childrenMatch := response == .print "mypid" expected
    parentsMatch := parentsAre view table own children }

end JobShell.Machine.Trial
