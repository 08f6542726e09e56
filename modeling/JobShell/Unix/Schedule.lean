import JobShell.Unix.Lifecycle

/-!
# Running processes

One process runs until it finishes, has to wait, is stopped or is replaced by
another program. The main program is followed in this way to its value. While
it waits, every other process gets a turn in the order of their numbers; when a
whole round answers no call, nobody can go on. A turn is long but ends, so a
process that never waits does not keep the others from theirs.
-/

namespace JobShell.Unix

set_option autoImplicit false

namespace Kernel

def answer {α : Type} (kernel : Kernel) (result : Except Errno (α × Kernel)) :
    Outcome (Except Errno α) :=
  match result with
  | .ok (value, changed) => .replied (.ok value) changed
  | .error errno => .replied (.error errno) kernel

def conclude {α : Type} (result : α × Kernel) : Outcome α :=
  .replied result.1 result.2

/-- Answers one call. A fork is refused here: it is answered where the caller's
continuation is known. -/
def perform (kernel : Kernel) (pid : Pid) : (request : Call) → Outcome request.Reply
  | .pipe =>
    let (ends, grown) := kernel.makePipe pid
    .replied (.ok ends) grown
  | .openFile path access => kernel.answer (kernel.openPath pid path access)
  | .read source limit => kernel.read pid source limit
  | .stepBack source count => conclude (kernel.stepBack pid source count)
  | .write target bytes => kernel.write pid target bytes
  | .close descriptor => conclude (kernel.close pid descriptor)
  | .duplicate source target => conclude (kernel.duplicate pid source target)
  | .isTerminal descriptor => .replied (kernel.isTerminal pid descriptor) kernel
  | .flushOutput => .replied (.ok ()) kernel
  | .fork => .replied (.error .tryAgain) kernel
  | .execute arguments =>
    match kernel.execute pid arguments with
    | .ok started => .replaced started
    | .error errno => .replied errno kernel
  | .exit code => .pending (kernel.finish pid (.exited (code % 256)))
  | .wait child reportStops => kernel.wait pid child reportStops
  | .pause => .pending kernel
  | .ownPid => .replied pid kernel
  | .parentPid => .replied (((kernel.process? pid).map Process.parent).getD 0) kernel
  | .joinGroup target group => conclude (kernel.joinGroup pid target group)
  | .giveTerminal group => kernel.giveTerminal pid group
  | .setSignals signals disposition =>
    .replied (.ok ()) (kernel.setSignals pid signals disposition)
  | .arrivedSignals => conclude (kernel.takeArrived pid)
  | .sendSignal target number => conclude (kernel.sendSignal pid target number)
  | .processes => .replied kernel.processTable kernel
  | .changeDirectory path => conclude (kernel.changeDirectory pid path)
  | .currentDirectory => .replied (kernel.currentDirectory pid) kernel
  | .inspect path follow => .replied (kernel.inspect pid path follow) kernel
  | .makeDirectory path mode => conclude (kernel.makeDirectory pid path mode)
  | .removeDirectory path => conclude (kernel.removeDirectory pid path)
  | .removeFile path => conclude (kernel.removeFile pid path)
  | .linkSymbolic target path => conclude (kernel.linkSymbolic pid target path)
  | .linkHard existing path => conclude (kernel.linkHard pid existing path)
  | .readLink path => .replied (kernel.readLink pid path) kernel
  | .changeMode path mode => conclude (kernel.changeMode pid path mode)
  | .listDirectory path => .replied (kernel.listDirectory pid path) kernel
  | .touch path create => conclude (kernel.touch pid path create)
  | .setMask mask => conclude (kernel.setMask pid mask)
  | .environment => .replied (((kernel.process? pid).map Process.environment).getD []) kernel
  | .setEnvironment environment =>
    .replied () (kernel.update pid fun process => { process with environment := environment })

inductive Pause (α : Type) where
  | finished (value : α)
  | waiting (rest : Program α)
  | ended
  | replaced

def tick (kernel : Kernel) : Kernel :=
  { kernel with clock := kernel.clock + 1 }

def canRun (kernel : Kernel) (pid : Pid) : Bool :=
  (kernel.process? pid).any Process.isRunning

def lives (kernel : Kernel) (pid : Pid) : Bool :=
  (kernel.process? pid).any Process.isAlive

def pauseAt {α : Type} (kernel : Kernel) (pid : Pid) (rest : Program α) : Pause α :=
  if kernel.lives pid then .waiting rest else .ended

def advance {α : Type} (pid : Pid) : Nat → Program α → Kernel → Pause α × Kernel
  | 0, program, kernel => (.waiting program, kernel)
  | _ + 1, .done value, kernel => (.finished value, kernel)
  | calls + 1, .call .fork next, kernel =>
    let (child, grown) := kernel.spawn pid (next (.ok none)).discard
    advance pid calls (next (.ok (some child))) grown.tick
  | calls + 1, .call request next, kernel =>
    match kernel.perform pid request with
    | .replied reply changed =>
      if changed.canRun pid then advance pid calls (next reply) changed.tick
      else (changed.pauseAt pid (next reply), changed.tick)
    -- The call is kept and made again in the next turn.
    | .pending changed => (changed.pauseAt pid (.call request next), changed)
    | .replaced changed => (.replaced, changed.tick)

def turnLength : Nat := 65536

def turn (kernel : Kernel) (pid : Pid) : Kernel :=
  match kernel.process? pid with
  | none => kernel
  | some process =>
    if !process.isRunning then kernel
    else
      match advance pid turnLength process.program kernel with
      | (.finished _, changed) => (changed.finish pid (.exited 0)).tick
      | (.waiting rest, changed) =>
        changed.update pid fun process => { process with program := rest }
      | (.ended, changed) => changed.tick
      | (.replaced, changed) => changed

/-- Gives every process but one a turn, in the order of their numbers. -/
def round (kernel : Kernel) (main : Pid) : Kernel :=
  (kernel.processes.filter fun process => process.pid != main).foldl
    (fun kernel process => kernel.turn process.pid) kernel

inductive Run (α : Type) where
  | returned (value : α)
  | exited (code : Int)
  | killed (number : Nat)
  | stuck

def endingOf {α : Type} (kernel : Kernel) (main : Pid) : Run α :=
  match (kernel.process? main).map Process.phase with
  | some (.ended (.exited code)) => .exited code
  | some (.ended (.killed number)) => .killed number
  | _ => .stuck

/-- How many calls and how many pauses are granted before a run counts as stuck. -/
def patience : Nat := 0x1000000000000000

def runFor {α : Type} (main : Pid) : Nat → Program α → Kernel → Run α × Kernel
  | 0, _, kernel => (.stuck, kernel)
  | pauses + 1, program, kernel =>
    match advance main patience program kernel with
    | (.finished value, changed) => (.returned value, changed)
    | (.waiting rest, changed) =>
      let later := changed.round main
      if later.clock = changed.clock then (.stuck, later) else runFor main pauses rest later
    | (.ended, changed) => (endingOf changed main, changed)
    | (.replaced, changed) => (.stuck, changed)

def run {α : Type} (kernel : Kernel) (main : Pid) (program : Program α) : Run α × Kernel :=
  runFor main patience program kernel

def settleFor (main : Pid) : Nat → Kernel → Kernel
  | 0, kernel => kernel
  | rounds + 1, kernel =>
    let later := kernel.round main
    if later.clock = kernel.clock then later else settleFor main rounds later

/-- Lets the other processes run until none of them can go on, and collects
those that have ended. -/
def settle (kernel : Kernel) (main : Pid) : Kernel :=
  let later := settleFor main patience kernel
  { later with
    processes := later.processes.filter fun process => process.isAlive || process.pid == main }

end Kernel

end JobShell.Unix
