import JobShell.Unix.Process

/-!
# The kernel's state

The kernel owns the file tree, the open files, the pipes, the processes and at
most one terminal. Pipes have a fixed capacity. Whether a pipe still has a
reader or a writer is not counted but looked up in the descriptors of the
processes that are alive.
-/

namespace JobShell.Unix

set_option autoImplicit false

/-- A terminal and what has been typed into it. Each pending chunk is one line,
and an empty chunk is a typed end of input. -/
structure Terminal where
  session : Pid
  foreground : Pid
  pending : List ByteArray

/-- The state of the modelled system. The clock counts the calls answered. -/
structure Kernel where
  tree : FileTree
  files : Array OpenFile
  pipes : Array ByteArray
  processes : List Process
  nextPid : Pid
  terminal : Option Terminal
  clock : Nat

namespace Kernel

def pipeCapacity : Nat := 65536

/-- Writes up to this size enter a pipe in one piece. -/
def atomicWrite : Nat := 4096

def process? (kernel : Kernel) (pid : Pid) : Option Process :=
  kernel.processes.find? fun process => process.pid == pid

def update (kernel : Kernel) (pid : Pid) (change : Process → Process) : Kernel :=
  { kernel with
    processes := kernel.processes.map fun process =>
      if process.pid == pid then change process else process }

def setMask (kernel : Kernel) (pid : Pid) (mask : Nat) : Nat × Kernel :=
  (((kernel.process? pid).map Process.mask).getD 0,
    kernel.update pid fun process => { process with mask := mask % 512 })

def allowedBits (kernel : Kernel) (pid : Pid) (mode : Nat) : Nat :=
  mode &&& (4095 ^^^ ((kernel.process? pid).map Process.mask).getD 0)

def setPhase (kernel : Kernel) (pid : Pid) (phase : Phase) : Kernel :=
  kernel.update pid fun process => { process with phase := phase }

def slot? (kernel : Kernel) (pid : Pid) (descriptor : Descriptor) : Option Slot :=
  (kernel.process? pid).bind fun process => process.descriptors.lookup descriptor

def file? (kernel : Kernel) (pid : Pid) (descriptor : Descriptor) : Option (Nat × OpenFile) := do
  let slot ← kernel.slot? pid descriptor
  let file ← kernel.files[slot.file]?
  return (slot.file, file)

def attach (kernel : Kernel) (pid : Pid) (file : OpenFile) : Descriptor × Kernel :=
  match kernel.process? pid with
  | none => (0, kernel)
  | some process =>
    let descriptor := process.descriptors.lowestFree
    let number := kernel.files.size
    (descriptor,
      { kernel with files := kernel.files.push file }.update pid fun process =>
        { process with descriptors := process.descriptors.put descriptor ⟨number, true⟩ })

def hasPipeEnd (kernel : Kernel) (pipe : Nat) (writing : Bool) : Bool :=
  kernel.processes.any fun process =>
    process.isAlive && process.descriptors.any fun entry =>
      match kernel.files[entry.2.file]? with
      | some { stream := .pipeEnd number side, .. } => number == pipe && side == writing
      | _ => false

/-- Ends a process: its descriptors are closed and its children go to the first
process, which collects at once those that have ended. -/
def finish (kernel : Kernel) (pid : Pid) (ending : Ending) : Kernel :=
  let ended := kernel.update pid fun process =>
    { process with
      phase := .ended ending
      descriptors := []
      program := .done () }
  -- The first process collects what falls to it: an ended child is gone at once, and so is the
  -- process itself if it was a child of the first one.
  let orphaned := ended.processes.filterMap fun process =>
    if process.parent == pid then
      if process.isAlive then some { process with parent := 1 } else none
    else if process.pid == pid && process.parent == 1 then none
    else some process
  { ended with processes := orphaned }

def actOn (kernel : Kernel) (pid : Pid) (number : Nat) : Kernel :=
  match kernel.process? pid with
  | none => kernel
  | some process =>
    if !process.isAlive || process.ignores number then kernel
    else
      match process.caught? number, defaultAction number with
      | some signal, _ =>
        if process.arrived.contains signal then kernel
        else kernel.update pid fun process => { process with arrived := signal :: process.arrived }
      | none, .nothing | none, .resumes => kernel
      | none, .stops =>
        match Signal.ofNumber? number with
        | some signal => kernel.setPhase pid (.stopped signal false)
        | none => kernel
      | none, .ends => kernel.finish pid (.killed number)

/-- Lets a stopped process go on. The signals that were held act on it then, in
the order of their numbers. -/
def resume (kernel : Kernel) (pid : Pid) : Kernel :=
  match kernel.process? pid with
  | none => kernel
  | some process =>
    (process.held.mergeSort (· ≤ ·)).foldl (fun kernel number => kernel.actOn pid number)
      (kernel.update pid fun process => { process with phase := .running, held := [] })

/-- Delivers a signal to one process. One that is stopped can only be ended at
once or go on; all else waits, and another stop has no effect. -/
def deliver (kernel : Kernel) (pid : Pid) (number : Nat) : Kernel :=
  match (kernel.process? pid).map Process.phase with
  | none | some (.ended _) => kernel
  | some .running => kernel.actOn pid number
  | some (.stopped _ _) =>
    if number = Signal.kill.number then kernel.actOn pid number
    else
      match defaultAction number with
      | .resumes => (kernel.resume pid).actOn pid number
      | .stops => kernel
      | _ => kernel.update pid fun process => { process with held := number :: process.held }

def deliverToGroup (kernel : Kernel) (group : Pid) (number : Nat) : Kernel :=
  (kernel.processes.filter fun process => process.group == group).foldl
    (fun kernel process => kernel.deliver process.pid number) kernel

def spawn (kernel : Kernel) (pid : Pid) (program : Program Unit) : Pid × Kernel :=
  match kernel.process? pid with
  | none => (0, kernel)
  | some process =>
    let child := kernel.nextPid
    (child,
      { kernel with
        nextPid := child + 1
        processes := kernel.processes ++
          -- Dispositions, descriptors and the directory are those of the parent; what has arrived
          -- for the parent is not.
          [{ process with
              pid := child
              parent := pid
              arrived := []
              held := []
              executed := false
              phase := .running
              program := program }] })

def processTable (kernel : Kernel) : ProcessTable :=
  ⟨1, none, false⟩ :: kernel.processes.filterMap fun process =>
    if process.pid == 1 then none
    else some
      ⟨process.pid.toNat, if process.parent == 0 then none else some process.parent.toNat, false⟩

/-- The text of a process's status line: name, state, parent, group, session,
terminal and the terminal's foreground group, which is -1 without a terminal. -/
def statLine (kernel : Kernel) (process : Process) : String :=
  let state :=
    match process.phase with
    | .running => "R"
    | .stopped _ _ => "T"
    | .ended _ => "Z"
  let (device, foreground) :=
    match kernel.terminal with
    | some terminal =>
      if terminal.session == process.session then ((34816 : Int), terminal.foreground)
      else (0, -1)
    | none => (0, -1)
  let leading := [toString process.pid, "(" ++ process.name ++ ")", state,
    toString process.parent, toString process.group, toString process.session,
    toString device, toString foreground]
  " ".intercalate (leading ++ List.replicate 44 "0") ++ "\n"

def statusText (process : Process) : String :=
  let wide (signals : List Signal) : String :=
    let digits := Nat.toDigits 16 (Process.signalMask signals)
    "".pushn '0' (16 - digits.length) ++ String.ofList digits
  "Name:\t" ++ process.name ++ "\nPid:\t" ++ toString process.pid ++
    "\nPPid:\t" ++ toString process.parent ++ "\nSigBlk:\t" ++ wide [] ++
    "\nSigIgn:\t" ++ wide process.ignored ++ "\nSigCgt:\t" ++ wide process.caught ++ "\n"

end Kernel

end JobShell.Unix
