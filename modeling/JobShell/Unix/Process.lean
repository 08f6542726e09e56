import JobShell.Unix.FileTree

/-!
# Processes and open files

A process refers to open files through numbered slots. Several slots, also of
several processes, may refer to one open file and then share its offset. A
slot marked close-on-execute goes away when the process starts a program.
-/

namespace JobShell.Unix

set_option autoImplicit false

/-- What an open file reads from or writes to. A snapshot is the text of a
process file, made up when it was opened. -/
inductive Stream where
  | node (inode : Inode)
  | pipeEnd (pipe : Nat) (writing : Bool)
  | snapshot (bytes : ByteArray)

structure OpenFile where
  stream : Stream
  offset : Nat
  readable : Bool
  writable : Bool
  appending : Bool

structure Slot where
  file : Nat
  closeOnExecute : Bool
  deriving DecidableEq, Repr

abbrev DescriptorTable := List (Descriptor × Slot)

namespace DescriptorTable

def lowestFree (table : DescriptorTable) : Descriptor :=
  ((List.range (table.length + 1)).find? fun number =>
    !table.any fun entry => entry.1 == number).getD table.length

def put (table : DescriptorTable) (descriptor : Descriptor) (slot : Slot) : DescriptorTable :=
  (descriptor, slot) :: table.filter fun entry => entry.1 != descriptor

def drop (table : DescriptorTable) (descriptor : Descriptor) : DescriptorTable :=
  table.filter fun entry => entry.1 != descriptor

def afterExecute (table : DescriptorTable) : DescriptorTable :=
  table.filter fun entry => !entry.2.closeOnExecute

end DescriptorTable

inductive Ending where
  | exited (code : Int)
  | killed (number : Nat)
  deriving DecidableEq, Repr

/-- What a process is doing. A stop is reported to its parent once. -/
inductive Phase where
  | running
  | stopped (signal : Signal) (reported : Bool)
  | ended (ending : Ending)
  deriving DecidableEq, Repr

/-- A process. The image is the file that it runs, and the program what is left for it
to do. Signals that it catches arrive until it asks for them, and while it is stopped
most signals are held. The mask holds the permission bits that new files do not get. -/
structure Process where
  pid : Pid
  parent : Pid
  group : Pid
  session : Pid
  directory : Inode
  descriptors : DescriptorTable
  ignored : List Signal
  caught : List Signal
  arrived : List Signal
  held : List Nat
  environment : List (String × String)
  mask : Nat
  name : String
  image : Inode
  executed : Bool
  phase : Phase
  program : Program Unit

namespace Process

def isAlive (process : Process) : Bool :=
  match process.phase with
  | .ended _ => false
  | _ => true

def isRunning (process : Process) : Bool :=
  match process.phase with
  | .running => true
  | _ => false

def ignores (process : Process) (number : Nat) : Bool :=
  process.ignored.any fun signal => signal.number == number

def caught? (process : Process) (number : Nat) : Option Signal :=
  process.caught.find? fun signal => signal.number == number

def signalMask (signals : List Signal) : Nat :=
  signals.foldl (fun mask signal => mask ||| (1 <<< (signal.number - 1))) 0

end Process

end JobShell.Unix
