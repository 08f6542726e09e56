import JobShell.Unix.Path

/-!
# Opening, reading and writing

The calls on descriptors. A read from an empty pipe that still has a writer and
a write to a full pipe that still has a reader get no answer yet: the caller
asks again after other processes have run. A write to a pipe without a reader
ends the caller with a signal unless it ignores or catches that signal.
-/

namespace JobShell.Unix

set_option autoImplicit false

/-- What comes of a call: a reply, no reply yet (the caller may also have been
stopped or ended), or a new program in the caller's place. -/
inductive Outcome (α : Type) where
  | replied (reply : α) (kernel : Kernel)
  | pending (kernel : Kernel)
  | replaced (kernel : Kernel)

namespace Kernel

def openedFor (stream : Stream) (access : Access) : OpenFile :=
  { stream := stream
    offset := 0
    readable := match access with
      | .reading | .updating _ => true
      | _ => false
    writable := access != .reading
    appending := match access with
      | .appending _ => true
      | _ => false }

def openPlace (kernel : Kernel) (pid : Pid) (place : Place) (access : Access) :
    Except Errno (Descriptor × Kernel) :=
  match place with
  | .node inode =>
    if kernel.tree.isDirectory inode && access != .reading then .error .isDirectory
    else
      let cleared :=
        match access with
        | .truncating _ => { kernel with tree := kernel.tree.setBytes inode ByteArray.empty }
        | _ => kernel
      .ok (cleared.attach pid (openedFor (.node inode) access))
  | .processStat other =>
    match kernel.process? other with
    | some process =>
      .ok (kernel.attach pid
        (openedFor (.snapshot (kernel.statLine process).toUTF8) .reading))
    | none => .error .noEntry
  | .processStatus other =>
    match kernel.process? other with
    | some process =>
      .ok (kernel.attach pid (openedFor (.snapshot (statusText process).toUTF8) .reading))
    | none => .error .noEntry
  | .descriptorLink other descriptor =>
    match kernel.file? other descriptor with
    | some (_, file) => .ok (kernel.attach pid (openedFor file.stream access))
    | none => .error .noEntry
  | .processFolder _ | .descriptorFolder _ =>
    if access == .reading then .ok (kernel.attach pid (openedFor (.snapshot .empty) .reading))
    else .error .isDirectory

def openWriting (kernel : Kernel) (pid : Pid) (path : String) (access : Access) (mode : Nat) :
    Except Errno (Descriptor × Kernel) := do
  let location ← kernel.locate pid path .file
  match location.place, location.parent with
  | some place, _ => kernel.openPlace pid place access
  | none, .node directory =>
    if !kernel.tree.takesEntries directory then throw .noEntry
    let (inode, grown) :=
      kernel.tree.create directory location.name (.file ByteArray.empty)
        (kernel.allowedBits pid mode)
    return { kernel with tree := grown }.attach pid (openedFor (.node inode) access)
  | none, _ => throw .noEntry

/-- Opens the file at a path. The tree names files by texts, so a path that is none leads
where it seems to. -/
def openPath (kernel : Kernel) (pid : Pid) (path : PathName) (access : Access) :
    Except Errno (Descriptor × Kernel) :=
  match access with
  | .reading => do kernel.openPlace pid (← kernel.resolve pid path.shown true) access
  | .truncating mode | .appending mode | .updating mode =>
    kernel.openWriting pid path.shown access mode

def setOffset (kernel : Kernel) (number offset : Nat) : Kernel :=
  { kernel with
    files := kernel.files.modify number fun file => { file with offset := offset } }

/-- Reads from the terminal. A process outside the foreground group is stopped,
or refused when it ignores that stop. -/
def readTerminal (kernel : Kernel) (process : Process) (limit : Nat) :
    Outcome (Except Errno ByteArray) :=
  match kernel.terminal with
  | none => .replied (.error .ioFailure) kernel
  | some terminal =>
    if terminal.session != process.session then .replied (.error .ioFailure) kernel
    else if terminal.foreground != process.group then
      if process.ignored.contains .ttin then .replied (.error .ioFailure) kernel
      else .pending (kernel.deliver process.pid Signal.ttin.number)
    else
      match terminal.pending with
      | [] => .pending kernel
      | chunk :: rest =>
        let left := chunk.extract limit chunk.size
        let remaining := if left.isEmpty then rest else left :: rest
        .replied (.ok (chunk.extract 0 limit))
          { kernel with terminal := some { terminal with pending := remaining } }

def readFile (kernel : Kernel) (process : Process) (number : Nat) (file : OpenFile)
    (limit : Nat) : Outcome (Except Errno ByteArray) :=
  let taken (bytes : ByteArray) : Outcome (Except Errno ByteArray) :=
    let part := bytes.extract file.offset (file.offset + limit)
    .replied (.ok part) (kernel.setOffset number (file.offset + part.size))
  match file.stream with
  | .snapshot bytes => taken bytes
  | .pipeEnd pipe _ =>
    let buffer := kernel.pipes.getD pipe ByteArray.empty
    if limit = 0 then .replied (.ok ByteArray.empty) kernel
    else if buffer.isEmpty then
      if kernel.hasPipeEnd pipe true then .pending kernel
      else .replied (.ok ByteArray.empty) kernel
    else
      .replied (.ok (buffer.extract 0 limit))
        { kernel with
          pipes := kernel.pipes.modify pipe fun bytes => bytes.extract limit bytes.size }
  | .node inode =>
    match kernel.tree.content? inode with
    | some (.file bytes) => taken bytes
    | some (.directory _ _) | some .processDirectory => .replied (.error .isDirectory) kernel
    | some (.device .null) => .replied (.ok ByteArray.empty) kernel
    | some (.device .terminal) => kernel.readTerminal process limit
    | some (.device _) =>
      .replied (.ok ⟨(List.replicate limit (0 : UInt8)).toArray⟩) kernel
    | _ => .replied (.ok ByteArray.empty) kernel

def read (kernel : Kernel) (pid : Pid) (source : Descriptor) (limit : Nat) :
    Outcome (Except Errno ByteArray) :=
  match kernel.process? pid, kernel.file? pid source with
  | some process, some (number, file) =>
    if file.readable then kernel.readFile process number file limit
    else .replied (.error .badDescriptor) kernel
  | _, _ => .replied (.error .badDescriptor) kernel

/-- The bytes of a file after a write at an offset. A gap is filled with zeros. -/
def overwritten (bytes : ByteArray) (offset : Nat) (written : ByteArray) : ByteArray :=
  if offset = bytes.size then bytes ++ written
  else if offset > bytes.size then
    bytes ++ ⟨(List.replicate (offset - bytes.size) (0 : UInt8)).toArray⟩ ++ written
  else
    bytes.extract 0 offset ++ written ++
      bytes.extract (offset + written.size) bytes.size

/-- Writes into a pipe as much as fits. A small write waits until all of it
fits. -/
def writePipe (kernel : Kernel) (process : Process) (pipe : Nat) (bytes : ByteArray) :
    Outcome (Except Errno Nat) :=
  if !kernel.hasPipeEnd pipe false then
    if process.ignored.contains .pipe then .replied (.error .brokenPipe) kernel
    else if process.caught.contains .pipe then
      .replied (.error .brokenPipe) (kernel.deliver process.pid Signal.pipe.number)
    else .pending (kernel.deliver process.pid Signal.pipe.number)
  else
    let buffer := kernel.pipes.getD pipe ByteArray.empty
    let room := pipeCapacity - buffer.size
    if room = 0 || (bytes.size ≤ atomicWrite && room < bytes.size) then .pending kernel
    else
      let part := bytes.extract 0 room
      .replied (.ok part.size)
        { kernel with pipes := kernel.pipes.modify pipe fun held => held ++ part }

def writeFile (kernel : Kernel) (process : Process) (number : Nat) (file : OpenFile)
    (bytes : ByteArray) : Outcome (Except Errno Nat) :=
  match file.stream with
  | .snapshot _ => .replied (.error .badDescriptor) kernel
  | .pipeEnd pipe _ =>
    if bytes.isEmpty then .replied (.ok 0) kernel else kernel.writePipe process pipe bytes
  | .node inode =>
    match kernel.tree.content? inode with
    | some (.file held) =>
      let offset := if file.appending then held.size else file.offset
      .replied (.ok bytes.size)
        ({ kernel with
            tree := kernel.tree.setBytes inode (overwritten held offset bytes) }.setOffset
          number (offset + bytes.size))
    | some (.device .full) =>
      if bytes.isEmpty then .replied (.ok 0) kernel else .replied (.error .noSpace) kernel
    | some (.device _) => .replied (.ok bytes.size) kernel
    | _ => .replied (.error .badDescriptor) kernel

def write (kernel : Kernel) (pid : Pid) (target : Descriptor) (bytes : ByteArray) :
    Outcome (Except Errno Nat) :=
  match kernel.process? pid, kernel.file? pid target with
  | some process, some (number, file) =>
    if file.writable then kernel.writeFile process number file bytes
    else .replied (.error .badDescriptor) kernel
  | _, _ => .replied (.error .badDescriptor) kernel

def stepBack (kernel : Kernel) (pid : Pid) (source : Descriptor) (count : Nat) :
    Except Errno Unit × Kernel :=
  match kernel.file? pid source with
  | some (number, { stream := .node inode, offset := offset, .. }) =>
    match kernel.tree.content? inode with
    | some (.file _) => (.ok (), kernel.setOffset number (offset - count))
    | _ => (.error .illegalSeek, kernel)
  | some _ => (.error .illegalSeek, kernel)
  | none => (.error .badDescriptor, kernel)

/-- Makes a pipe; the reading end gets the lower descriptor. -/
def makePipe (kernel : Kernel) (pid : Pid) : (Descriptor × Descriptor) × Kernel :=
  let pipe := kernel.pipes.size
  let grown := { kernel with pipes := kernel.pipes.push ByteArray.empty }
  let (reader, withReader) := grown.attach pid ⟨.pipeEnd pipe false, 0, true, false, false⟩
  let (writer, withBoth) := withReader.attach pid ⟨.pipeEnd pipe true, 0, false, true, false⟩
  ((reader, writer), withBoth)

def close (kernel : Kernel) (pid : Pid) (descriptor : Descriptor) :
    Except Errno Unit × Kernel :=
  match kernel.slot? pid descriptor with
  | none => (.error .badDescriptor, kernel)
  | some _ =>
    (.ok (), kernel.update pid fun process =>
      { process with descriptors := process.descriptors.drop descriptor })

/-- Copies a descriptor. The copy stays open when a program is executed. -/
def duplicate (kernel : Kernel) (pid : Pid) (source target : Descriptor) :
    Except Errno Unit × Kernel :=
  match kernel.slot? pid source with
  | none => (.error .badDescriptor, kernel)
  | some slot =>
    if source = target then (.ok (), kernel)
    else
      (.ok (), kernel.update pid fun process =>
        { process with
          descriptors := process.descriptors.put target { slot with closeOnExecute := false } })

def isTerminal (kernel : Kernel) (pid : Pid) (descriptor : Descriptor) : Bool :=
  match kernel.file? pid descriptor with
  | some (_, { stream := .node inode, .. }) =>
    match kernel.tree.content? inode with
    | some (.device .terminal) => true
    | _ => false
  | _ => false

end Kernel

end JobShell.Unix
