import JobShell.Unix.Transfer

/-!
# Calls on names

Changing directory and making, removing, linking and inspecting files. All
files belong to one user, who may read and write everything, so permission bits
only decide what can be executed.
-/

namespace JobShell.Unix.Kernel

set_option autoImplicit false

def changeDirectory (kernel : Kernel) (pid : Pid) (path : String) :
    Except Errno Unit × Kernel :=
  match kernel.resolve pid path true with
  | .error errno => (.error errno, kernel)
  | .ok (.node inode) =>
    if kernel.tree.isDirectory inode then
      (.ok (), kernel.update pid fun process => { process with directory := inode })
    else (.error .notDirectory, kernel)
  | .ok _ => (.error .notDirectory, kernel)

/-- The path of a process's working directory, which is unknown once the
directory has been removed. -/
def currentDirectory (kernel : Kernel) (pid : Pid) : Except Errno String :=
  match (kernel.process? pid).bind fun process => kernel.tree.path? process.directory with
  | some path => .ok path
  | none => .error .noEntry

def streamStatus (kernel : Kernel) (stream : Stream) : FileStatus :=
  match stream with
  | .pipeEnd pipe _ => ⟨.pipe, 0o600, 0, 1, pipe⟩
  | .snapshot _ => ⟨.regular, 0o444, 0, 1, 0⟩
  | .node inode =>
    match kernel.tree.node? inode with
    | none => ⟨.regular, 0, 0, 0, inode⟩
    | some node =>
      let (kind, size) :=
        match node.content with
        | .file bytes => (FileKind.regular, bytes.size)
        | .directory _ _ => (.directory, 4096)
        | .link target => (.symbolicLink, target.utf8ByteSize)
        | .device _ => (.characterDevice, 0)
        | .image _ => (.regular, 4096)
        | .processDirectory => (.directory, 0)
      ⟨kind, node.mode, size, node.links, inode⟩

def inspect (kernel : Kernel) (pid : Pid) (path : String) (followLast : Bool) :
    Except Errno FileStatus := do
  match ← kernel.resolve pid path followLast with
  | .node inode => return kernel.streamStatus (.node inode)
  | .processFolder _ | .descriptorFolder _ => return ⟨.directory, 0o555, 0, 2, 0⟩
  | .processStat _ | .processStatus _ => return ⟨.regular, 0o444, 0, 1, 0⟩
  | .descriptorLink other descriptor =>
    if followLast then
      match kernel.file? other descriptor with
      | some (_, file) => return kernel.streamStatus file.stream
      | none => throw .noEntry
    else return ⟨.symbolicLink, 0o700, 64, 1, 0⟩

def freeName (kernel : Kernel) (pid : Pid) (path : String) (names : List String) :
    Except Errno (Inode × String) := do
  let location ← kernel.locateNames pid path names .name
  match location.place, location.parent with
  | some _, _ => throw .exists
  | none, .node directory =>
    if kernel.tree.takesEntries directory then return (directory, location.name)
    else throw .noEntry
  | none, _ => throw .noEntry

def changeTree (kernel : Kernel) (change : Except Errno FileTree) : Except Errno Unit × Kernel :=
  match change with
  | .ok tree => (.ok (), { kernel with tree := tree })
  | .error errno => (.error errno, kernel)

def makeDirectory (kernel : Kernel) (pid : Pid) (path : String) (mode : Nat) :
    Except Errno Unit × Kernel :=
  kernel.changeTree do
    let (directory, name) ← kernel.freeName pid path (Path.barePath path)
    return (kernel.tree.createDirectory directory name (kernel.allowedBits pid mode)).2

def removeDirectory (kernel : Kernel) (pid : Pid) (path : String) : Except Errno Unit × Kernel :=
  kernel.changeTree do
    let location ← kernel.locateNames pid path (Path.barePath path) .name
    match location.name, location.place, location.parent with
    | ".", _, _ => throw .invalidArgument
    | "..", _, _ => throw .notEmpty
    | "", _, _ => throw .busy
    | name, some (.node inode), .node directory =>
      if !kernel.tree.isDirectory inode then throw .notDirectory
      if !(kernel.tree.entries inode).isEmpty then throw .notEmpty
      return ((kernel.tree.unlink directory name).modify directory
        fun node => { node with links := node.links - 1 }).modify inode
          fun node => { node with links := 0 }
    | _, none, _ => throw .noEntry
    | _, _, _ => throw .notPermitted

def removeFile (kernel : Kernel) (pid : Pid) (path : String) : Except Errno Unit × Kernel :=
  kernel.changeTree do
    let location ← kernel.locate pid path .name
    match location.place, location.parent with
    | some (.node inode), .node directory =>
      if kernel.tree.isDirectory inode then throw .isDirectory
      return (kernel.tree.unlink directory location.name).modify inode
        fun node => { node with links := node.links - 1 }
    | none, _ => throw .noEntry
    | _, _ => throw .notPermitted

def linkSymbolic (kernel : Kernel) (pid : Pid) (target path : String) :
    Except Errno Unit × Kernel :=
  kernel.changeTree do
    if target.isEmpty then throw .noEntry
    let (directory, name) ← kernel.freeName pid path (Path.names path)
    return (kernel.tree.create directory name (.link target) 0o777).2

def linkHard (kernel : Kernel) (pid : Pid) (existing path : String) :
    Except Errno Unit × Kernel :=
  kernel.changeTree do
    let inode ← kernel.resolveNode pid existing false
    let (directory, name) ← kernel.freeName pid path (Path.names path)
    if kernel.tree.isDirectory inode then throw .notPermitted
    return (kernel.tree.link directory name inode).modify inode
      fun node => { node with links := node.links + 1 }

/-- What a symbolic link says. A descriptor's link names its file or pipe. -/
def readLink (kernel : Kernel) (pid : Pid) (path : String) : Except Errno String := do
  match ← kernel.resolve pid path false with
  | .node inode =>
    match kernel.tree.content? inode with
    | some (.link target) => return target
    | _ => throw .invalidArgument
  | .descriptorLink other descriptor =>
    match kernel.file? other descriptor with
    | some (_, { stream := .pipeEnd pipe _, .. }) => return "pipe:[" ++ toString pipe ++ "]"
    | some (_, { stream := .node inode, .. }) =>
      return (kernel.tree.path? inode).getD ("/" ++ toString inode)
    | _ => throw .noEntry
  | _ => throw .invalidArgument

def changeMode (kernel : Kernel) (pid : Pid) (path : String) (mode : Nat) :
    Except Errno Unit × Kernel :=
  kernel.changeTree do
    let inode ← kernel.resolveNode pid path true
    return kernel.tree.modify inode fun node => { node with mode := mode }

def listDirectory (kernel : Kernel) (pid : Pid) (path : String) : Except Errno (List String) := do
  match ← kernel.resolve pid path true with
  | .node inode =>
    if kernel.tree.isDirectory inode then return (kernel.tree.entries inode).map Prod.fst
    else throw .notDirectory
  | .descriptorFolder other =>
    match kernel.process? other with
    | some process => return process.descriptors.map fun entry => toString entry.1
    | none => throw .noEntry
  | .processFolder _ => return ["exe", "fd", "stat", "status"]
  | _ => throw .notDirectory

/-- Makes an empty file where there is none, unless only existing files are
wanted. -/
def touch (kernel : Kernel) (pid : Pid) (path : String) (create : Bool) :
    Except Errno Unit × Kernel :=
  match kernel.resolve pid path true, create with
  | .ok _, _ | .error .noEntry, false => (.ok (), kernel)
  | .error _, true =>
    match kernel.openWriting pid path (.appending 0o666) 0o666 with
    | .ok (descriptor, opened) => ((.ok ()), (opened.close pid descriptor).2)
    | .error errno => (.error errno, kernel)
  | .error errno, false => (.error errno, kernel)

end JobShell.Unix.Kernel
