import JobShell.Text.Decimal
import JobShell.Unix.Kernel

/-!
# Following paths

A path is followed name by name from the root or from the working directory.
Symbolic links are replaced by their targets, at most forty times. What a path
leads to is a node of the file tree or one of the process files, which exist
only while the process does.
-/

namespace JobShell.Unix

set_option autoImplicit false

inductive Place where
  | node (inode : Inode)
  | processFolder (pid : Pid)
  | processStat (pid : Pid)
  | processStatus (pid : Pid)
  | descriptorFolder (pid : Pid)
  | descriptorLink (pid : Pid) (descriptor : Descriptor)
  deriving DecidableEq, Repr

/-- The last name of a path, the directory it stands in, and what it stands
for, which is nothing when the name is free. -/
structure Location where
  parent : Place
  name : String
  place : Option Place

/-- What a path is followed for: the thing of its last name, what that leads to
if it is a link, or a file that may have to be made. -/
inductive Aim where
  | name
  | target
  | file
  deriving DecidableEq, Repr

namespace Path

def linkLimit : Nat := 40

def nameLimit : Nat := 255

def pathLimit : Nat := 4096

/-- The names of a path. A slash at the end asks for a directory and counts as an
empty name, which stands for the same directory as a dot. -/
def names (path : String) : List String :=
  let parts := path.splitOn "/"
  let inner := parts.filter fun part => part != ""
  if path.endsWith "/" && !inner.isEmpty then inner ++ [""] else inner

def barePath (path : String) : List String :=
  (path.splitOn "/").filter fun part => part != ""

def lastName (path : String) : String :=
  (barePath path).getLast?.getD path

end Path

namespace Kernel

def startPlace (kernel : Kernel) (pid : Pid) (path : String) : Place :=
  if path.startsWith "/" then .node FileTree.root
  else .node (((kernel.process? pid).map Process.directory).getD FileTree.root)

def isFolder (kernel : Kernel) : Place → Bool
  | .node inode => kernel.tree.isDirectory inode
  | .processFolder _ | .descriptorFolder _ => true
  | _ => false

/-- The target of a symbolic link. Descriptor links are no text links. -/
def linkTarget? (kernel : Kernel) : Place → Option String
  | .node inode =>
    match kernel.tree.content? inode with
    | some (.link target) => some target
    | _ => none
  | _ => none

def processNamed? (kernel : Kernel) (self : Pid) (name : String) : Option Pid :=
  if name == "self" then some self
  else
    match Text.Decimal.digits? name with
    | some number =>
      if toString number == name && (kernel.process? number).isSome then some number else none
    | none => none

def above (kernel : Kernel) : Place → Place
  | .node inode => .node (kernel.tree.parent inode)
  | .processFolder _ =>
    .node ((kernel.tree.entry? FileTree.root "proc").getD FileTree.root)
  | .descriptorFolder pid | .descriptorLink pid _ | .processStat pid | .processStatus pid =>
    .processFolder pid

def lookup (kernel : Kernel) (self : Pid) (folder : Place) (name : String) : Option Place :=
  if name == "." || name.isEmpty then some folder
  else if name == ".." then some (kernel.above folder)
  else
    match folder with
    | .node inode =>
      match kernel.tree.content? inode with
      | some .processDirectory => (kernel.processNamed? self name).map .processFolder
      | _ => (kernel.tree.entry? inode name).map .node
    | .processFolder pid =>
      if name == "stat" then some (.processStat pid)
      else if name == "status" then some (.processStatus pid)
      else if name == "fd" then some (.descriptorFolder pid)
      else if name == "exe" then (kernel.process? pid).map fun process => .node process.image
      else none
    | .descriptorFolder pid => do
      let number ← Text.Decimal.digits? name
      let _ ← kernel.slot? pid number
      return .descriptorLink pid number
    | _ => none

/-- Follows names from a place. A file can have no slash behind its name. -/
def follow (kernel : Kernel) (self : Pid) (links : Nat) (here : Place) (names : List String)
    (aim : Aim) : Except Errno Location :=
  match names with
  | [] => .ok ⟨here, "", some here⟩
  | name :: rest =>
    if !kernel.isFolder here then .error .notDirectory
    else if aim == .file && rest == [""] then .error .isDirectory
    else if name.utf8ByteSize > Path.nameLimit then .error .nameTooLong
    else
      match kernel.lookup self here name with
      -- A free name is an answer only at the end of the path, where a file may be made.
      | none => if rest.isEmpty then .ok ⟨here, name, none⟩ else .error .noEntry
      | some place =>
        match (if rest.isEmpty && aim == .name then none else kernel.linkTarget? place) with
        | some target =>
          match links with
          | 0 => .error .linkLoop
          | links + 1 =>
            let start := if target.startsWith "/" then .node FileTree.root else here
            kernel.follow self links start (Path.names target ++ rest) aim
        | none =>
          if rest.isEmpty then .ok ⟨here, name, some place⟩
          else kernel.follow self links place rest aim
  termination_by (links, names.length)

def locateNames (kernel : Kernel) (pid : Pid) (path : String) (names : List String)
    (aim : Aim) : Except Errno Location :=
  if path.isEmpty then .error .noEntry
  else if path.utf8ByteSize ≥ Path.pathLimit then .error .nameTooLong
  else kernel.follow pid Path.linkLimit (kernel.startPlace pid path) names aim

def locate (kernel : Kernel) (pid : Pid) (path : String) (aim : Aim) :
    Except Errno Location :=
  kernel.locateNames pid path (Path.names path) aim

def resolve (kernel : Kernel) (pid : Pid) (path : String) (followLast : Bool) :
    Except Errno Place := do
  match (← kernel.locate pid path (if followLast then .target else .name)).place with
  | some place => return place
  | none => throw .noEntry

def resolveNode (kernel : Kernel) (pid : Pid) (path : String) (followLast : Bool) :
    Except Errno Inode := do
  match ← kernel.resolve pid path followLast with
  | .node inode => return inode
  | _ => throw .accessDenied

end Kernel

end JobShell.Unix
