import JobShell.Unix.Program

/-!
# The file tree

Files are numbered nodes. A directory lists its entries by name and keeps the
number of its parent, so a directory that has been removed still knows the way
up but can no longer be named. An executable image is a file whose content is
the program it starts.
-/

namespace JobShell.Unix

set_option autoImplicit false

abbrev Inode := Nat

inductive Device where
  | null
  | full
  | zero
  | terminal
  deriving DecidableEq, Repr

/-- What a node holds. The process directory is filled in by the kernel. -/
inductive Content where
  | file (bytes : ByteArray)
  | directory (parent : Inode) (entries : List (String × Inode))
  | link (target : String)
  | device (device : Device)
  | image (start : List String → Program Unit)
  | processDirectory

structure Node where
  content : Content
  mode : Nat
  links : Nat

/-- All files. Node zero is the root directory. -/
structure FileTree where
  nodes : Array Node

namespace FileTree

def root : Inode := 0

def empty : FileTree :=
  ⟨#[⟨.directory root [], 0o755, 2⟩]⟩

def node? (tree : FileTree) (inode : Inode) : Option Node :=
  tree.nodes[inode]?

def content? (tree : FileTree) (inode : Inode) : Option Content :=
  (tree.node? inode).map Node.content

def isDirectory (tree : FileTree) (inode : Inode) : Bool :=
  match tree.content? inode with
  | some (.directory _ _) | some .processDirectory => true
  | _ => false

def modify (tree : FileTree) (inode : Inode) (change : Node → Node) : FileTree :=
  ⟨tree.nodes.modify inode change⟩

def bytes (tree : FileTree) (inode : Inode) : ByteArray :=
  match tree.content? inode with
  | some (.file bytes) => bytes
  | _ => ByteArray.empty

def setBytes (tree : FileTree) (inode : Inode) (bytes : ByteArray) : FileTree :=
  tree.modify inode fun node =>
    match node.content with
    | .file _ => { node with content := .file bytes }
    | _ => node

def entries (tree : FileTree) (directory : Inode) : List (String × Inode) :=
  match tree.content? directory with
  | some (.directory _ entries) => entries
  | _ => []

/-- The parent of a directory; the root is its own parent. -/
def parent (tree : FileTree) (directory : Inode) : Inode :=
  match tree.content? directory with
  | some (.directory parent _) => parent
  | _ => root

def entry? (tree : FileTree) (directory : Inode) (name : String) : Option Inode :=
  (tree.entries directory).lookup name

/-- Whether names can be added to a directory. They cannot once it has been
removed, and never to the process directory. -/
def takesEntries (tree : FileTree) (directory : Inode) : Bool :=
  match tree.node? directory with
  | some { content := .directory _ _, links := links, .. } => links != 0
  | _ => false

def allocate (tree : FileTree) (node : Node) : Inode × FileTree :=
  (tree.nodes.size, ⟨tree.nodes.push node⟩)

def link (tree : FileTree) (directory : Inode) (name : String) (inode : Inode) : FileTree :=
  tree.modify directory fun node =>
    match node.content with
    | .directory parent entries =>
      { node with content := .directory parent (entries ++ [(name, inode)]) }
    | _ => node

def unlink (tree : FileTree) (directory : Inode) (name : String) : FileTree :=
  tree.modify directory fun node =>
    match node.content with
    | .directory parent entries =>
      { node with content := .directory parent (entries.filter fun entry => entry.1 != name) }
    | _ => node

def create (tree : FileTree) (directory : Inode) (name : String) (content : Content)
    (mode : Nat) : Inode × FileTree :=
  let (inode, grown) := tree.allocate ⟨content, mode, 1⟩
  (inode, grown.link directory name inode)

def createDirectory (tree : FileTree) (directory : Inode) (name : String) (mode : Nat) :
    Inode × FileTree :=
  let (inode, grown) := tree.create directory name (.directory directory []) mode
  -- A directory is linked by its name and by itself, and its parent by it.
  (inode, (grown.modify inode fun node => { node with links := 2 }).modify directory
    fun node => { node with links := node.links + 1 })

def ensureDirectory (tree : FileTree) (directory : Inode) : List String → Inode × FileTree
  | [] => (directory, tree)
  | name :: rest =>
    match tree.entry? directory name with
    | some inode => tree.ensureDirectory inode rest
    | none =>
      let (inode, grown) := tree.createDirectory directory name 0o755
      grown.ensureDirectory inode rest

/-- The names from the root down to a directory. A directory that its parent
does not list has none. The search goes up at most as many steps as there are
nodes. -/
def namesUp (tree : FileTree) : Nat → Inode → Option (List String)
  | 0, _ => none
  | steps + 1, directory =>
    if directory = root then some []
    else
      let above := tree.parent directory
      match (tree.entries above).find? fun entry => entry.2 == directory with
      | none => none
      | some (name, _) => (tree.namesUp steps above).map (· ++ [name])

def path? (tree : FileTree) (directory : Inode) : Option String :=
  (tree.namesUp (tree.nodes.size + 1) directory).map fun names =>
    if names.isEmpty then "/" else String.join (names.map ("/" ++ ·))

end FileTree

end JobShell.Unix
