import JobShell.Unix.Schedule

/-!
# A system to start from

The usual directories with the devices, the process files and the tools, and a
first process that reads from and writes to given files.
-/

namespace JobShell.Unix

set_option autoImplicit false

abbrev Tool := String × (List String → Program Unit)

namespace FileTree

def place (tree : FileTree) (directory : Inode) (name : String) (content : Content)
    (mode : Nat) : FileTree :=
  (tree.create directory name content mode).2

def standard (tools : List Tool) : FileTree :=
  let (usrBin, tree) := empty.ensureDirectory root ["usr", "bin"]
  let tree := tools.foldl (fun tree tool => tree.place usrBin tool.1 (.image tool.2) 0o755) tree
  let tree := tree.place root "bin" (.link "usr/bin") 0o777
  let (dev, tree) := tree.ensureDirectory root ["dev"]
  let tree := tree.place dev "null" (.device .null) 0o666
  let tree := tree.place dev "full" (.device .full) 0o666
  let tree := tree.place dev "zero" (.device .zero) 0o666
  let tree := tree.place dev "tty" (.device .terminal) 0o666
  let tree := tree.place dev "stdin" (.link "/proc/self/fd/0") 0o777
  let tree := tree.place dev "stdout" (.link "/proc/self/fd/1") 0o777
  let tree := tree.place dev "stderr" (.link "/proc/self/fd/2") 0o777
  let tree := tree.place dev "fd" (.link "/proc/self/fd") 0o777
  let tree := tree.place root "proc" .processDirectory 0o555
  let (_, tree) := tree.ensureDirectory root ["root"]
  let (_, tree) := tree.ensureDirectory root ["etc"]
  let (_, tree) := tree.ensureDirectory root ["home"]
  (tree.ensureDirectory root ["tmp"]).2

end FileTree

structure FirstProcess where
  pid : Pid
  parent : Pid
  name : String
  image : Inode
  directory : Inode
  environment : List (String × String)
  input : OpenFile
  output : OpenFile
  error : OpenFile
  ignored : List Signal

/-- A system with one process, which leads its own group and session. -/
def Kernel.boot (tree : FileTree) (first : FirstProcess) (terminal : Option Terminal) : Kernel where
  tree := tree
  files := #[first.input, first.output, first.error]
  pipes := #[]
  processes :=
    [{ pid := first.pid
       parent := first.parent
       group := first.pid
       session := first.pid
       directory := first.directory
       descriptors := [(0, ⟨0, false⟩), (1, ⟨1, false⟩), (2, ⟨2, false⟩)]
       ignored := first.ignored
       caught := []
       arrived := []
       held := []
       environment := first.environment
       mask := 0
       name := first.name
       image := first.image
       executed := true
       phase := .running
       program := .done () }]
  nextPid := first.pid + 1
  terminal := terminal
  clock := 0

end JobShell.Unix
