import JobShell.CommandLine.Invoke
import JobShell.Unix.Boot
import JobShell.Unix.Typing

/-!
# A machine with one first process

A machine is a modelled system with a work directory, in which one process is
run step by step and can be looked at between the steps. Its input is a file
or a terminal into which everything has been typed, and its output and error
output are files outside the work directory. The image of the first process is
the shell, and has no name.
-/

namespace JobShell

open Unix (Kernel Pid Program Tool Inode FileTree)

set_option autoImplicit false

/-- What a machine begins with. Files are named by paths below the work
directory. -/
structure Scene where
  files : List (String × ByteArray)
  directories : List String
  environment : List (String × String)
  input : ByteArray
  atTerminal : Bool

/-- A running machine. The marks tell how much output has been taken. -/
structure Machine where
  kernel : Kernel
  pid : Pid
  output : Inode
  error : Inode
  outputMark : Nat
  errorMark : Nat

namespace Machine

def workNames : List String :=
  ["tmp", "job-shell-machine"]

def workPath : String :=
  String.join (workNames.map ("/" ++ ·))

def fileMode : Nat := 0o666

def addFile (tree : FileTree) (work : Inode) (path : String) (bytes : ByteArray) : FileTree :=
  let names := Unix.Path.barePath path
  match names.getLast? with
  | none => tree
  | some name =>
    let (directory, grown) := tree.ensureDirectory work names.dropLast
    match grown.entry? directory name with
    | some inode => grown.setBytes inode bytes
    | none => grown.place directory name (.file bytes) fileMode

def addDirectory (tree : FileTree) (work : Inode) (path : String) : FileTree :=
  (tree.ensureDirectory work (Unix.Path.barePath path)).2

def firstPid : Pid := 1000

def outsidePid : Pid := 900

def account : Surroundings.Account :=
  ⟨"root", "/root"⟩

def turns : Nat := 0x1000000000000000

def shellProgram (arguments : List String) : Program Unit := do
  let _ ← Program.setSignals [.pipe] .ignored
  let code ← CommandLine.invoke (some account) turns
    (arguments.tail.map fun argument => argument.toUTF8.data.toList)
  Program.exit code

def create (tools : List Tool) (scene : Scene) : Machine :=
  let tree := FileTree.standard tools
  let (work, tree) := tree.ensureDirectory FileTree.root workNames
  let tree := addDirectory tree work "home"
  let tree := scene.directories.foldl (fun tree path => addDirectory tree work path) tree
  let tree := scene.files.foldl (fun tree file => addFile tree work file.1 file.2) tree
  let (image, tree) := tree.allocate ⟨.image shellProgram, 0o755, 1⟩
  let (output, tree) := tree.allocate ⟨.file ByteArray.empty, fileMode, 1⟩
  let (error, tree) := tree.allocate ⟨.file ByteArray.empty, fileMode, 1⟩
  let (input, tree) :=
    if scene.atTerminal then tree.allocate ⟨.device .terminal, fileMode, 1⟩
    else tree.allocate ⟨.file scene.input, fileMode, 1⟩
  let terminal : Option Unix.Terminal :=
    if scene.atTerminal then
      some ⟨firstPid, firstPid, Unix.Typing.chunks scene.input.data.toList⟩
    else none
  { kernel := Kernel.boot tree
      { pid := firstPid
        parent := outsidePid
        name := shellName
        image := image
        directory := work
        environment := scene.environment
        input := ⟨.node input, 0, true, scene.atTerminal, false⟩
        output := ⟨.node output, 0, false, true, true⟩
        error := ⟨.node error, 0, false, true, true⟩
        ignored := [.pipe] }
      terminal
    pid := firstPid
    output := output
    error := error
    outputMark := 0
    errorMark := 0 }

def run {α : Type} (machine : Machine) (program : Program α) : Kernel.Run α × Machine :=
  let (ending, kernel) := machine.kernel.run machine.pid program
  (ending, { machine with kernel := kernel })

def killStopped (kernel : Kernel) (main : Pid) : Kernel :=
  (kernel.processes.filter fun process =>
      process.pid != main && process.isAlive && !process.isRunning).foldl
    (fun kernel process => kernel.deliver process.pid Unix.Signal.kill.number) kernel

def settle (machine : Machine) : Machine :=
  let rested := machine.kernel.settle machine.pid
  { machine with kernel := (killStopped rested machine.pid).settle machine.pid }

/-- What was written since the last time, and the machine that remembers it. -/
def takeOutput (machine : Machine) : ByteArray × ByteArray × Machine :=
  let output := machine.kernel.tree.bytes machine.output
  let error := machine.kernel.tree.bytes machine.error
  (output.extract machine.outputMark output.size,
    error.extract machine.errorMark error.size,
    { machine with outputMark := output.size, errorMark := error.size })

def absolute (path : String) : String :=
  workPath ++ "/" ++ path

def leadsToDirectory (machine : Machine) (path : String) : Bool :=
  match machine.kernel.resolve machine.pid (absolute path) true with
  | .ok (.node inode) => machine.kernel.tree.isDirectory inode
  | _ => false

/-- Every path below a directory to a given depth. The directory's path ends in a
slash or is empty, and so do those of the directories in it. A link to a
directory counts as one. -/
def pathsBelow (machine : Machine) : Nat → String → List String
  | 0, _ => []
  | depth + 1, directory =>
    match machine.kernel.listDirectory machine.pid (absolute directory) with
    | .error _ => []
    | .ok names =>
      names.flatMap fun name =>
        let path := directory ++ name
        if machine.leadsToDirectory path then
          (path ++ "/") :: machine.pathsBelow depth (path ++ "/")
        else [path]

def paths (machine : Machine) : List String :=
  (machine.pathsBelow Unix.Path.pathLimit "").mergeSort fun first second => !(second < first)

def contents? (machine : Machine) (path : String) : Option ByteArray :=
  match machine.kernel.resolve machine.pid (absolute path) true with
  | .ok (.node inode) =>
    match machine.kernel.tree.content? inode with
    | some (.file bytes) => some bytes
    | _ => none
  | _ => none

def openDescriptors (machine : Machine) : Nat :=
  ((machine.kernel.process? machine.pid).map fun process => process.descriptors.length).getD 0

end Machine

end JobShell
