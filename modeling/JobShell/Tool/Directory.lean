import JobShell.Tool.Mode
import JobShell.Unix.Path

/-!
# Tools on directories

`mkdir`, `rmdir`, `ls` and `pwd`.
-/

namespace JobShell.Tool

open Unix (Program Errno FileStatus FileKind)

set_option autoImplicit false

def needOperand (own subject : String) (operands : List String) : Program Unit :=
  if operands.isEmpty then misuse own ("missing " ++ subject) 1 else pure ()

def allOperands (act : String → Program Bool) : List String → Program Bool
  | [] => pure true
  | operand :: rest => do
    let done ← act operand
    let others ← allOperands act rest
    return done && others

def leadingPaths (path : String) : List String :=
  let parts := path.splitOn "/"
  let places := (List.range parts.length).filter fun place => parts.getD place "" != ""
  let leading := places.map fun place => "/".intercalate (parts.take (place + 1))
  leading.dropLast ++ [path]

def makeDirectory (own : String) (flags : List Flag) (mode : Nat) (path : String) :
    Program Bool := do
  match ← Program.request (.makeDirectory path mode) with
  | .ok _ =>
    if given flags 'v' then
      emitText own (own ++ ": created directory " ++ Text.ShellWord.quoted path ++ "\n")
    return true
  | .error errno =>
    complain own (because ("cannot create directory " ++ Text.ShellWord.quoted path) errno)
    return false

/-- Makes the directories of a path that are missing. Only the last one gets the
mode that was asked for. -/
def makeLeading (own : String) (flags : List Flag) (mode : Nat) : List String → Program Bool
  | [] => pure true
  | path :: rest => do
    let failed (errno : Errno) : Program Bool := do
      complain own (because ("cannot create directory " ++ Text.ShellWord.quoted path) errno)
      return false
    match ← Program.inspect path true with
    | .ok status =>
      if status.kind = .directory then makeLeading own flags mode rest
      else failed (if rest.isEmpty then .exists else .notDirectory)
    | .error _ =>
      match ← Program.request (.makeDirectory path (if rest.isEmpty then mode else 0o777)) with
      | .error errno => failed errno
      | .ok _ =>
        if given flags 'v' then
          emitText own (own ++ ": created directory " ++ Text.ShellWord.quoted path ++ "\n")
        makeLeading own flags mode rest

def mkdir (arguments : List String) : Program Unit :=
  let own := arguments.headD "mkdir"
  let table : FlagTable :=
    { FlagTable.ofLetters "pv" "m" with
      long := [("mode", 'm'), ("parents", 'p'), ("verbose", 'v')] }
  withFlags own 1 table (arguments.drop 1) fun flags operands => do
    needOperand own "operand" operands
    let mode ←
      match valueOf? flags 'm' with
      | none => pure 0o777
      | some text =>
        match changedMode? text true 0o777 with
        | some mode => pure mode
        | none => do
          complain own ("invalid mode " ++ Text.ShellWord.cited text)
          Program.exit 1
    let clean ← allOperands
      (fun path =>
        if given flags 'p' then makeLeading own flags mode (leadingPaths path)
        else makeDirectory own flags mode path)
      operands
    conclude clean 1

/-- Removes directories until one cannot be. The first is named by the operand. -/
def removeUpwards (own : String) (flags : List Flag) (first : Bool) :
    List String → Program Bool
  | [] => pure true
  | path :: rest => do
    let shown := Text.ShellWord.quoted path
    if given flags 'v' then emitText own (own ++ ": removing directory, " ++ shown ++ "\n")
    match ← Program.request (.removeDirectory path) with
    | .ok _ => removeUpwards own flags false rest
    | .error errno =>
      let kind := if first then "" else "directory "
      complain own (because ("failed to remove " ++ kind ++ shown) errno)
      return false

def rmdir (arguments : List String) : Program Unit :=
  let own := arguments.headD "rmdir"
  let table : FlagTable :=
    { FlagTable.ofLetters "pv" "" with long := [("parents", 'p'), ("verbose", 'v')] }
  withFlags own 1 table (arguments.drop 1) fun flags operands => do
    needOperand own "operand" operands
    let clean ← allOperands
      (fun path => removeUpwards own flags true
        (if given flags 'p' then (leadingPaths path).reverse else [path]))
      operands
    conclude clean 1

def namesSorted (names : List String) : List String :=
  names.mergeSort fun first second => !(second < first)

def kindMark (flags : List Flag) (status : FileStatus) : String :=
  match status.kind with
  | .directory => if given flags 'F' || given flags 'p' then "/" else ""
  | .symbolicLink => if given flags 'F' then "@" else ""
  | .pipe => if given flags 'F' then "|" else ""
  | .regular =>
    if given flags 'F' && (status.mode.testBit 0 || status.mode.testBit 3 || status.mode.testBit 6)
    then "*" else ""
  | .characterDevice => ""

def listLines (flags : List Flag) : List (String × String) → Program (List String)
  | [] => pure []
  | (name, path) :: rest => do
    let long := given flags 'l'
    let line ←
      if long || given flags 'F' || given flags 'p' || given flags 'i' then do
        match ← Program.inspect path false with
        | .error _ => pure name
        | .ok status =>
          let number := if given flags 'i' then toString status.inode ++ " " else ""
          if !long then pure (number ++ name ++ kindMark flags status)
          else
            let target ←
              if status.kind = .symbolicLink then do
                match ← Program.request (.readLink path) with
                | .ok target => pure (" -> " ++ target)
                | .error _ => pure ""
              else pure (kindMark flags status)
            pure (number ++ kindLetter status.kind ++ modeLetters status.mode ++ " " ++
              toString status.links ++ " root root " ++ toString status.size ++
              " Jan  1 00:00 " ++ name ++ target)
      else pure name
    let others ← listLines flags rest
    return line :: others

def lsFlags : FlagTable :=
  { FlagTable.ofLetters "1aACdFfgilLmnNopqrRsStuUx" "" with
    long := [("all", 'a'), ("almost-all", 'A'), ("classify", 'F'), ("directory", 'd'),
      ("inode", 'i'), ("reverse", 'r')] }

/-- The operands that exist, files before directories, and whether all do. -/
def lsOperands (own : String) (flags : List Flag) :
    List String → Program (List String × List String × Bool)
  | [] => pure ([], [], true)
  | path :: rest => do
    let shortForm := !given flags 'l' && !given flags 'F' && !given flags 'd'
    let found ←
      match ← Program.inspect path shortForm with
      | .ok status => pure (Except.ok status)
      | .error errno => do
        match ← Program.inspect path false with
        | .ok status => pure (.ok status)
        | .error _ => pure (.error errno)
    let (plain, folders, clean) ← lsOperands own flags rest
    match found with
    | .error _ => return (plain, folders, false)
    | .ok status =>
      if status.kind = .directory && !given flags 'd' then return (plain, path :: folders, clean)
      else return (path :: plain, folders, clean)

def reportMissing (own : String) : List String → Program Unit
  | [] => pure ()
  | path :: rest => do
    match ← Program.inspect path false with
    | .ok _ => pure ()
    | .error errno =>
      complain own (because ("cannot access " ++ Text.ShellWord.quoted path) errno)
    reportMissing own rest

def listFolders (own : String) (flags : List Flag) (headed : Bool)
    (order : List String → List String) :
    Bool → List String → Program Bool
  | _, [] => pure true
  | first, folder :: rest => do
    match ← Program.request (.listDirectory folder) with
    | .error errno =>
      complain own (because ("cannot open directory " ++ Text.ShellWord.quoted folder) errno)
      let _ ← listFolders own flags headed order first rest
      return false
    | .ok names =>
      if headed then
        emitText own ((if first then "" else "\n") ++ folder ++ ":\n")
      let shown := if given flags 'a' then "." :: ".." :: names
        else if given flags 'A' then names
        else names.filter fun name => !name.startsWith "."
      let lines ← listLines flags ((order shown).map fun name => (name, folder ++ "/" ++ name))
      if given flags 'l' then emitText own "total 0\n"
      emitText own (String.join (lines.map fun line => line ++ "\n"))
      listFolders own flags headed order false rest

def ls (arguments : List String) : Program Unit :=
  let own := arguments.headD "ls"
  withFlags own 2 lsFlags (arguments.drop 1) fun flags operands => do
    let order (names : List String) : List String :=
      if given flags 'r' then (namesSorted names).reverse else namesSorted names
    let operands := if operands.isEmpty then ["."] else operands
    reportMissing own operands
    let (plain, folders, clean) ← lsOperands own flags operands
    let lines ← listLines flags ((order plain).map fun path => (path, path))
    emitText own (String.join (lines.map fun line => line ++ "\n"))
    let listed ← listFolders own flags (operands.length > 1) order plain.isEmpty (order folders)
    conclude (clean && listed) 2

def pwd (arguments : List String) : Program Unit :=
  let own := arguments.headD "pwd"
  withFlags own 1 (.ofLetters "LP" "") (arguments.drop 1) fun _ operands => do
    if !operands.isEmpty then complain own "ignoring non-option arguments"
    match ← Program.currentDirectory with
    | .ok path =>
      emitText own (path ++ "\n")
      Program.exit 0
    | .error _ =>
      complain own "couldn't find directory entry in '..' with matching i-node"
      Program.exit 1

end JobShell.Tool
