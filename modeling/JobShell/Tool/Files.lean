import JobShell.Tool.Directory

/-!
# Tools on files

`rm`, `ln`, `touch`, `stat` and `readlink`.
-/

namespace JobShell.Tool

open Unix (Program Errno FileStatus FileKind)

set_option autoImplicit false

def rm (arguments : List String) : Program Unit :=
  let own := arguments.headD "rm"
  withFlags own 1 (.ofLetters "fiv" "") (arguments.drop 1) fun flags operands => do
    if !given flags 'f' then needOperand own "operand" operands
    let clean ← allOperands
      (fun path => do
        match ← Program.request (.removeFile path) with
        | .ok _ =>
          if given flags 'v' then
            emitText own ("removed " ++ Text.ShellWord.quoted path ++ "\n")
          return true
        | .error errno =>
          if errno = .noEntry && given flags 'f' then return true
          else
            complain own (because ("cannot remove " ++ Text.ShellWord.quoted path) errno)
            return false)
      operands
    conclude clean 1

def linkFailure (symbolic : Bool) (target path : String) (errno : Errno) : String :=
  let shown := Text.ShellWord.quoted path
  let both := shown ++ " -> " ++ Text.ShellWord.quoted target
  if symbolic then
    because ("failed to create symbolic link " ++ (if target.isEmpty then both else shown)) errno
  else if errno = .exists || errno = .noSpace || errno = .readOnly then
    because ("failed to create hard link " ++ shown) errno
  else
    because ("failed to create hard link " ++ shown ++ " => " ++ Text.ShellWord.quoted target) errno

def linkOne (own : String) (flags : List Flag) (target path : String) : Program Bool := do
  let symbolic := given flags 's'
  let failed (message : String) : Program Bool := do
    complain own message
    return false
  let source ← Program.inspect target symbolic
  let make : Program (Except Errno Unit) :=
    if symbolic then Program.request (.linkSymbolic target path)
    else Program.request (.linkHard target path)
  match source, symbolic with
  | .error errno, false =>
    failed (because ("failed to access " ++ Text.ShellWord.quoted target) errno)
  | _, _ =>
    let isFolder := match source with
      | .ok status => status.kind == .directory
      | .error _ => false
    if isFolder && !symbolic then
      failed (Text.ShellWord.shown target ++ ": hard link not allowed for directory")
    else
      let present ← Program.inspect path false
      let same :=
        match source, present with
        | .ok source, .ok present => source.inode == present.inode
        | _, _ => false
      if given flags 'f' && same then
        failed (Text.ShellWord.quoted target ++ " and " ++ Text.ShellWord.quoted path ++
          " are the same file")
      else
        let result ←
          match ← make, given flags 'f' with
          | .error .exists, true => do
            let _ ← Program.request (.removeFile path)
            make
          | other, _ => pure other
        match result with
        | .ok _ =>
          if given flags 'v' then
            emitText own (Text.ShellWord.quoted path ++ (if symbolic then " -> " else " => ") ++
              Text.ShellWord.quoted target ++ "\n")
          return true
        | .error errno => failed (linkFailure symbolic target path errno)

/-- Whether the last operand is a directory to link into. A link to one counts
unless it is to be taken as a file. -/
def linkFolder (flags : List Flag) (path : String) : Program (Except Errno Bool) := do
  match ← Program.inspect path (!given flags 'n') with
  | .ok status => return .ok (status.kind == .directory)
  | .error errno => return .error errno

def lnFlags : FlagTable :=
  { FlagTable.ofLetters "sfnvrT" "" with
    long := [("force", 'f'), ("no-dereference", 'n'), ("no-target-directory", 'T'),
      ("symbolic", 's'), ("verbose", 'v')] }

def ln (arguments : List String) : Program Unit :=
  let own := arguments.headD "ln"
  withFlags own 1 lnFlags (arguments.drop 1) fun flags operands => do
    needOperand own "file operand" operands
    let into (directory target : String) : String :=
      (if directory.endsWith "/" then directory else directory ++ "/") ++
        Unix.Path.lastName target
    match operands with
    | [target] => conclude (← linkOne own flags target (into "." target)) 1
    | _ =>
      let last := operands.getLast?.getD ""
      let targets := operands.dropLast
      let folder ← linkFolder flags last
      let inside := match folder with
        | .ok isFolder => isFolder && !given flags 'T'
        | .error _ => false
      if targets.length > 1 && !inside then
        let errno := match folder with
          | .ok _ => Errno.notDirectory
          | .error errno => errno
        complain own (because ("target " ++ Text.ShellWord.quoted last) errno)
        Program.exit 1
      let clean ← allOperands
        (fun target => linkOne own flags target (if inside then into last target else last)) targets
      conclude clean 1

def touch (arguments : List String) : Program Unit :=
  let own := arguments.headD "touch"
  let table : FlagTable :=
    { FlagTable.ofLetters "acfhm" "tdr" with
      long := [("no-create", 'c'), ("date", 'd'), ("reference", 'r')] }
  withFlags own 1 table (arguments.drop 1) fun flags operands => do
    needOperand own "file operand" operands
    let clean ← allOperands
      (fun path => do
        match ← Program.request (.touch path (!given flags 'c')) with
        | .ok _ => return true
        | .error .isDirectory =>
          let errno := match ← Program.inspect path true with
            | .error errno => errno
            | .ok _ => .noEntry
          complain own (because ("setting times of " ++ Text.ShellWord.quoted path) errno)
          return false
        | .error errno =>
          complain own (because ("cannot touch " ++ Text.ShellWord.quoted path) errno)
          return false)
      operands
    conclude clean 1

def kindName (status : FileStatus) : String :=
  match status.kind with
  | .regular => if status.size = 0 then "regular empty file" else "regular file"
  | .directory => "directory"
  | .symbolicLink => "symbolic link"
  | .characterDevice => "character special file"
  | .pipe => "fifo"

def kindBits : FileKind → Nat
  | .regular => 0o100000
  | .directory => 0o040000
  | .symbolicLink => 0o120000
  | .characterDevice => 0o020000
  | .pipe => 0o010000

def statField (path : String) (target : Option String) (status : FileStatus) : Char → String
  | 'a' => Text.octal status.mode
  | 'A' => kindLetter status.kind ++ modeLetters status.mode
  | 'B' => "512"
  | 'f' => Text.hexadecimal (kindBits status.kind + status.mode)
  | 's' => toString status.size
  | 'n' => path
  | 'N' =>
    Text.ShellWord.quoted path ++
      (target.map fun target => " -> " ++ Text.ShellWord.quoted target).getD ""
  | 'F' => kindName status
  | 'h' => toString status.links
  | 'i' => toString status.inode
  | 'o' => "4096"
  | 'u' | 'g' => "0"
  | 'U' | 'G' => "root"
  | '%' => "%"
  | _ => "?"

def statText (field : Char → String) : List Char → String
  | [] => ""
  | '%' :: letter :: rest => field letter ++ statText field rest
  | character :: rest => character.toString ++ statText field rest

def stat (arguments : List String) : Program Unit :=
  let own := arguments.headD "stat"
  let table : FlagTable :=
    { FlagTable.ofLetters "Lt" "c" with long := [("dereference", 'L'), ("format", 'c')] }
  withFlags own 1 table (arguments.drop 1) fun flags operands => do
    needOperand own "operand" operands
    let clean ← allOperands
      (fun path => do
        match ← Program.inspect path (given flags 'L') with
        | .error errno =>
          complain own (because ("cannot statx " ++ Text.ShellWord.quoted path) errno)
          return false
        | .ok status =>
          let target ←
            if status.kind = .symbolicLink then do
              match ← Program.request (.readLink path) with
              | .ok target => pure (some target)
              | .error _ => pure none
            else pure none
          match valueOf? flags 'c' with
          | some format =>
            emitText own (statText (statField path target status) format.toList ++ "\n")
          | none =>
            emitText own ("  File: " ++ path ++ "\n  Size: " ++ toString status.size ++ "\n")
          return true)
      operands
    conclude clean 1

inductive Existence where
  | all
  | allButLast
  | none
  deriving DecidableEq, Repr

/-- Follows the names of a path from a directory with links resolved. Fuel bounds the
number of names and links. -/
def resolveNames (existence : Existence) : Nat → String → List String →
    Program (Except Errno String)
  | 0, _, _ => pure (.error .linkLoop)
  | _, place, [] => pure (.ok (if place.isEmpty then "/" else place))
  | turns + 1, place, name :: rest => do
    if name = "" || name = "." then resolveNames existence turns place rest
    else if name = ".." then
      let parts := place.splitOn "/"
      resolveNames existence turns ("/".intercalate parts.dropLast) rest
    else
      let path := place ++ "/" ++ name
      let last := rest.all fun name => name == ""
      match ← Program.inspect path false with
      | .error errno =>
        if existence = .none || (existence = .allButLast && last && errno = .noEntry) then
          resolveNames existence turns path rest
        else return .error errno
      | .ok status =>
        if status.kind = .symbolicLink then
          match ← Program.request (.readLink path) with
          | .error errno => return .error errno
          | .ok target =>
            let start := if target.startsWith "/" then "" else place
            resolveNames existence turns start (target.splitOn "/" ++ rest)
        else if status.kind != .directory && !rest.isEmpty && existence != .none then
          return .error .notDirectory
        else resolveNames existence turns path rest

def resolvePath (existence : Existence) (path : String) : Program (Except Errno String) := do
  if path.isEmpty then return .error .noEntry
  else
    let start ←
      if path.startsWith "/" then pure (.ok "")
      else Program.currentDirectory
    match start with
    | .error errno => return .error errno
    | .ok start =>
      resolveNames existence 4096 (if start = "/" then "" else start) (path.splitOn "/")

def readlinkFlags : FlagTable :=
  { FlagTable.ofLetters "femnqsvz" "" with
    long := [("canonicalize", 'f'), ("canonicalize-existing", 'e'), ("canonicalize-missing", 'm'),
      ("no-newline", 'n'), ("quiet", 'q'), ("silent", 's'), ("verbose", 'v'), ("zero", 'z')] }

def readlink (arguments : List String) : Program Unit :=
  let own := arguments.headD "readlink"
  withFlags own 1 readlinkFlags (arguments.drop 1) fun flags operands => do
    needOperand own "operand" operands
    let read (path : String) : Program (Except Errno String) :=
      if given flags 'f' then resolvePath .allButLast path
      else if given flags 'e' then resolvePath .all path
      else if given flags 'm' then resolvePath .none path
      else Program.request (.readLink path)
    if given flags 'n' && operands.length > 1 then
      complain own "ignoring --no-newline with multiple arguments"
    let ending :=
      if given flags 'n' && operands.length = 1 then ""
      else if given flags 'z' then "\x00" else "\n"
    let clean ← allOperands
      (fun path => do
        match ← read path with
        | .ok target =>
          emitText own (target ++ ending)
          return true
        | .error errno =>
          if given flags 'v' then complain own (because (Text.ShellWord.shown path) errno)
          return false)
      operands
    conclude clean 1

end JobShell.Tool
