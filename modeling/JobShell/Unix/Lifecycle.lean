import JobShell.Text.Utf8
import JobShell.Unix.Directory

/-!
# Calls on processes

Starting programs, waiting for children, process groups, the terminal's
foreground group and signals. A parent can move a child to another group only
until the child has started a program, and a child that has ended stays a
member of its group until it has been waited for.
-/

namespace JobShell.Unix.Kernel

set_option autoImplicit false

def defaultSearch : String := "/bin:/usr/bin"

inductive Candidate where
  | program (image : Inode) (start : List String → Program Unit)
  | script (bytes : ByteArray)
  | refused (errno : Errno)

/-- Looks at a file that is to be started. It must be a regular file with some
permission to execute. A regular file that holds no image is a script. -/
def candidate (kernel : Kernel) (pid : Pid) (path : String) : Candidate :=
  match kernel.resolve pid path true with
  | .error errno => .refused errno
  | .ok (.node inode) =>
    match kernel.tree.node? inode with
    | some { content := .image start, mode := mode, .. } =>
      if mode &&& 0o111 = 0 then .refused .accessDenied else .program inode start
    | some { content := .file bytes, mode := mode, .. } =>
      if mode &&& 0o111 = 0 then .refused .accessDenied else .script bytes
    | _ => .refused .accessDenied
  | .ok _ => .refused .accessDenied

def interpreterLineLimit : Nat := 255

/-- The interpreter that the first line of a script names behind a mark, and at
most one argument, which is all that follows. A name that is cut off does not
count. -/
def interpreterLine? (bytes : ByteArray) : Option (String × List String) :=
  let isBlank (byte : UInt8) : Bool := byte == 32 || byte == 9
  let trimmed (text : List UInt8) : List UInt8 :=
    ((text.dropWhile isBlank).reverse.dropWhile isBlank).reverse
  let decoded (text : List UInt8) : String := Text.Utf8.decode text
  if bytes.extract 0 2 == "#!".toUTF8 then
    let head := (bytes.extract 2 interpreterLineLimit).data.toList
    let isWhole := bytes.size ≤ interpreterLineLimit || head.contains 10
    let line := trimmed (head.takeWhile fun byte => byte != 10 && byte != 0)
    let name := line.takeWhile fun byte => !isBlank byte
    let argument := trimmed (line.drop name.length)
    if name.isEmpty || (!isWhole && argument.isEmpty) then none
    else some (decoded name, if argument.isEmpty then [] else [decoded argument])
  else none

/-- Replaces the program of a process. Descriptors marked for it are closed,
ignored signals stay ignored and none is caught any more. -/
def become (kernel : Kernel) (pid : Pid) (name : String) (image : Inode)
    (program : Program Unit) : Kernel :=
  kernel.update pid fun process =>
    { process with
      descriptors := process.descriptors.afterExecute
      caught := []
      arrived := []
      name := String.ofList (name.toList.take 15)
      image := image
      executed := true
      program := program }

def scriptInterpreter : String := "/bin/sh"

def interpreterLimit : Nat := 5

/-- Starts the file at a path under a name. A script stands for its interpreter,
which may be a script itself. -/
def startNamed (kernel : Kernel) (pid : Pid) (name : String) :
    Nat → String → List String → Except Errno Kernel
  | 0, _, _ => .error .linkLoop
  | scripts + 1, path, arguments =>
    match kernel.candidate pid path with
    | .refused errno => .error errno
    | .program image start => .ok (kernel.become pid name image (start arguments))
    | .script bytes =>
      match interpreterLine? bytes with
      | none => .error .notExecutable
      | some (interpreter, options) =>
        kernel.startNamed pid name scripts interpreter
          (interpreter :: options ++ path :: arguments.drop 1)

/-- Starts the file at a path. One that can be started in no other way is given
to the interpreter of scripts. -/
def startFile (kernel : Kernel) (pid : Pid) (path : String) (arguments : List String) :
    Except Errno Kernel :=
  let start (file : String) (arguments : List String) : Except Errno Kernel :=
    kernel.startNamed pid (Path.lastName file) (interpreterLimit + 1) file arguments
  match start path arguments with
  | .error .notExecutable =>
    start scriptInterpreter (scriptInterpreter :: path :: arguments.drop 1)
  | result => result

/-- Tries the directories of the search path in order. A file that may not be
executed is passed over and only reported when no other is found. -/
def search (kernel : Kernel) (pid : Pid) (arguments : List String) (name : String) :
    Bool → List String → Except Errno Kernel
  | denied, [] => .error (if denied then .accessDenied else .noEntry)
  | denied, directory :: rest =>
    let path := if directory.isEmpty then name else directory ++ "/" ++ name
    match kernel.startFile pid path arguments with
    | .ok started => .ok started
    | .error .accessDenied => kernel.search pid arguments name true rest
    | .error .noEntry | .error .notDirectory => kernel.search pid arguments name denied rest
    | .error errno => .error errno

/-- Starts the program named by the first argument. A name with a slash is a
path; any other is searched for in the directories of the environment. -/
def execute (kernel : Kernel) (pid : Pid) (arguments : List String) : Except Errno Kernel :=
  match arguments with
  | [] => .error .noEntry
  | name :: _ =>
    if name.isEmpty then .error .noEntry
    else if name.contains '/' then kernel.startFile pid name arguments
    else if name.utf8ByteSize > Path.nameLimit then .error .nameTooLong
    else
      let environment := ((kernel.process? pid).map Process.environment).getD []
      let directories := (environment.lookup "PATH").getD defaultSearch
      kernel.search pid arguments name false (directories.splitOn ":")

/-- Asks about a child. A child that has ended is gone once this was told. -/
def wait (kernel : Kernel) (pid child : Pid) (reportStops : Bool) : Outcome WaitAnswer :=
  match kernel.process? child with
  | none => .replied (.failed .noChild) kernel
  | some process =>
    if process.parent != pid then .replied (.failed .noChild) kernel
    else
      match process.phase with
      | .running => .pending kernel
      | .stopped signal reported =>
        if reportStops && !reported then
          .replied (.stopped signal) (kernel.setPhase child (.stopped signal true))
        else .pending kernel
      | .ended ending =>
        let collected :=
          { kernel with processes := kernel.processes.filter fun other => other.pid != child }
        match ending with
        | .exited code => .replied (.exited code) collected
        | .killed number => .replied (.killed number) collected

def joinGroup (kernel : Kernel) (pid target group : Pid) : Except Errno Unit × Kernel :=
  let subject := if target = 0 then pid else target
  let destination := if group = 0 then subject else group
  match kernel.process? pid, kernel.process? subject with
  | some caller, some process =>
    -- A process may move itself and its own children, and those only until they start a program.
    if subject != pid && process.parent != pid then (.error .noProcess, kernel)
    else if subject != pid && process.executed then (.error .accessDenied, kernel)
    else if process.session == process.pid then (.error .notPermitted, kernel)
    else if destination != subject && !kernel.processes.any fun member =>
        member.group == destination && member.session == caller.session then
      (.error .notPermitted, kernel)
    else (.ok (), kernel.update subject fun process => { process with group := destination })
  | _, _ => (.error .noProcess, kernel)

/-- Hands the terminal to a group of the caller's session. A caller in the
background is stopped unless it ignores that stop. -/
def giveTerminal (kernel : Kernel) (pid group : Pid) : Outcome (Except Errno Unit) :=
  match kernel.terminal, kernel.process? pid with
  | some terminal, some process =>
    if terminal.session != process.session || !kernel.isTerminal pid standardInput then
      .replied (.error .notTerminal) kernel
    else if terminal.foreground != process.group && !process.ignored.contains .ttou then
      .pending (kernel.deliver pid Signal.ttou.number)
    else if !kernel.processes.any fun member =>
        member.group == group && member.session == process.session then
      .replied (.error .notPermitted) kernel
    else
      .replied (.ok ()) { kernel with terminal := some { terminal with foreground := group } }
  | _, _ => .replied (.error .notTerminal) kernel

/-- Sets dispositions. Two signals keep their default ones. -/
def setSignals (kernel : Kernel) (pid : Pid) (signals : List Signal)
    (disposition : Disposition) : Kernel :=
  kernel.update pid fun process =>
    let changed := signals.filter fun signal => signal != .kill && signal != .stop
    let others (held : List Signal) : List Signal :=
      held.filter fun signal => !changed.contains signal
    { process with
      ignored := others process.ignored ++ if disposition = .ignored then changed else []
      caught := others process.caught ++ if disposition = .caught then changed else [] }

def takeArrived (kernel : Kernel) (pid : Pid) : List Signal × Kernel :=
  match kernel.process? pid with
  | none => ([], kernel)
  | some process =>
    (process.arrived.mergeSort fun first second => first.number ≤ second.number,
      kernel.update pid fun process => { process with arrived := [] })

/-- Sends a signal to a process, or to a group when the number is not
positive. -/
def sendSignal (kernel : Kernel) (pid target : Pid) (number : Nat) :
    Except Errno Unit × Kernel :=
  if number > 64 then (.error .invalidArgument, kernel)
  else if target > 0 then
    match kernel.process? target with
    | none => (.error .noProcess, kernel)
    | some _ => (.ok (), if number = 0 then kernel else kernel.deliver target number)
  else
    let group := if target = 0 then ((kernel.process? pid).map Process.group).getD 0 else -target
    if kernel.processes.any fun process => process.group == group then
      (.ok (), if number = 0 then kernel else kernel.deliverToGroup group number)
    else (.error .noProcess, kernel)

end JobShell.Unix.Kernel
