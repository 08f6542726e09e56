import JobShell.Unix.Errno
import JobShell.Unix.PathName
import JobShell.Unix.Signal

/-!
# Programs over system calls

A program is data: it has finished with a value, or it makes one call and goes
on with the reply. The shell and the tools it starts are all programs of this
type, so one text can be run by the modelled kernel and be reasoned about under
any answers that a kernel might give.

A fork makes no new kind of program. Its continuation is followed twice, in the
parent with the child's number and in the child without one. A call that never
returns has a reply type without values.

Calls are not interrupted, as the shell catches no signal and one that is not caught
interrupts nothing. Only a wait may be answered that it was, for what the shell does
then is its own; behind the other calls a library would just ask again.
-/

namespace JobShell.Unix

set_option autoImplicit false

abbrev Descriptor := Nat

abbrev Pid := Int

def standardInput : Descriptor := 0

def standardOutput : Descriptor := 1

def standardError : Descriptor := 2

/-- How a file is opened: for reading, for writing from the start with nothing in it
or behind what it holds, or for both from the start. Writing creates a missing file
with the given mode. -/
inductive Access where
  | reading
  | truncating (mode : Nat)
  | appending (mode : Nat)
  | updating (mode : Nat)
  deriving DecidableEq, Repr

/-- What asking about a child once may answer. A signal that ended it is told by its
number, as it may be a real-time one. -/
inductive WaitAnswer where
  | exited (code : Int)
  | killed (number : Nat)
  | stopped (signal : Signal)
  | resumed
  | failed (errno : Errno)
  deriving DecidableEq, Repr

/-- What is done when a signal arrives. One that is caught waits until the
process asks for it. -/
inductive Disposition where
  | default
  | ignored
  | caught
  deriving DecidableEq, Repr

structure ProcessRecord where
  pid : Nat
  parent : Option Nat
  isThread : Bool
  deriving DecidableEq, Repr

abbrev ProcessTable := List ProcessRecord

inductive FileKind where
  | regular
  | directory
  | symbolicLink
  | characterDevice
  | pipe
  deriving DecidableEq, Repr

structure FileStatus where
  kind : FileKind
  mode : Nat
  size : Nat
  links : Nat
  inode : Nat
  deriving DecidableEq, Repr

/-- A system call. Paths and arguments given to a call hold no NUL character. -/
inductive Call where
  | pipe
  | openFile (path : PathName) (access : Access)
  | read (source : Descriptor) (limit : Nat)
  | stepBack (source : Descriptor) (count : Nat)
  | write (target : Descriptor) (bytes : ByteArray)
  | close (descriptor : Descriptor)
  | duplicate (source target : Descriptor)
  | isTerminal (descriptor : Descriptor)
  | flushOutput
  | fork
  | execute (arguments : List String)
  | exit (code : Int)
  | wait (pid : Pid) (reportStops : Bool)
  | pause
  | ownPid
  | parentPid
  | joinGroup (pid group : Pid)
  | giveTerminal (group : Pid)
  | setSignals (signals : List Signal) (disposition : Disposition)
  | arrivedSignals
  | sendSignal (pid : Pid) (number : Nat)
  | processes
  | changeDirectory (path : String)
  | currentDirectory
  | inspect (path : String) (follow : Bool)
  | makeDirectory (path : String) (mode : Nat)
  | removeDirectory (path : String)
  | removeFile (path : String)
  | linkSymbolic (target path : String)
  | linkHard (existing path : String)
  | readLink (path : String)
  | changeMode (path : String) (mode : Nat)
  | listDirectory (path : String)
  | touch (path : String) (create : Bool)
  | setMask (mask : Nat)
  | environment
  | setEnvironment (environment : List (String × String))

@[reducible] def Call.Reply : Call → Type
  | .pipe => Except Errno (Descriptor × Descriptor)
  | .openFile _ _ => Except Errno Descriptor
  | .read _ _ => Except Errno ByteArray
  | .stepBack _ _ => Except Errno Unit
  | .write _ _ => Except Errno Nat
  | .close _ => Except Errno Unit
  | .duplicate _ _ => Except Errno Unit
  | .isTerminal _ => Bool
  | .flushOutput => Except Errno Unit
  | .fork => Except Errno (Option Pid)
  | .execute _ => Errno
  | .exit _ => Empty
  | .wait _ _ => WaitAnswer
  | .pause => Empty
  | .ownPid => Pid
  | .parentPid => Pid
  | .joinGroup _ _ => Except Errno Unit
  | .giveTerminal _ => Except Errno Unit
  | .setSignals _ _ => Except Errno Unit
  | .arrivedSignals => List Signal
  | .sendSignal _ _ => Except Errno Unit
  | .processes => ProcessTable
  | .changeDirectory _ => Except Errno Unit
  | .currentDirectory => Except Errno String
  | .inspect _ _ => Except Errno FileStatus
  | .makeDirectory _ _ => Except Errno Unit
  | .removeDirectory _ => Except Errno Unit
  | .removeFile _ => Except Errno Unit
  | .linkSymbolic _ _ => Except Errno Unit
  | .linkHard _ _ => Except Errno Unit
  | .readLink _ => Except Errno String
  | .changeMode _ _ => Except Errno Unit
  | .listDirectory _ => Except Errno (List String)
  | .touch _ _ => Except Errno Unit
  | .setMask _ => Nat
  | .environment => List (String × String)
  | .setEnvironment _ => Unit

/-- Whether a call leaves alone the caller's descriptors, its children, its group, its
terminal and its signals. -/
def Call.keepsProcess : Call → Bool
  | .pipe | .openFile _ _ | .close _ | .duplicate _ _ | .fork | .execute _ | .wait _ _
  | .joinGroup _ _ | .giveTerminal _ | .setSignals _ _ | .sendSignal _ _ => false
  | _ => true

def Call.neverReplies : Call → Bool
  | .exit _ | .pause => true
  | _ => false

/-- A program that ends with a value, if it ends. -/
inductive Program (α : Type) : Type where
  | done (value : α)
  | call (request : Call) (next : request.Reply → Program α)

namespace Program

variable {α β : Type}

def bind (first : Program α) (following : α → Program β) : Program β :=
  match first with
  | .done value => following value
  | .call request next => .call request fun reply => (next reply).bind following

instance : Monad Program where
  pure := .done
  bind := bind

theorem bind_assoc {γ : Type} (first : Program α) (second : α → Program β)
    (third : β → Program γ) :
    (first.bind second).bind third = first.bind fun value => (second value).bind third := by
  induction first with
  | done value => rfl
  | call request next ih => simp only [bind, ih]

theorem bind_done (program : Program α) : program.bind .done = program := by
  induction program with
  | done value => rfl
  | call request next ih => simp only [bind, ih]

def OnlyCalls (allowed : Call → Bool) : Program α → Prop
  | .done _ => True
  | .call request next => allowed request = true ∧ ∀ reply, (next reply).OnlyCalls allowed

theorem only_calls_bind {allowed : Call → Bool} {first : Program α} {following : α → Program β}
    (onlyFirst : first.OnlyCalls allowed)
    (onlyFollowing : ∀ value, (following value).OnlyCalls allowed) :
    (first.bind following).OnlyCalls allowed := by
  induction first with
  | done value => exact onlyFollowing value
  | call request next ih =>
      obtain ⟨isAllowed, onlyNext⟩ := onlyFirst
      exact ⟨isAllowed, fun reply => ih reply (onlyNext reply)⟩

def discard (program : Program α) : Program Unit :=
  program.bind fun _ => .done ()

def request (call : Call) : Program call.Reply :=
  .call call .done

/-- Makes a pipe whose ends are closed when a program is executed. -/
def pipe : Program (Except Errno (Descriptor × Descriptor)) :=
  request .pipe

/-- Opens a file on a descriptor that is closed when a program is executed. -/
def openFile (path : PathName) (access : Access) : Program (Except Errno Descriptor) :=
  request (.openFile path access)

/-- Reads at most so many bytes. No bytes mean the end of the input. -/
def read (source : Descriptor) (limit : Nat) : Program (Except Errno ByteArray) :=
  request (.read source limit)

def stepBack (source : Descriptor) (count : Nat) : Program (Except Errno Unit) :=
  request (.stepBack source count)

def write (target : Descriptor) (bytes : ByteArray) : Program (Except Errno Nat) :=
  request (.write target bytes)

def close (descriptor : Descriptor) : Program (Except Errno Unit) :=
  request (.close descriptor)

/-- Makes the target a copy of the source that stays open when a program is
executed. -/
def duplicate (source target : Descriptor) : Program (Except Errno Unit) :=
  request (.duplicate source target)

def isTerminal (descriptor : Descriptor) : Program Bool :=
  request (.isTerminal descriptor)

def flushOutput : Program (Except Errno Unit) :=
  request .flushOutput

/-- Makes a child that goes on from the same point without a child's number. -/
def fork : Program (Except Errno (Option Pid)) :=
  request .fork

/-- Replaces the running program; there is a reply only when this fails. -/
def execute (arguments : List String) : Program Errno :=
  request (.execute arguments)

def exit (code : Int) : Program α :=
  .call (.exit code) fun never => nomatch never

def wait (pid : Pid) (reportStops : Bool) : Program WaitAnswer :=
  request (.wait pid reportStops)

/-- Sleeps until a caught signal comes, which is for ever in a process that catches none. -/
def pause : Program α :=
  .call .pause fun never => nomatch never

def ownPid : Program Pid :=
  request .ownPid

def parentPid : Program Pid :=
  request .parentPid

/-- Puts a process, or with zero the calling one, into a process group. -/
def joinGroup (pid group : Pid) : Program (Except Errno Unit) :=
  request (.joinGroup pid group)

def giveTerminal (group : Pid) : Program (Except Errno Unit) :=
  request (.giveTerminal group)

def setSignals (signals : List Signal) (disposition : Disposition) :
    Program (Except Errno Unit) :=
  request (.setSignals signals disposition)

def arrivedSignals : Program (List Signal) :=
  request .arrivedSignals

def sendSignal (pid : Pid) (number : Nat) : Program (Except Errno Unit) :=
  request (.sendSignal pid number)

def processes : Program ProcessTable :=
  request .processes

def changeDirectory (path : String) : Program (Except Errno Unit) :=
  request (.changeDirectory path)

def currentDirectory : Program (Except Errno String) :=
  request .currentDirectory

def inspect (path : String) (follow : Bool) : Program (Except Errno FileStatus) :=
  request (.inspect path follow)

def setMask (mask : Nat) : Program Nat :=
  request (.setMask mask)

def environment : Program (List (String × String)) :=
  request .environment

def setEnvironment (environment : List (String × String)) : Program Unit :=
  request (.setEnvironment environment)

/-- Writes every byte, as long as each call accepts some of them. A call that
accepts none is a failure, as there would be no end otherwise. -/
def writeFrom (target : Descriptor) : Nat → ByteArray → Program (Except Errno Unit)
  | 0, _ => .done (.ok ())
  | turns + 1, bytes => do
    if bytes.size = 0 then return .ok ()
    match ← write target bytes with
    | .error errno => return .error errno
    | .ok 0 => return .error .ioFailure
    | .ok (count + 1) => writeFrom target turns (bytes.extract (count + 1) bytes.size)

def writeAll (target : Descriptor) (bytes : ByteArray) : Program (Except Errno Unit) :=
  writeFrom target bytes.size bytes

/-- Writes a text and does not care whether that works. -/
def say (target : Descriptor) (text : String) : Program Unit := do
  let _ ← writeAll target text.toUTF8

def panicCode : Int := 101

/-- Writes a text to a standard descriptor. One that is closed swallows the text, and any
other refusal is a panic, whose own report is left out here. -/
def print (target : Descriptor) (text : String) : Program Unit := do
  match ← writeAll target text.toUTF8 with
  | .ok _ | .error .badDescriptor => return ()
  | .error _ => exit panicCode

theorem write_from_only_calls {allowed : Call → Bool} {target : Descriptor}
    (writes : ∀ bytes, allowed (.write target bytes) = true) (turns : Nat) (bytes : ByteArray) :
    (writeFrom target turns bytes).OnlyCalls allowed := by
  induction turns generalizing bytes with
  | zero => exact trivial
  | succ turns ih =>
      rw [writeFrom]
      split
      · exact trivial
      · refine ⟨writes bytes, fun reply => ?_⟩
        rcases reply with errno | (_ | count)
        · exact trivial
        · exact trivial
        · exact ih _

theorem say_keeps_process (target : Descriptor) (text : String) :
    (say target text).OnlyCalls Call.keepsProcess :=
  only_calls_bind (write_from_only_calls (fun _ => rfl) _ _) fun _ => trivial

def printed : Except Errno Unit → Program Unit
  | .ok _ | .error .badDescriptor => .done ()
  | .error _ => exit panicCode

theorem print_eq (target : Descriptor) (text : String) :
    print target text = (writeAll target text.toUTF8).bind printed := by
  refine congrArg (Program.bind _) (funext fun written => ?_)
  rcases written with errno | _
  · cases errno <;> rfl
  · rfl

theorem print_only_calls {allowed : Call → Bool} {target : Descriptor}
    (writes : ∀ bytes, allowed (.write target bytes) = true)
    (panics : allowed (.exit panicCode) = true) (text : String) :
    (print target text).OnlyCalls allowed := by
  rw [print_eq]
  refine only_calls_bind (write_from_only_calls writes _ _) fun written => ?_
  unfold printed
  split
  · exact trivial
  · exact trivial
  · exact ⟨panics, fun never => nomatch never⟩

theorem print_keeps_process (target : Descriptor) (text : String) :
    (print target text).OnlyCalls Call.keepsProcess :=
  print_only_calls (fun _ => rfl) rfl text

end Program

end JobShell.Unix
