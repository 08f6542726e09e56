/-!
# Error numbers of system calls

Each failure of a system call has a number, a symbol and two wordings. The
message is the one of the C library and stands after a redirection's path. The
description is the one shown for a failed `cd`, a failed program start and a
failed pipe or fork, and differs from the message for a few numbers.
-/

namespace JobShell.Unix

set_option autoImplicit false

inductive Errno where
  | notPermitted
  | noEntry
  | noProcess
  | interrupted
  | ioFailure
  | noDeviceAddress
  | argumentsTooLong
  | notExecutable
  | badDescriptor
  | noChild
  | tryAgain
  | outOfMemory
  | accessDenied
  | badAddress
  | blockDeviceRequired
  | busy
  | exists
  | crossDevice
  | noDevice
  | notDirectory
  | isDirectory
  | invalidArgument
  | fileTableFull
  | tooManyOpen
  | notTerminal
  | textBusy
  | fileTooLarge
  | noSpace
  | illegalSeek
  | readOnly
  | tooManyLinks
  | brokenPipe
  | outOfDomain
  | outOfRange
  | deadlock
  | nameTooLong
  | noLocks
  | notImplemented
  | notEmpty
  | linkLoop
  deriving DecidableEq, Repr

namespace Errno

structure Facts where
  code : Nat
  symbol : String
  message : String
  description : String
  deriving DecidableEq, Repr

def facts : Errno → Facts
  | .notPermitted => ⟨1, "EPERM", "Operation not permitted", "Operation not permitted"⟩
  | .noEntry => ⟨2, "ENOENT", "No such file or directory", "No such file or directory"⟩
  | .noProcess => ⟨3, "ESRCH", "No such process", "No such process"⟩
  | .interrupted => ⟨4, "EINTR", "Interrupted system call", "Interrupted system call"⟩
  | .ioFailure => ⟨5, "EIO", "Input/output error", "I/O error"⟩
  | .noDeviceAddress => ⟨6, "ENXIO", "No such device or address", "No such device or address"⟩
  | .argumentsTooLong => ⟨7, "E2BIG", "Argument list too long", "Argument list too long"⟩
  | .notExecutable => ⟨8, "ENOEXEC", "Exec format error", "Exec format error"⟩
  | .badDescriptor => ⟨9, "EBADF", "Bad file descriptor", "Bad file number"⟩
  | .noChild => ⟨10, "ECHILD", "No child processes", "No child processes"⟩
  | .tryAgain => ⟨11, "EAGAIN", "Resource temporarily unavailable", "Try again"⟩
  | .outOfMemory => ⟨12, "ENOMEM", "Cannot allocate memory", "Out of memory"⟩
  | .accessDenied => ⟨13, "EACCES", "Permission denied", "Permission denied"⟩
  | .badAddress => ⟨14, "EFAULT", "Bad address", "Bad address"⟩
  | .blockDeviceRequired => ⟨15, "ENOTBLK", "Block device required", "Block device required"⟩
  | .busy => ⟨16, "EBUSY", "Device or resource busy", "Device or resource busy"⟩
  | .exists => ⟨17, "EEXIST", "File exists", "File exists"⟩
  | .crossDevice => ⟨18, "EXDEV", "Invalid cross-device link", "Cross-device link"⟩
  | .noDevice => ⟨19, "ENODEV", "No such device", "No such device"⟩
  | .notDirectory => ⟨20, "ENOTDIR", "Not a directory", "Not a directory"⟩
  | .isDirectory => ⟨21, "EISDIR", "Is a directory", "Is a directory"⟩
  | .invalidArgument => ⟨22, "EINVAL", "Invalid argument", "Invalid argument"⟩
  | .fileTableFull => ⟨23, "ENFILE", "Too many open files in system", "File table overflow"⟩
  | .tooManyOpen => ⟨24, "EMFILE", "Too many open files", "Too many open files"⟩
  | .notTerminal => ⟨25, "ENOTTY", "Inappropriate ioctl for device", "Not a typewriter"⟩
  | .textBusy => ⟨26, "ETXTBSY", "Text file busy", "Text file busy"⟩
  | .fileTooLarge => ⟨27, "EFBIG", "File too large", "File too large"⟩
  | .noSpace => ⟨28, "ENOSPC", "No space left on device", "No space left on device"⟩
  | .illegalSeek => ⟨29, "ESPIPE", "Illegal seek", "Illegal seek"⟩
  | .readOnly => ⟨30, "EROFS", "Read-only file system", "Read-only file system"⟩
  | .tooManyLinks => ⟨31, "EMLINK", "Too many links", "Too many links"⟩
  | .brokenPipe => ⟨32, "EPIPE", "Broken pipe", "Broken pipe"⟩
  | .outOfDomain =>
    ⟨33, "EDOM", "Numerical argument out of domain", "Math argument out of domain of func"⟩
  | .outOfRange => ⟨34, "ERANGE", "Numerical result out of range", "Math result not representable"⟩
  | .deadlock => ⟨35, "EDEADLK", "Resource deadlock avoided", "Resource deadlock would occur"⟩
  | .nameTooLong => ⟨36, "ENAMETOOLONG", "File name too long", "File name too long"⟩
  | .noLocks => ⟨37, "ENOLCK", "No locks available", "No record locks available"⟩
  | .notImplemented => ⟨38, "ENOSYS", "Function not implemented", "Function not implemented"⟩
  | .notEmpty => ⟨39, "ENOTEMPTY", "Directory not empty", "Directory not empty"⟩
  | .linkLoop =>
    ⟨40, "ELOOP", "Too many levels of symbolic links", "Too many symbolic links encountered"⟩

def code (errno : Errno) : Nat :=
  errno.facts.code

def symbol (errno : Errno) : String :=
  errno.facts.symbol

def message (errno : Errno) : String :=
  errno.facts.message

/-- The wording shown for a failed `cd` or program start. -/
def description (errno : Errno) : String :=
  errno.facts.description

def all : List Errno :=
  [.notPermitted, .noEntry, .noProcess, .interrupted, .ioFailure, .noDeviceAddress,
   .argumentsTooLong, .notExecutable, .badDescriptor, .noChild, .tryAgain, .outOfMemory,
   .accessDenied, .badAddress, .blockDeviceRequired, .busy, .exists, .crossDevice,
   .noDevice, .notDirectory, .isDirectory, .invalidArgument, .fileTableFull, .tooManyOpen,
   .notTerminal, .textBusy, .fileTooLarge, .noSpace, .illegalSeek, .readOnly,
   .tooManyLinks, .brokenPipe, .outOfDomain, .outOfRange, .deadlock, .nameTooLong,
   .noLocks, .notImplemented, .notEmpty, .linkLoop]

def ofCode? (code : Nat) : Option Errno :=
  all.find? fun errno => errno.code == code

/-- The error as file operations show it, with the number in parentheses. -/
def ioMessage (errno : Errno) : String :=
  errno.message ++ " (os error " ++ toString errno.code ++ ")"

/-- The error as process operations show it, led by its symbol. -/
def symbolicMessage (errno : Errno) : String :=
  errno.symbol ++ ": " ++ errno.description

theorem of_code_code (errno : Errno) : ofCode? errno.code = some errno := by
  cases errno <;> decide

end Errno

end JobShell.Unix
