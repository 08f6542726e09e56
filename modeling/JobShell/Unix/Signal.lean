/-!
# Signals

The standard signals, numbered from 1 to 31. Higher numbers are real-time
signals: a process can be ended by one, but it has no name here.
-/

namespace JobShell.Unix

set_option autoImplicit false

inductive Signal where
  | hup
  | int
  | quit
  | ill
  | trap
  | abrt
  | bus
  | fpe
  | kill
  | usr1
  | segv
  | usr2
  | pipe
  | alrm
  | term
  | stkflt
  | chld
  | cont
  | stop
  | tstp
  | ttin
  | ttou
  | urg
  | xcpu
  | xfsz
  | vtalrm
  | prof
  | winch
  | poll
  | pwr
  | sys
  deriving DecidableEq, Repr

namespace Signal

def facts : Signal → Nat × String × String
  | .hup => (1, "SIGHUP", "Hangup")
  | .int => (2, "SIGINT", "Interrupt")
  | .quit => (3, "SIGQUIT", "Quit")
  | .ill => (4, "SIGILL", "Illegal instruction")
  | .trap => (5, "SIGTRAP", "Trace/breakpoint trap")
  | .abrt => (6, "SIGABRT", "Aborted")
  | .bus => (7, "SIGBUS", "Bus error")
  | .fpe => (8, "SIGFPE", "Floating point exception")
  | .kill => (9, "SIGKILL", "Killed")
  | .usr1 => (10, "SIGUSR1", "User defined signal 1")
  | .segv => (11, "SIGSEGV", "Segmentation fault")
  | .usr2 => (12, "SIGUSR2", "User defined signal 2")
  | .pipe => (13, "SIGPIPE", "Broken pipe")
  | .alrm => (14, "SIGALRM", "Alarm clock")
  | .term => (15, "SIGTERM", "Terminated")
  | .stkflt => (16, "SIGSTKFLT", "Stack fault")
  | .chld => (17, "SIGCHLD", "Child exited")
  | .cont => (18, "SIGCONT", "Continued")
  | .stop => (19, "SIGSTOP", "Stopped (signal)")
  | .tstp => (20, "SIGTSTP", "Stopped")
  | .ttin => (21, "SIGTTIN", "Stopped (tty input)")
  | .ttou => (22, "SIGTTOU", "Stopped (tty output)")
  | .urg => (23, "SIGURG", "Urgent I/O condition")
  | .xcpu => (24, "SIGXCPU", "CPU time limit exceeded")
  | .xfsz => (25, "SIGXFSZ", "File size limit exceeded")
  | .vtalrm => (26, "SIGVTALRM", "Virtual timer expired")
  | .prof => (27, "SIGPROF", "Profiling timer expired")
  | .winch => (28, "SIGWINCH", "Window changed")
  | .poll => (29, "SIGIO", "I/O possible")
  | .pwr => (30, "SIGPWR", "Power failure")
  | .sys => (31, "SIGSYS", "Bad system call")

def number (signal : Signal) : Nat :=
  signal.facts.1

def name (signal : Signal) : String :=
  signal.facts.2.1

def description (signal : Signal) : String :=
  signal.facts.2.2

def all : List Signal :=
  [.hup, .int, .quit, .ill, .trap, .abrt, .bus, .fpe, .kill, .usr1, .segv, .usr2, .pipe,
   .alrm, .term, .stkflt, .chld, .cont, .stop, .tstp, .ttin, .ttou, .urg, .xcpu, .xfsz,
   .vtalrm, .prof, .winch, .poll, .pwr, .sys]

def ofNumber? (number : Nat) : Option Signal :=
  all.find? fun signal => signal.number == number

def ofName? (name : String) : Option Signal :=
  all.find? fun signal => signal.name == name

theorem of_number_number (signal : Signal) : ofNumber? signal.number = some signal := by
  cases signal <;> decide

theorem of_name_name (signal : Signal) : ofName? signal.name = some signal := by
  cases signal <;> decide

end Signal

def lastSignal : Nat := 64

def firstRealTime : Nat := 34

def describeSignal (number : Nat) : String :=
  match Signal.ofNumber? number with
  | some signal => signal.description
  | none =>
    if firstRealTime ≤ number && number ≤ lastSignal then
      "Real-time signal " ++ toString (number - firstRealTime)
    else "Unknown signal " ++ toString number

inductive DefaultAction where
  | ends
  | stops
  | resumes
  | nothing
  deriving DecidableEq, Repr

/-- The default action of a signal number. Real-time signals end a process. -/
def defaultAction (number : Nat) : DefaultAction :=
  match Signal.ofNumber? number with
  | some .stop | some .tstp | some .ttin | some .ttou => .stops
  | some .cont => .resumes
  | some .chld | some .urg | some .winch => .nothing
  | _ => .ends

end JobShell.Unix
