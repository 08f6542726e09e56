/-!
# Switches of a script

What can be switched on and off while a script runs. A switch has a name, and most
have a letter too.
-/

namespace JobShell.Script

set_option autoImplicit false

inductive Switch where
  | endOnFailure
  | keepPatterns
  | ignoreEnd
  | interactive
  | monitor
  | readOnlyRun
  | fromInput
  | traced
  | verbose
  | viKeys
  | emacsKeys
  | keepFiles
  | exportAll
  | notify
  | unsetIsFault
  | privileged
  | noLog
  | debug
  deriving DecidableEq, Repr

namespace Switch

def label : Switch → String × Option Char
  | .endOnFailure => ("errexit", some 'e')
  | .keepPatterns => ("noglob", some 'f')
  | .ignoreEnd => ("ignoreeof", some 'I')
  | .interactive => ("interactive", some 'i')
  | .monitor => ("monitor", some 'm')
  | .readOnlyRun => ("noexec", some 'n')
  | .fromInput => ("stdin", some 's')
  | .traced => ("xtrace", some 'x')
  | .verbose => ("verbose", some 'v')
  | .viKeys => ("vi", some 'V')
  | .emacsKeys => ("emacs", some 'E')
  | .keepFiles => ("noclobber", some 'C')
  | .exportAll => ("allexport", some 'a')
  | .notify => ("notify", some 'b')
  | .unsetIsFault => ("nounset", some 'u')
  | .privileged => ("privileged", some 'p')
  | .noLog => ("nolog", none)
  | .debug => ("debug", none)

def name (switch : Switch) : String :=
  switch.label.1

def letter? (switch : Switch) : Option Char :=
  switch.label.2

def all : List Switch :=
  [.endOnFailure, .keepPatterns, .ignoreEnd, .interactive, .monitor, .readOnlyRun, .fromInput,
    .traced, .verbose, .viKeys, .emacsKeys, .keepFiles, .exportAll, .notify, .unsetIsFault,
    .privileged, .noLog, .debug]

def ofLetter? (letter : Char) : Option Switch :=
  all.find? fun switch => switch.letter? == some letter

def ofName? (name : String) : Option Switch :=
  all.find? fun switch => switch.name == name

/-- The switches that are on after one is turned. There is at most one way of
editing lines. -/
def turn (on : Bool) (switch : Switch) (active : List Switch) : List Switch :=
  let others := active.filter fun other => other != switch
  if !on then others
  else
    switch :: others.filter fun other =>
      !((switch == .viKeys && other == .emacsKeys) || (switch == .emacsKeys && other == .viKeys))

def letters (active : List Switch) : String :=
  String.ofList ((all.reverse.filter active.contains).filterMap letter?)

def table (active : List Switch) : String :=
  "Current option settings\n" ++
    String.join (all.map fun switch =>
      let padding := String.ofList (List.replicate (16 - switch.name.length) ' ')
      switch.name ++ padding ++ (if active.contains switch then "on" else "off") ++ "\n")

def commands (active : List Switch) : String :=
  String.join (all.map fun switch =>
    "set " ++ (if active.contains switch then "-o " else "+o ") ++ switch.name ++ "\n")

end Switch

inductive SwitchRequest where
  | turned (active : List Switch) (shown : String) (left : List String)
  | refused (message : String)
  deriving Repr

namespace Switch

/-- Turns the switches of one word behind its sign. The letter `o` stands for the
name in the next word, or shows all switches if there is none. Some letters may be
meant for someone else. -/
def turnWord (others : List Char) (on : Bool) :
    List Char → List String → List Switch → String → SwitchRequest
  | [], left, active, shown => .turned active shown left
  | letter :: rest, left, active, shown =>
    if others.contains letter then turnWord others on rest left active shown
    else if letter == 'o' then
      match left with
      | [] =>
        turnWord others on rest [] active (shown ++ if on then table active else commands active)
      | name :: left =>
        match ofName? name with
        | some switch => turnWord others on rest left (turn on switch active) shown
        | none => .refused ("Illegal option " ++ (if on then "-o " else "+o ") ++ name)
    else
      match ofLetter? letter with
      | some switch => turnWord others on rest left (turn on switch active) shown
      | none => .refused ("Illegal option -" ++ letter.toString)

end Switch

end JobShell.Script
