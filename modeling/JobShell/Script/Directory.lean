import JobShell.Script.Options
import JobShell.Script.State

/-!
# The working directory of a script

A script knows its working directory by the name under which it was entered, so
that two dots lead back through symbolic links. The name is an absolute path
without dots and empty names.
-/

namespace JobShell.Script

open Unix (Program Errno)

set_option autoImplicit false

/-- Goes from a place to the place that a name stands for. The names of a place are
listed from the last one on. -/
def stepInto (place : List String) (name : String) : List String :=
  if name == "" || name == "." then place
  else if name == ".." then place.drop 1
  else name :: place

/-- The name of the place that a path leads to from a directory. Two slashes in
front, and no more, are kept. -/
def pathFrom (directory : Option String) (path : String) : Option String :=
  let start : Option String := if path.startsWith "/" then some path else directory
  start.map fun start =>
    let doubled := start.startsWith "//" && !start.startsWith "///"
    let base := (start.splitOn "/").foldl stepInto []
    let place := if path.startsWith "/" then base else (path.splitOn "/").foldl stepInto base
    (if doubled then "//" else "/") ++ "/".intercalate place.reverse

def enterDirectory (state : State) (path : Option String) : State :=
  let named := { state with directory := path }.setVariable "PWD" (path.getD "")
  named.exportVariable "PWD"

def systemDirectory (state : State) (command : String) : Program (Option String) := do
  match ← Program.currentDirectory with
  | .ok path => return some path
  | .error errno =>
    state.complain (command ++ "getcwd() failed: " ++ errno.message)
    return none

def isWorkingDirectory (path : String) : Program Bool := do
  match ← Program.inspect path true, ← Program.inspect "." true with
  | .ok status, .ok here => return status.inode == here.inode
  | _, _ => return false

/-- Finds out the working directory at the start. The name that the environment
gives is kept if it is right. -/
def startDirectory (state : State) : Program State := do
  let given := ((state.valueOf? "PWD").filter fun path => path.startsWith "/")
  let known ←
    match given with
    | some path => do pure (if ← isWorkingDirectory path then some path else none)
    | none => pure none
  match known with
  | some path => return enterDirectory state (some path)
  | none => return enterDirectory state (← systemDirectory state "")

/-- Whether the options in front of the arguments ask for the name that the system
gives, the last one counting, and the arguments behind them. -/
def directoryOptions (arguments : List String) : Except String (Bool × List String) :=
  ((OptionLetters.of "LP").take arguments).map fun (options, operands) =>
    (options.getLast?.map Prod.fst == some 'P', operands)

def isSearched (path : String) : Bool :=
  let first := ((path.splitOn "/").headD "")
  !(path.startsWith "/" || first == "." || first == "..")

def searchDirectory (path : String) : List String → Program (String × Bool)
  | [] => pure (path, false)
  | folder :: rest => do
    let candidate := if folder.isEmpty then path else folder ++ "/" ++ path
    match ← Program.inspect candidate true with
    | .ok status =>
      if status.kind = .directory then return (candidate, !folder.isEmpty)
      else searchDirectory path rest
    | .error _ => searchDirectory path rest

def cdCommand (state : State) (arguments : List String) : Program (State × Flow) := do
  match directoryOptions arguments with
  | .error message => failed state ("cd: " ++ message) 2
  | .ok (physical, operands) =>
    let (wanted, back) :=
      match operands with
      | [] => ((state.valueOf? "HOME").getD "", false)
      | "-" :: _ => ((state.valueOf? "OLDPWD").getD "", true)
      | path :: _ => (path, false)
    let (target, found) ←
      if isSearched wanted then
        let path := if wanted.isEmpty then "." else wanted
        match state.valueOf? "CDPATH" with
        | some folders => searchDirectory path (folders.splitOn ":")
        | none => pure (path, false)
      else pure (wanted, false)
    let named := if physical then none else pathFrom state.directory target
    match ← Program.changeDirectory (named.getD target) with
    | .error _ => failed state ("cd: can't cd to " ++ wanted) 2
    | .ok _ =>
      let left :=
        (state.setVariable "OLDPWD" (state.directory.getD "")).exportVariable "OLDPWD"
      let place ←
        match named with
        | some path => pure (some path)
        | none => systemDirectory state "cd: "
      if back || found then
        Program.say Unix.standardOutput (place.getD "" ++ "\n")
      finished (enterDirectory left place) 0

def pwdCommand (state : State) (arguments : List String) : Program (State × Flow) := do
  match directoryOptions arguments with
  | .error message => failed state ("pwd: " ++ message) 2
  | .ok (physical, _) =>
    let place ←
      if physical then systemDirectory state "pwd: " else pure state.directory
    printing state "pwd" (place.getD "" ++ "\n").toUTF8

end JobShell.Script
