import JobShell.Tool.Basic
import JobShell.Unix.Boot

/-!
# Gathered output

Most tools do not write at once what they print. It is gathered and written in whole
blocks, and what is left is written before a complaint and at the end. A tool only
learns at the end that its output could not be written, and then says so.

A program that prints is turned into one that gathers by going through its calls.
-/

namespace JobShell.Tool

open Unix (Program Errno)

set_option autoImplicit false

/-- How a tool gathers: its code when the output cannot be written, whether each print
is written at once, whether a complaint waits for the output before it, and what is
said of a block that cannot be written. Nothing means that this is only remembered. -/
structure Gathering where
  failure : Int
  atOnce : Bool
  beforeComplaints : Bool
  ofBlock : Option (Errno → String)

namespace Gathering

def usual : Gathering :=
  ⟨1, false, true, some (because "write error")⟩

def withCode (failure : Int) : Gathering :=
  { usual with failure := failure }

def byLine : Gathering :=
  { usual with atOnce := true }

def naming : Gathering :=
  { usual with ofBlock := some (because "error writing 'standard output'") }

def loose : Gathering :=
  { usual with beforeComplaints := false, ofBlock := none }

end Gathering

/-- Output that waits to be written, and whether some before it was lost. -/
structure Waiting where
  held : ByteArray
  lost : Bool

def Waiting.nothing : Waiting :=
  ⟨ByteArray.empty, false⟩

def Waiting.write (waiting : Waiting) : Program Waiting := do
  match ← Program.writeAll Unix.standardOutput waiting.held with
  | .ok _ => return { waiting with held := ByteArray.empty }
  | .error _ => return ⟨ByteArray.empty, true⟩

namespace Gathering

def gatheredSize : Nat := 4096

def add (gathering : Gathering) (own : String) (waiting : Waiting) (bytes : ByteArray) :
    Program Waiting := do
  let text := waiting.held ++ bytes
  if gathering.atOnce then Waiting.write { waiting with held := text }
  else
    let size := text.size - text.size % gatheredSize
    if size = 0 then return { waiting with held := text }
    else
      match ← Program.writeAll Unix.standardOutput (text.extract 0 size) with
      | .ok _ => return { waiting with held := text.extract size text.size }
      | .error errno =>
        match gathering.ofBlock with
        | none => return ⟨ByteArray.empty, true⟩
        | some message =>
          complain own (message errno)
          Program.exit gathering.failure

def finish (gathering : Gathering) (own : String) (waiting : Waiting) (code : Int) :
    Program Unit := do
  match ← Program.writeAll Unix.standardOutput waiting.held with
  | .error errno =>
    complain own (because "write error" errno)
    Program.exit gathering.failure
  | .ok _ =>
    if waiting.lost then
      complain own "write error"
      Program.exit gathering.failure
    else Program.exit code

def through (gathering : Gathering) (own : String) : Program Unit → Waiting → Program Unit
  | .done _, waiting => gathering.finish own waiting 0
  | .call (.exit code) _, waiting => gathering.finish own waiting code
  | .call (.write target bytes) next, waiting =>
    if target = Unix.standardOutput then
      (gathering.add own waiting bytes).bind fun later =>
        through gathering own (next (.ok bytes.size)) later
    else if gathering.beforeComplaints then
      waiting.write.bind fun later =>
        .call (.write target bytes) fun reply => through gathering own (next reply) later
    else .call (.write target bytes) fun reply => through gathering own (next reply) waiting
  | .call request next, waiting =>
    .call request fun reply => through gathering own (next reply) waiting

end Gathering

/-- A tool that gathers its output, unless that is a terminal. -/
def gathered (gathering : Gathering) (name : String) (tool : List String → Program Unit) :
    Unix.Tool :=
  let gathers (arguments : List String) : Program Unit := do
    if ← Program.isTerminal Unix.standardOutput then tool arguments
    else gathering.through (arguments.headD name) (tool arguments) Waiting.nothing
  (name, gathers)

end JobShell.Tool
