import JobShell.CommandLine.Invoke
import JobShell.Machine.Basic
import JobShell.Tool.All

/-!
# The command line program

The shell is run on a modelled system of its own, with an empty work directory.
The standard input is read to its end beforehand, and what the shell wrote is
passed on afterwards.
-/

namespace JobShell

set_option autoImplicit false

partial def readToEnd (stream : IO.FS.Stream) (held : ByteArray) : IO ByteArray := do
  let block ← stream.read 65536
  if block.isEmpty then return held else readToEnd stream (held ++ block)

def mainEnvironment (user : Option String) : Surroundings.Environment :=
  [("PATH", "/usr/local/sbin:/usr/local/bin:/usr/sbin:/usr/bin:/sbin:/bin"), ("LC_ALL", "C"),
    ("HOME", Machine.workPath ++ "/home")] ++
    (user.map fun name => ("USER", name)).toList

def endingCode : Unix.Kernel.Run Int → Int
  | .returned code => code
  | .exited code => code
  | .killed number => 128 + number
  | .stuck => 1

end JobShell

def main (arguments : List String) : IO UInt32 := do
  let input ← IO.getStdin
  let bytes ← JobShell.readToEnd input ByteArray.empty
  let scene : JobShell.Scene :=
    { files := []
      directories := []
      environment := JobShell.mainEnvironment (← IO.getEnv "USER")
      input := bytes
      atTerminal := ← input.isTty }
  let program := JobShell.CommandLine.invoke (some JobShell.Machine.account) (bytes.size + 1)
    (arguments.map fun argument => argument.toUTF8.toList)
  let (ending, after) := (JobShell.Machine.create JobShell.Tool.all scene).run program
  let (output, error, _) := after.settle.takeOutput
  let standardOutput ← IO.getStdout
  standardOutput.write output
  standardOutput.flush
  let standardError ← IO.getStderr
  standardError.write error
  return (JobShell.endingCode ending).toNat.toUInt32
