import JobShell.Error
import JobShell.Unix.Program

/-!
# Opening files by path

Paths and arguments come from lines, flags and settings and may hold a NUL
character, which no system call accepts. Such a path is refused before the
system is asked.
-/

namespace JobShell

open Unix (Access Descriptor PathName Program)

set_option autoImplicit false

def hasNul (text : String) : Bool :=
  (PathName.ofText text).hasNul

def openPath (path : PathName) (access : Access) : Program (Except OpenFault Descriptor) :=
  if path.hasNul then pure (.error .nulInPath)
  else do
    match ← Program.openFile path access with
    | .ok descriptor => return .ok descriptor
    | .error errno => return .error (.refused errno)

end JobShell
