import JobShell.Opening
import JobShell.Settings.Table
import JobShell.Text.Utf8

/-!
# Settings in a file

The settings file is the one that is named, or else the one that is found. A file
that cannot be read, or whose text holds no settings, counts as if nothing were
set. How a text is read as a table and where a file is found is the business of
others, and a source stands for them.
-/

namespace JobShell.Settings

open Toml (Entries)
open Unix (Descriptor Errno PathName Program)

set_option autoImplicit false

def blockSize : Nat := 65536

/-- How many blocks of a file are read at most. No file has more bytes than this, so its
end comes first. -/
def blockLimit : Nat := 0x8000000000000000

def readRest (source : Descriptor) : Nat → ByteArray → Program (Except Errno ByteArray)
  | 0, held => pure (.ok held)
  | turns + 1, held => do
    match ← Program.read source blockSize with
    | .error errno => return .error errno
    | .ok block =>
      if block.isEmpty then return .ok held else readRest source turns (held ++ block)

def bytesOf (path : PathName) : Program (Option ByteArray) := do
  match ← openPath path .reading with
  | .error _ => return none
  | .ok source =>
    let bytes ← readRest source blockLimit ByteArray.empty
    let _ ← Program.close source
    return bytes.toOption

inductive FileFault where
  | unreadable (path : String)
  | invalid (text : String) (fault : SettingsFault)
  deriving DecidableEq, Repr

def FileFault.toError : FileFault → ShellError
  | .unreadable path => .unreadable path
  | .invalid text fault => fault.toError text

/-- A parser of tables, and a search for the settings file when none is named. -/
structure Source where
  read : String → Option Entries
  find : Program (Option PathName)

namespace Source

def parse (source : Source) (text : String) : Except SettingsFault Settings :=
  match source.read text with
  | none => .error .malformed
  | some entries => ofEntries entries

def ofBytes (source : Source) (path : PathName) (bytes : ByteArray) :
    Except FileFault Settings :=
  match String.fromUTF8? bytes with
  | none => .error (.unreadable path.shown)
  | some text => (source.parse text).mapError (.invalid text)

def ofFile (source : Source) (path : PathName) : Program (Except FileFault Settings) := do
  match ← bytesOf path with
  | none => return .error (.unreadable path.shown)
  | some bytes => return source.ofBytes path bytes

def consult (source : Source) (named : Option PathName) : Program (Option PathName) := do
  match named with
  | some path => return some path
  | none => source.find

def load (source : Source) (named : Option PathName) : Program Settings := do
  match ← source.consult named with
  | none => return .default
  | some path => return (← source.ofFile path).toOption.getD .default

end Source

end JobShell.Settings
