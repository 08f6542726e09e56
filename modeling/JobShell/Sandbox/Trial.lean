import JobShell.Machine.Trial

/-!
# Older names

Names that programs built on this library go by, for what has other names in it.
-/

namespace JobShell

open Unix (PathName Program)

set_option autoImplicit false

abbrev Sandbox := Machine

namespace Sandbox

export Machine (create workPath)

namespace Trial

export Machine.Trial (Output scriptedHost builtin waitsFor tree)

end Trial

end Sandbox

namespace Settings

def logFile (settings : Settings) : Option String :=
  settings.logPath.map PathName.shown

def parse (text : String) : Except SettingsFault Settings :=
  (Source.standard none).parse text

def ofFile (path : String) : Program (Except FileFault Settings) :=
  (Source.standard none).ofFile path

def load (named : Option String) (account : Option Surroundings.Account) : Program Settings :=
  (Source.standard account).load (named.map PathName.ofText)

end Settings

end JobShell
