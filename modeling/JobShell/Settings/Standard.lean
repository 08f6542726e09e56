import JobShell.Settings.Source
import JobShell.Shell.Surroundings
import JobShell.Toml.Document

/-!
# The usual source of settings

The libraries that read tables and look for settings files are no part of the shell.
These are stand-ins with which it can be run.
-/

namespace JobShell.Settings

open Unix (PathName Program)

set_option autoImplicit false

def placeIn (directory : String) : String :=
  directory ++ "/" ++ shellName ++ "/config.toml"

/-- The places where a settings file is looked for, in this order: the user's
directory, and then the system's directories. Only absolute paths count. -/
def places (environment : Surroundings.Environment) (account : Option Surroundings.Account) :
    List String :=
  -- Without a home directory not even the shared places are looked at.
  match Surroundings.home? environment account with
  | none => []
  | some home =>
    let absolute (path : String) : Bool := path.startsWith "/"
    let personal :=
      ((environment.lookup "XDG_CONFIG_HOME").filter absolute).getD (home ++ "/.config")
    let shared := (((environment.lookup "XDG_CONFIG_DIRS").getD "").splitOn ":").filter absolute
    (personal :: if shared.isEmpty then ["/etc/xdg"] else shared).map placeIn

def firstExisting : List String → Program (Option PathName)
  | [] => pure none
  | path :: rest => do
    match ← Program.inspect path true with
    | .ok _ => return some path
    | .error _ => firstExisting rest

def Source.standard (account : Option Surroundings.Account) : Source where
  read := Toml.parse?
  find := do firstExisting (places (← Program.environment) account)

end JobShell.Settings
