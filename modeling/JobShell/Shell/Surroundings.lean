import JobShell.Unix.Program

/-!
# What the shell takes from its surroundings

The user and the home directory come from the environment, and from the user
database where the environment is silent.
-/

namespace JobShell.Surroundings

set_option autoImplicit false

abbrev Environment := List (String × String)

structure Account where
  name : String
  home : String
  deriving DecidableEq, Repr

/-- The name of the user. The second variable counts only when the first is not
set, and an empty name is none. -/
def userName (environment : Environment) (account : Option Account) : String :=
  let named := (environment.lookup "USER").or (environment.lookup "LOGNAME")
  match named.filter fun name => !name.isEmpty with
  | some name => name
  | none => (account.map Account.name).getD "unknown"

/-- The home directory. A library finds it, which is no part of the shell; this is a stand-in
with which the shell can be run. -/
def home? (environment : Environment) (account : Option Account) : Option String :=
  match (environment.lookup "HOME").filter fun path => !path.isEmpty with
  | some path => some path
  | none => account.map Account.home

end JobShell.Surroundings
