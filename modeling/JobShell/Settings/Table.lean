import JobShell.Error
import JobShell.Settings.Basic
import JobShell.Text.Decimal
import JobShell.Text.Quoted
import JobShell.Toml.Excerpt
import JobShell.Toml.Item

/-!
# Settings in a table

Four keys of a table are settings. They are looked at in the order of their
names among all keys of the table, and the first fault decides. A key that
is no setting may hold anything, except that every number in it must be
readable and in range.
-/

namespace JobShell

open Toml (Span Item Entries Scalar)

set_option autoImplicit false

inductive SettingsFault where
  | malformed
  | mismatch (span : Span) (reason : String)
  deriving DecidableEq, Repr

namespace SettingsFault

def describe (text : String) : SettingsFault → String
  | .malformed => "malformed text\n"
  | .mismatch span reason => Toml.excerpt text span reason

def toError (text : String) (fault : SettingsFault) : ShellError :=
  .malformedSettings (fault.describe text)

end SettingsFault

namespace Settings

inductive Expected where
  | count
  | text
  | path
  deriving DecidableEq, Repr

def Expected.describe : Expected → String
  | .count => "usize"
  | .text => "a string"
  | .path => "path string"

def wordValues (bits : Nat) : Int :=
  Nat.pow 2 bits

def integerFits (value : Int) : Bool :=
  -wordValues 127 ≤ value && value < wordValues 128

def scalarFits : Scalar → Bool
  | .integer value => integerFits value
  | .unreadableInteger => false
  | .decimal _ size => (Text.Double.ofDecimal? size).isSome
  | _ => true

mutual

def fits : Item → Bool
  | .scalar _ value => scalarFits value
  | .list _ _ items => allFit items
  | .table _ _ entries => entriesFit entries

def allFit : List Item → Bool
  | [] => true
  | item :: rest => fits item && allFit rest

def entriesFit : List (String × Item) → Bool
  | [] => true
  | (_, item) :: rest => fits item && entriesFit rest

end

/-- An integer in words. One that fits no machine word tells its kind. -/
def describeInteger (value : Int) : String :=
  let written := "integer " ++ "`" ++ toString value ++ "`"
  if -wordValues 63 ≤ value && value < wordValues 64 then written
  else if value < wordValues 127 then written ++ " as i128"
  else written ++ " as u128"

def describeDecimal (negative : Bool) (written : String) : String :=
  "floating point " ++ "`" ++ (if negative then "-" else "") ++ written ++ "`"

def describeItem : Item → String
  | .scalar _ (.string text) => "string " ++ Text.Quoted.quote text
  | .scalar _ (.integer value) => describeInteger value
  | .scalar _ .unreadableInteger => "integer"
  | .scalar _ (.decimal negative size) =>
    describeDecimal negative (((Text.Double.ofDecimal? size).map Text.Double.text).getD "inf")
  | .scalar _ (.infinity negative) => describeDecimal negative "inf"
  | .scalar _ .notANumber => describeDecimal false "NaN"
  | .scalar _ (.boolean value) => "boolean " ++ "`" ++ toString value ++ "`"
  | .scalar _ .date => "map"
  | .list _ _ _ => "sequence"
  | .table _ _ _ => "map"

/-- The fault of an item that is not as expected. A number that is unreadable or
out of all range is a fault of the text. -/
def mismatch (expected : Expected) (item : Item) (complaint : String) : SettingsFault :=
  -- This comes first: even where no number was wanted, one that cannot be read is the fault.
  let faulty : Bool :=
    match item with
    | .scalar _ value => !scalarFits value
    | _ => false
  if faulty then .malformed
  else
    .mismatch item.span
      (complaint ++ ": " ++ describeItem item ++ ", expected " ++ expected.describe)

def count (item : Item) : Except SettingsFault Nat :=
  match item with
  | .scalar _ (.integer value) =>
    if 0 ≤ value && value ≤ Text.Decimal.wordBound then .ok value.toNat
    else if -wordValues 63 ≤ value && value < 0 then .error (mismatch .count item "invalid value")
    else .error (mismatch .count item "invalid type")
  | _ => .error (mismatch .count item "invalid type")

def string (expected : Expected) (item : Item) : Except SettingsFault String :=
  match item with
  | .scalar _ (.string text) => .ok text
  | _ => .error (mismatch expected item "invalid type")

def take (settings : Settings) (entry : String × Item) : Except SettingsFault Settings :=
  match entry with
  | ("history_size", item) => do return { settings with historySize := ← count item }
  | ("log_file", item) => do return { settings with logPath := some (← string .path item) }
  | ("max_jobs", item) => do return { settings with maxJobs := ← count item }
  | ("prompt", item) => do return { settings with prompt := some (← string .text item) }
  | (_, item) => if fits item then .ok settings else .error .malformed

def inOrder (entries : Entries) : Entries :=
  entries.mergeSort fun first second => !(second.1 < first.1)

def ofEntries (entries : Entries) : Except SettingsFault Settings :=
  (inOrder entries).foldlM take Settings.default

end Settings

end JobShell
