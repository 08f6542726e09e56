import JobShell.History.Basic
import JobShell.Text.Decimal

/-!
# Replaying a line

A line that begins with `replay` and a space and goes on with a number is
replaced by the line with that number. The number is made of the digits at the
start of the next word; the rest of that word is dropped and everything after
it is kept. A number that names no line leaves the line as it is.
-/

namespace JobShell.History

set_option autoImplicit false

def replayMark : List Char :=
  ['r', 'e', 'p', 'l', 'a', 'y', ' ']

/-- What follows the mark, without the spaces in between. -/
def afterMark? (line : List Char) : Option (List Char) :=
  if replayMark.isPrefixOf line then
    some ((line.drop replayMark.length).dropWhile (· == ' '))
  else none

/-- The number at the start of a word, if it fits a machine word. -/
def leadingNumber? (word : List Char) : Option Nat :=
  Text.Decimal.read? Text.Decimal.wordBound (String.ofList (word.takeWhile Char.isDigit))

def substitute (history : History) (line : String) : String :=
  match afterMark? line.toList with
  | none => line
  | some arguments =>
    let word := arguments.takeWhile (· != ' ')
    let rest := arguments.dropWhile (· != ' ')
    match (leadingNumber? word).bind history.get? with
    | none => line
    | some entry => entry ++ String.ofList rest

end JobShell.History
