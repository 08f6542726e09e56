import JobShell.Job.Basic
import JobShell.Line.Word

/-!
# Reading a line as a job

A line that holds only separators is no job. An ampersand at its end makes the
job a background job and is not part of the last stage. In each piece a word
`<` or `>` takes the word after it as a path, whatever that word is; a missing
path is the only fault a line can have.
-/

namespace JobShell.Line

set_option autoImplicit false

inductive Direction where
  | input
  | output
  deriving DecidableEq, Repr

def Direction.operator : Direction → String
  | .input => "<"
  | .output => ">"

def direction? (word : List Char) : Option Direction :=
  if word = ['<'] then some .input
  else if word = ['>'] then some .output
  else none

/-- Why a line is no job: an operator without a path. -/
structure MissingPath where
  direction : Direction
  deriving DecidableEq, Repr

def MissingPath.message (fault : MissingPath) : String :=
  "expected a path after `" ++ fault.direction.operator ++ "`"

structure Wiring where
  arguments : List String
  input : Option String
  output : Option String
  deriving DecidableEq, Repr

/-- Adds a path in front of what was read after it, which takes precedence. -/
def Wiring.redirect (later : Wiring) (direction : Direction) (path : String) : Wiring :=
  match direction with
  | .input => { later with input := later.input.or (some path) }
  | .output => { later with output := later.output.or (some path) }

def wiring : List (List Char) → Except MissingPath Wiring
  | [] => .ok ⟨[], none, none⟩
  | [word] =>
    match direction? word with
    | some direction => .error ⟨direction⟩
    | none => .ok ⟨[String.ofList word], none, none⟩
  | word :: next :: rest =>
    match direction? word with
    | some direction =>
      -- The next word is a path even if it is an operator itself.
      (wiring rest).map fun later => later.redirect direction (String.ofList next)
    | none =>
      (wiring (next :: rest)).map fun later =>
        { later with arguments := String.ofList word :: later.arguments }

/-- Reads one piece as a stage. Its text loses the spaces at its start. -/
def stage (piece : List Char) : Except MissingPath Stage :=
  (wiring (words piece)).map fun wiring =>
    { text := String.ofList (piece.dropWhile (· == ' '))
      arguments := wiring.arguments
      input := wiring.input
      output := wiring.output }

def stages : List (List Char) → Except MissingPath (List Stage)
  | [] => .ok []
  | piece :: rest => do
    let first ← stage piece
    let others ← stages rest
    return first :: others

def splitMode (line : List Char) : Mode × List Char :=
  match (trimEnd isSeparator line).reverse with
  | '&' :: body => (.background, trimEnd isSeparator body.reverse)
  | _ => (.foreground, line)

/-- Reads a line. There is no job in a line without words. -/
def parse (line : String) : Except MissingPath (Option Job) :=
  if line.toList.all isSeparator then .ok none
  else do
    let (mode, body) := splitMode line.toList
    let stages ← stages (pieces body)
    if stages.isEmpty then return none
    else return some ⟨line, mode, stages⟩

end JobShell.Line
