/-!
# Commands of a script

The script language that the tool `sh` runs, as it is after reading. A word is
a list of parts, some of which are worked out only when the command is run. A
quoted part is never split or matched against file names.
-/

namespace JobShell.Script

set_option autoImplicit false

inductive RedirectKind where
  | input
  | output
  | overwrite
  | append
  | readWrite
  | duplicate
  | document
  deriving DecidableEq, Repr

inductive Fallback where
  | use
  | assign
  | fail
  | replace
  deriving DecidableEq, Repr

mutual

inductive Part where
  | text (text : String) (quoted : Bool)
  | parameter (name : String) (use : Use) (quoted : Bool)
  | substitution (body : Command) (quoted : Bool)
  | arithmetic (expression : List Part) (quoted : Bool)

inductive Use where
  | plain
  | length
  | fallback (kind : Fallback) (emptyToo : Bool) (word : List Part)
  | trim (atEnd : Bool) (longest : Bool) (pattern : List Part)

inductive Redirect where
  | of (descriptor : Nat) (kind : RedirectKind) (target : List Part)

/-- A command. The last kind evaluates a text that is read when it is run. -/
inductive Command where
  | simple (line : Nat) (assignments : List (String × List Part)) (words : List (List Part))
      (redirects : List Redirect)
  | pipeline (negated : Bool) (stages : List Command)
  | both (first second : Command)
  | either (first second : Command)
  | background (body : Command)
  | sequence (commands : List Command)
  | group (subshell : Bool) (body : Command) (redirects : List Redirect)
  | branch (test yes no : Command) (redirects : List Redirect)
  | loop (expected : Bool) (test body : Command) (redirects : List Redirect)
  | each (name : String) (words : Option (List (List Part))) (body : Command)
      (redirects : List Redirect)
  | choice (word : List Part) (clauses : List (List (List Part) × Command))
      (redirects : List Redirect)
  | define (name : String) (body : Command)
  | evaluating (line : Nat) (text : String)

end

instance : Inhabited Command := ⟨.sequence []⟩

def Command.nothing : Command :=
  .sequence []

end JobShell.Script
