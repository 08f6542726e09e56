import JobShell.Toml.Position

/-!
# Excerpts

A fault in a text is shown with the line it stands on and with carets below it.
The carets begin under the fault's column, there is one for each of its bytes,
and they end with the line.
-/

namespace JobShell.Toml

set_option autoImplicit false

def caretCount (span : Span) (line : String) : Nat :=
  max 1 (min span.size (line.utf8ByteSize - span.start.column))

def excerpt (text : String) (span : Span) (fault : String) : String :=
  let number := toString (span.start.line + 1)
  let gutter := "".pushn ' ' (number.length + 1) ++ "|"
  let line := ((text.splitOn "\n")[span.start.line]?).getD ""
  let carets := "".pushn ' ' (span.start.column + 1) ++ "".pushn '^' (caretCount span line)
  "TOML parse error at line " ++ number ++
    ", column " ++ toString (span.start.column + 1) ++ "\n" ++
    gutter ++ "\n" ++
    number ++ " | " ++ line ++ "\n" ++
    gutter ++ carets ++ "\n" ++
    fault ++ "\n"

end JobShell.Toml
