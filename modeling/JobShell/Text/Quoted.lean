import JobShell.Text.Shapeless

/-!
# Quoted text

A quoted text stands between double quotes. Quotes, backslashes and the common
control characters are escaped by a letter, and other characters without a shape
by their code.
-/

namespace JobShell.Text.Quoted

set_option autoImplicit false

def escape (character : Char) : List Char :=
  match character with
  | '\x00' => ['\\', '0']
  | '\t' => ['\\', 't']
  | '\n' => ['\\', 'n']
  | '\r' => ['\\', 'r']
  | '"' => ['\\', '"']
  | '\\' => ['\\', '\\']
  | _ =>
    if isShapeless character then
      ['\\', 'u', '\x7b'] ++ Nat.toDigits 16 character.toNat ++ ['\x7d']
    else [character]

def quote (text : String) : String :=
  String.ofList ('"' :: text.toList.flatMap escape ++ ['"'])

end JobShell.Text.Quoted
