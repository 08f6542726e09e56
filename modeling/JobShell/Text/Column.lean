/-!
# Columns

Padding of a text to a least width, counted in characters.
-/

namespace JobShell.Text

set_option autoImplicit false

def padRight (width : Nat) (text : String) : String :=
  text.pushn ' ' (width - text.length)

def padLeftWith (filler : Char) (width : Nat) (text : String) : String :=
  "".pushn filler (width - text.length) ++ text

def padLeft (width : Nat) (text : String) : String :=
  padLeftWith ' ' width text

def hexadecimal (number : Nat) : String :=
  String.ofList (Nat.toDigits 16 number)

def octal (number : Nat) : String :=
  String.ofList (Nat.toDigits 8 number)

end JobShell.Text
