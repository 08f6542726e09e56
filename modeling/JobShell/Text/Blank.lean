/-!
# Blank characters

A line is blank when it holds only characters with the Unicode property
White_Space. The class is wider than the separators of the line syntax, and
it does not hold the bell character, which is a separator.
-/

namespace JobShell.Text

set_option autoImplicit false

/-- The Unicode property White_Space. -/
def isBlankCharacter (character : Char) : Bool :=
  let code := character.toNat
  (0x09 ≤ code && code ≤ 0x0D) || code == 0x20 || code == 0x85 || code == 0xA0 ||
    code == 0x1680 || (0x2000 ≤ code && code ≤ 0x200A) || code == 0x2028 ||
    code == 0x2029 || code == 0x202F || code == 0x205F || code == 0x3000

def isBlank (text : String) : Bool :=
  text.toList.all isBlankCharacter

theorem is_blank_empty : isBlank "" = true := by decide

end JobShell.Text
