/-!
# The prompt

A template may name the user and the working directory. The user is filled in
first, and the directory is then filled in wherever the result names it.
-/

namespace JobShell.Prompt

set_option autoImplicit false

def defaultTemplate : String := "\x7buser\x7d:\x7bcwd\x7d >>> $ "

def userMark : List Char := ['\x7b', 'u', 's', 'e', 'r', '\x7d']

def directoryMark : List Char := ['\x7b', 'c', 'w', 'd', '\x7d']

/-- Replaces each occurrence of a mark, going from the left and skipping as many
characters as are still part of an occurrence. -/
def replaceFrom (mark replacement : List Char) : Nat → List Char → List Char
  | _, [] => []
  | 0, character :: rest =>
    if mark.isPrefixOf (character :: rest) then
      replacement ++ replaceFrom mark replacement (mark.length - 1) rest
    else character :: replaceFrom mark replacement 0 rest
  | skip + 1, _ :: rest => replaceFrom mark replacement skip rest

def replace (mark replacement text : List Char) : List Char :=
  replaceFrom mark replacement 0 text

def render (template user directory : String) : String :=
  String.ofList
    (replace directoryMark directory.toList (replace userMark user.toList template.toList))

def text (template : Option String) (user directory : String) : String :=
  render (template.getD defaultTemplate) user directory

end JobShell.Prompt
