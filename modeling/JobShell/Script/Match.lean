/-!
# Patterns for names

A pattern holds characters that stand for themselves, `?` for any character,
`*` for any text and bracket expressions. A quoted character always stands for
itself.
-/

namespace JobShell.Script.Match

set_option autoImplicit false

abbrev Marked := Char × Bool

inductive Element where
  | exactly (character : Char)
  | any
  | anything
  | set (negated : Bool) (ranges : List (Char × Char))
  deriving DecidableEq, Repr

def classMembers? (name : String) : Option (List (Char × Char)) :=
  match name with
  | "alnum" => some [('0', '9'), ('A', 'Z'), ('a', 'z')]
  | "alpha" => some [('A', 'Z'), ('a', 'z')]
  | "blank" => some [(' ', ' '), ('\t', '\t')]
  | "cntrl" => some [('\x00', '\x1f'), ('\x7f', '\x7f')]
  | "digit" => some [('0', '9')]
  | "graph" => some [('!', '~')]
  | "lower" => some [('a', 'z')]
  | "print" => some [(' ', '~')]
  | "punct" => some [('!', '/'), (':', '@'), ('[', '\x60'), ('\x7b', '~')]
  | "space" => some [('\t', '\r'), (' ', ' ')]
  | "upper" => some [('A', 'Z')]
  | "xdigit" => some [('0', '9'), ('A', 'F'), ('a', 'f')]
  | _ => none

def classAt? (text : List Marked) : Option (List (Char × Char) × List Marked) :=
  match text with
  | ('[', false) :: (':', false) :: rest =>
    let name := (rest.takeWhile fun character => character.1.isAlpha).map Prod.fst
    match rest.drop name.length with
    | (':', false) :: (']', false) :: left =>
      (classMembers? (String.ofList name)).map fun members => (members, left)
    | _ => none
  | _ => none

def bracketMembers : Nat → Bool → List Marked → Option (List (Char × Char) × List Marked)
  | 0, _, _ => none
  | turns + 1, first, text =>
    match classAt? text with
    | some (members, left) =>
      (bracketMembers turns false left).map fun (others, left) => (members ++ others, left)
    | none =>
      match text with
      | [] => none
      | (character, quoted) :: rest =>
        if character == ']' && !quoted && !first then some ([], rest)
        else
          match rest with
          | ('-', false) :: (last, lastQuoted) :: later =>
            if last == ']' && !lastQuoted then
              (bracketMembers turns false rest).map fun (members, left) =>
                ((character, character) :: members, left)
            else
              (bracketMembers turns false later).map fun (members, left) =>
                ((character, last) :: members, left)
          | _ =>
            (bracketMembers turns false rest).map fun (members, left) =>
              ((character, character) :: members, left)

def elements : Nat → List Marked → List Element
  | 0, _ => []
  | _, [] => []
  | turns + 1, ('?', false) :: rest => .any :: elements turns rest
  | turns + 1, ('*', false) :: rest => .anything :: elements turns rest
  | turns + 1, ('[', false) :: rest =>
    let (negated, inner) :=
      match rest with
      | ('!', false) :: inner => (true, inner)
      | _ => (false, rest)
    match bracketMembers (inner.length + 1) true inner with
    | some (members, left) => .set negated members :: elements turns left
    | none => .exactly '[' :: elements turns rest
  | turns + 1, ('\\', false) :: (character, _) :: rest =>
    .exactly character :: elements turns rest
  | turns + 1, (character, _) :: rest => .exactly character :: elements turns rest

def ofMarked (pattern : List Marked) : List Element :=
  elements (pattern.length + 1) pattern

def accepts : List Element → List Char → Bool
  | [], text => text.isEmpty
  | .exactly character :: rest, text =>
    match text with
    | first :: left => first == character && accepts rest left
    | [] => false
  | .any :: rest, text =>
    match text with
    | _ :: left => accepts rest left
    | [] => false
  | .set negated ranges :: rest, text =>
    match text with
    | first :: left =>
      (ranges.any fun range => range.1 ≤ first && first ≤ range.2) != negated &&
        accepts rest left
    | [] => false
  | .anything :: rest, text =>
    (List.range (text.length + 1)).any fun skipped => accepts rest (text.drop skipped)

def isPattern (text : List Marked) : Bool :=
  text.any fun (character, quoted) => !quoted && "*?[".toList.contains character

/-- A text without the shortest or longest part at one side that matches. -/
def trim (atEnd longest : Bool) (pattern : List Element) (text : List Char) : List Char :=
  let sizes := List.range (text.length + 1)
  let ordered := if longest then sizes.reverse else sizes
  let part (size : Nat) : List Char :=
    if atEnd then text.drop (text.length - size) else text.take size
  match ordered.find? fun size => accepts pattern (part size) with
  | none => text
  | some size => if atEnd then text.take (text.length - size) else text.drop size

end JobShell.Script.Match
