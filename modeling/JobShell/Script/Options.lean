/-!
# Options of a command

The options in front of the arguments of a command are letters behind a minus sign.
Some take a value, which is the rest of their word or the next word.
-/

namespace JobShell.Script

set_option autoImplicit false

structure OptionLetters where
  letters : List Char
  valued : List Char

def OptionLetters.none : OptionLetters :=
  ⟨[], []⟩

def OptionLetters.of (letters : String) : OptionLetters :=
  ⟨letters.toList, []⟩

/-- The options in one word behind its sign. The last one may still want a value. -/
def OptionLetters.inWord (known : OptionLetters) :
    List Char → Except String (List (Char × String) × Option Char)
  | [] => .ok ([], Option.none)
  | letter :: rest =>
    if !known.letters.contains letter then .error ("Illegal option -" ++ letter.toString)
    else if known.valued.contains letter then
      if rest.isEmpty then .ok ([], some letter)
      else .ok ([(letter, String.ofList rest)], Option.none)
    else (known.inWord rest).map fun (options, wanting) => ((letter, "") :: options, wanting)

/-- The options in front of arguments, and the arguments behind them. Two minus signs
end the options, and one by itself is none. -/
def OptionLetters.take (known : OptionLetters) :
    List String → Except String (List (Char × String) × List String)
  | [] => .ok ([], [])
  | word :: rest =>
    match word.toList with
    | ['-', '-'] => .ok ([], rest)
    | '-' :: letter :: letters =>
      match known.inWord (letter :: letters) with
      | .error message => .error message
      | .ok (options, Option.none) =>
        (known.take rest).map fun (others, arguments) => (options ++ others, arguments)
      | .ok (options, some wanting) =>
        match rest with
        | [] => .error ("No arg for -" ++ wanting.toString ++ " option")
        | value :: behind =>
          (known.take behind).map fun (others, arguments) =>
            (options ++ (wanting, value) :: others, arguments)
    | _ => .ok ([], word :: rest)

/-- How far a search for options among arguments has come: the number of the next
argument, from one on, and how many characters of the one before have been used if it
may hold more options. -/
structure OptionPlace where
  index : Nat
  offset : Option Nat
  deriving DecidableEq, Repr

def OptionPlace.start : OptionPlace :=
  ⟨1, none⟩

/-- What a search for the next option comes to: its letter, the value found with it, a
complaint, whether the search is over, and where it goes on. -/
structure OptionStep where
  letter : Char
  value : Option String
  complaint : Option String
  isOver : Bool
  place : OptionPlace

/-- Whether a letter is among those that are looked for, and if so, whether it comes
with a value, as those do that a colon follows. -/
def wantedLetter? (letter : Char) : List Char → Option Bool
  | [] => none
  | known :: ':' :: rest => if known == letter then some true else wantedLetter? letter rest
  | known :: rest => if known == letter then some false else wantedLetter? letter rest

/-- Looks for the next option. If the wanted letters begin with a colon, nothing is
complained of, and the letter in question is told as a value. -/
def nextOption (wanted : String) (arguments : List String) (place : OptionPlace) : OptionStep :=
  let isSilent := wanted.startsWith ":"
  let argument (index : Nat) : Option (List Char) :=
    if index = 0 then none else (arguments[index - 1]?).map String.toList
  let found (index : Nat) (offset : Nat) (text : List Char) : OptionStep :=
    match text with
    | [] => ⟨'?', none, none, true, ⟨index, none⟩⟩
    | letter :: rest =>
      let fault (mark : Char) (complaint : String) (place : OptionPlace) : OptionStep :=
        if isSilent then ⟨mark, some letter.toString, none, false, place⟩
        else ⟨'?', none, some complaint, false, place⟩
      let behind : OptionPlace := ⟨index, some (offset + 1)⟩
      match wantedLetter? letter wanted.toList with
      | none => fault '?' ("Illegal option -" ++ letter.toString) behind
      | some false => ⟨letter, some "", none, false, behind⟩
      | some true =>
        if !rest.isEmpty then ⟨letter, some (String.ofList rest), none, false, ⟨index, none⟩⟩
        else
          match argument index with
          | some value => ⟨letter, some (String.ofList value), none, false, ⟨index + 1, none⟩⟩
          | none => fault ':' ("No arg for -" ++ letter.toString ++ " option") behind
  let left :=
    match place.offset with
    | none => []
    | some offset => ((argument (place.index - 1)).getD []).drop offset
  if !left.isEmpty then found place.index (place.offset.getD 0) left
  else
    match argument place.index with
    | some ['-', '-'] => ⟨'?', none, none, true, ⟨place.index + 1, none⟩⟩
    | some ('-' :: first :: rest) => found (place.index + 1) 1 (first :: rest)
    | _ => ⟨'?', none, none, true, ⟨place.index, none⟩⟩

end JobShell.Script
