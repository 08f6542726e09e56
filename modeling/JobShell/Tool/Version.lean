import JobShell.Tool.Basic

/-!
# The order of versions

Names are compared as people read version numbers: runs of digits by their values, and
what stands between them by bytes, letters first. A tilde comes before everything, even
before the end. Endings such as those of files only count when all else is equal.
-/

namespace JobShell.Tool.Version

set_option autoImplicit false

def isDigit (byte : UInt8) : Bool :=
  48 ≤ byte && byte ≤ 57

def isLetter (byte : UInt8) : Bool :=
  (65 ≤ byte && byte ≤ 90) || (97 ≤ byte && byte ≤ 122)

def rank : List UInt8 → Int
  | [] => -1
  | byte :: _ =>
    if isDigit byte then 0
    else if byte = 126 then -2
    else if isLetter byte then byte.toNat
    else byte.toNat + 256

def startsBare : List UInt8 → Bool
  | [] => false
  | byte :: _ => !isDigit byte

def compareNumerals (first second : List UInt8) : Ordering :=
  let value (digits : List UInt8) : Nat :=
    digits.foldl (fun value digit => value * 10 + (digit.toNat - 48)) 0
  compare (value first) (value second)

/-- The order of two texts. Fuel is the sum of their lengths. -/
def compareParts : Nat → List UInt8 → List UInt8 → Ordering
  | 0, _, _ => .eq
  | turns + 1, first, second =>
    if first.isEmpty && second.isEmpty then .eq
    else if startsBare first || startsBare second then
      (compare (rank first) (rank second)).then
        (compareParts turns (first.drop 1) (second.drop 1))
    else
      (compareNumerals (first.takeWhile isDigit) (second.takeWhile isDigit)).then
        (compareParts turns (first.dropWhile isDigit) (second.dropWhile isDigit))

/-- Whether a text is nothing but endings: points with a letter or a tilde behind each,
and letters, digits and tildes behind that. Fuel is more than its length. -/
def isEndings : Nat → List UInt8 → Bool
  | 0, _ => false
  | _ + 1, [] => true
  | turns + 1, point :: rest =>
    match rest with
    | [] => false
    | letter :: later =>
      point = 46 && (isLetter letter || letter = 126) &&
        isEndings turns (later.dropWhile fun byte => isLetter byte || isDigit byte || byte = 126)

/-- A text without its endings. Its first byte belongs to none. -/
def withoutEndings : List UInt8 → List UInt8
  | [] => []
  | first :: rest => first :: go rest
where
  go : List UInt8 → List UInt8
    | [] => []
    | byte :: rest =>
      if isEndings (rest.length + 2) (byte :: rest) then [] else byte :: go rest

/-- Names with a point in front come first, and of those the point alone and two points
alone. -/
def pointRank (name : List UInt8) : Nat :=
  match name with
  | [46] => 0
  | [46, 46] => 1
  | 46 :: _ => 2
  | _ => 3

def compareNames (first second : List UInt8) : Ordering :=
  match first, second with
  | [], [] => .eq
  | [], _ => .lt
  | _, [] => .gt
  | _, _ =>
    let parts (first second : List UInt8) : Ordering :=
      compareParts (first.length + second.length) first second
    ((compare (pointRank first) (pointRank second)).then
      (parts (withoutEndings first) (withoutEndings second))).then (parts first second)

end JobShell.Tool.Version
