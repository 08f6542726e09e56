/-!
# Similar names

Two names are similar when enough of their characters agree. A character of the
first agrees with the first equal one of the second that is still free and not
too far away. The measure is the mean of three parts: how much of each name
agrees, and how much of what agrees stands in the same order. It is worked out
in double precision, whose rounding decides where a measure meets the bound.
-/

namespace JobShell.CommandLine

set_option autoImplicit false

/-- The place of the first free character of a name that equals a given one and
lies between two bounds. -/
def agreeing? (name : List Char) (taken : List Nat) (low high : Nat) (character : Char) :
    Option Nat :=
  (List.range name.length).find? fun place =>
    low ≤ place && place < high && name[place]? == some character && !taken.contains place

def agreements (reach : Nat) (second : List Char) (taken : List Nat) :
    Nat → List Char → List (Char × Nat)
  | _, [] => []
  | place, character :: rest =>
    match agreeing? second taken (place - reach) (place + reach + 1) character with
    | some other =>
      (character, other) :: agreements reach second (other :: taken) (place + 1) rest
    | none => agreements reach second taken (place + 1) rest

def share (part whole : Nat) : Float :=
  part.toFloat / whole.toFloat

def similarity (first second : String) : Float :=
  let first := first.toList
  let second := second.toList
  let reach := max first.length second.length / 2 - 1
  let pairs := agreements reach second [] 0 first
  let inSecond := (pairs.map Prod.snd).mergeSort.filterMap (second[·]?)
  let swapped := ((pairs.map Prod.fst).zip inSecond).countP fun (a, b) => a != b
  let agreed := pairs.length
  if agreed = 0 then 0
  else
    (share agreed first.length + share agreed second.length
      + share (agreed - swapped / 2) agreed) / 3

def suggestionBound : Float := 0.7

/-- The most similar of some names if it is similar enough, and the last of
those that are equally so. -/
def mostSimilar? {α : Type} (nameOf : α → String) (written : String) (choices : List α) :
    Option α :=
  let step (best : Option (α × Float)) (choice : α) : Option (α × Float) :=
    let measure := similarity written (nameOf choice)
    let isBetter : Bool :=
      match best with
      | none => suggestionBound < measure
      | some (_, held) => held ≤ measure
    if isBetter then some (choice, measure) else best
  (choices.foldl step none).map Prod.fst

end JobShell.CommandLine
