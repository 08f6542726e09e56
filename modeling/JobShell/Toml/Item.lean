import JobShell.Toml.Position
import JobShell.Toml.Scalar
import JobShell.Toml.Text

/-!
# Items and tables

A document is a tree of tables. Each table remembers how it came about, because
that decides what may still be added to it: a table with a header of its own
gets no dotted keys from elsewhere and no second header, a table that only
stood in the way of another may still get its header, and a table written as a
value is closed.
-/

namespace JobShell.Toml

set_option autoImplicit false

inductive Origin where
  | header
  | onTheWay
  | dotted
  | inline
  deriving DecidableEq, Repr

/-- A value with the place where it is written. A list of tables grows by its
headers, and any other list is closed. -/
inductive Item where
  | scalar (span : Span) (value : Scalar)
  | list (span : Span) (grows : Bool) (items : List Item)
  | table (span : Span) (origin : Origin) (entries : List (String × Item))

abbrev Entries := List (String × Item)

def Item.span : Item → Span
  | .scalar span _ => span
  | .list span _ _ => span
  | .table span _ _ => span

namespace Entries

def put (name : String) (item : Item) : Entries → Entries
  | [] => [(name, item)]
  | entry :: rest => if entry.1 = name then (name, item) :: rest else entry :: put name item rest

def changeLast (change : Entries → Option Entries) : List Item → Option (List Item)
  | [] => none
  | [.table span origin entries] => do
    return [.table span origin (← change entries)]
  | item :: rest => do
    return item :: (← changeLast change rest)

/-- Changes the table at the end of a path. Missing tables on the way are made.
A dotted path may not enter a table that has a header of its own. -/
def within (dotted : Bool) (change : Origin → Entries → Option Entries) :
    List Key → Origin → Entries → Option Entries
  | [], origin, entries => change origin entries
  | key :: path, _, entries =>
    match entries.lookup key.name with
    | none => do
      let origin := if dotted then .dotted else .onTheWay
      let inner ← within dotted change path origin []
      return entries.put key.name (.table key.span origin inner)
    | some (.table span origin inner) => do
      if origin == .inline || (dotted && origin == .header) then none
      else
        let inner ← within dotted change path origin inner
        return entries.put key.name (.table span origin inner)
    | some (.list span true items) => do
      let items ← changeLast (within dotted change path .header) items
      return entries.put key.name (.list span true items)
    | some _ => none

/-- Adds an item under a new name at the end of a path. Behind dots the table
must itself have come about by dots. -/
def add (path : List Key) (name : String) (item : Item) (entries : Entries) : Option Entries :=
  let insert (origin : Origin) (entries : Entries) : Option Entries :=
    if (origin == .dotted) == path.isEmpty then none
    else if (entries.lookup name).isSome then none
    else some (entries.put name item)
  within true insert path .header entries

def openTable (path : List Key) (name : String) (span : Span) (entries : Entries) :
    Option Entries :=
  let place (_ : Origin) (entries : Entries) : Option Entries :=
    match entries.lookup name with
    | none => some (entries.put name (.table span .header []))
    | some (.table _ .onTheWay inner) => some (entries.put name (.table span .header inner))
    | some _ => none
  within false place path .header entries

def openListed (path : List Key) (name : String) (span : Span) (entries : Entries) :
    Option Entries :=
  let table := Item.table span .header []
  let place (_ : Origin) (entries : Entries) : Option Entries :=
    match entries.lookup name with
    | none => some (entries.put name (.list span true [table]))
    | some (.list first true items) =>
      some (entries.put name (.list first true (items ++ [table])))
    | some _ => none
  within false place path .header entries

end Entries

namespace Reader

def depthLimit : Nat := 80

def isWordPart (character : Char) : Bool :=
  !(character == ' ' || character == '\t' || character == '\r' || character == '\n'
    || character == '#' || character == ',' || character == '=' || character == '['
    || character == ']' || character == '\x7b' || character == '\x7d')

/-- Reads a word. A day may be followed by a space and a time. -/
def word : Reader (List Char) := do
  let first ← takeWhile isWordPart
  match (← get).rest with
  | ' ' :: next :: _ =>
    if next.isDigit && Scalar.day? first == some [] then
      skip 1
      return first ++ ' ' :: (← takeWhile isWordPart)
    else return first
  | _ => return first

def scalar : Reader Scalar := do
  match ← string? with
  | some text => return .string text
  | none =>
    match Scalar.ofWord? (← word) with
    | some value => return value
    | none => malformed

def separated {σ : Type} (element : σ → Reader σ) (closing : String) : Nat → σ → Reader σ
  | 0, _ => malformed
  | turns + 1, held => do
    skipLines
    if ← accept closing then return held
    else
      let held ← element held
      skipLines
      if ← accept "," then separated element closing turns held
      else
        expect closing
        return held

/-- Reads a path of keys, the mark behind it and a value, with the given reader
of what may stand beside the mark, and adds the value to a table. -/
def entry (skipSpace : Reader Unit) (value : Reader Item)
    (add : List Key → Item → Option Entries) : Reader Entries := do
  let path ← keys
  skipSpace
  expect "="
  skipSpace
  let item ← value
  match add path item with
  | some entries => return entries
  | none => malformed

def addAt (entries : Entries) (path : List Key) (item : Item) : Option Entries :=
  match path.getLast? with
  | some key => entries.add path.dropLast key.name item
  | none => none

def valueWithin : Nat → Reader Item
  | 0 => do
    let (span, value) ← spanned scalar
    return .scalar span value
  | depth + 1 => do
    let turns : Reader Nat := do return (← get).rest.length + 1
    if ← startsWith "[" then
      let (span, items) ← spanned do
        expect "["
        separated (fun items => return (← valueWithin depth) :: items) "]" (← turns) []
      return .list span false items.reverse
    else if ← startsWith "\x7b" then
      let (span, entries) ← spanned do
        expect "\x7b"
        separated (fun held => entry skipLines (valueWithin depth) (addAt held)) "\x7d" (← turns)
          []
      return .table span .inline entries
    else
      let (span, value) ← spanned scalar
      return .scalar span value

def value : Reader Item :=
  valueWithin depthLimit

end Reader

end JobShell.Toml
