import JobShell.Text.Column
import JobShell.Tool.Basic

/-!
# Replacing bytes

`tr` replaces, deletes and squeezes the bytes of its input. A set of bytes is
written with escapes, ranges, classes and repetitions; an escaped character never
has a special meaning.
-/

namespace JobShell.Tool

open Unix (Program)

set_option autoImplicit false

def byteRange (first last : UInt8) : List UInt8 :=
  (List.range (last.toNat + 1 - first.toNat)).map fun step => UInt8.ofNat (first.toNat + step)

def classBytes? (name : String) : Option (List UInt8) :=
  let digits := byteRange 48 57
  let upper := byteRange 65 90
  let lower := byteRange 97 122
  match name with
  | "alpha" => some (upper ++ lower)
  | "digit" => some digits
  | "alnum" => some (digits ++ upper ++ lower)
  | "upper" => some upper
  | "lower" => some lower
  | "space" => some (byteRange 9 13 ++ [32])
  | "blank" => some [9, 32]
  | "punct" => some (byteRange 33 47 ++ byteRange 58 64 ++ byteRange 91 96 ++ byteRange 123 126)
  | "cntrl" => some (byteRange 0 31 ++ [127])
  | "print" => some (byteRange 32 126)
  | "graph" => some (byteRange 33 126)
  | "xdigit" => some (digits ++ byteRange 65 70 ++ byteRange 97 102)
  | _ => none

structure SetByte where
  value : UInt8
  escaped : Bool
  deriving DecidableEq, Repr

def escapedByte (letter : UInt8) : UInt8 :=
  match Char.ofNat letter.toNat with
  | 'a' => 7
  | 'b' => 8
  | 'f' => 12
  | 'n' => 10
  | 'r' => 13
  | 't' => 9
  | 'v' => 11
  | _ => letter

def octalByte? (byte : UInt8) : Option Nat :=
  if 48 ≤ byte && byte ≤ 55 then some (byte.toNat - 48) else none

/-- Reads the escapes in a set. A third octal digit counts only while the value
fits into a byte. A backslash at the end stands for itself. -/
def readEscapes : List UInt8 → List SetByte
  | [] => []
  | byte :: rest =>
    if byte != 92 then ⟨byte, false⟩ :: readEscapes rest
    else
      match rest with
      | [] => [⟨92, false⟩]
      | letter :: rest =>
        match octalByte? letter with
        | none => ⟨escapedByte letter, true⟩ :: readEscapes rest
        | some first =>
          match rest with
          | [] => [⟨UInt8.ofNat first, true⟩]
          | next :: later =>
            match octalByte? next with
            | none => ⟨UInt8.ofNat first, true⟩ :: readEscapes (next :: later)
            | some second =>
              let value := first * 8 + second
              match later with
              | [] => [⟨UInt8.ofNat value, true⟩]
              | last :: final =>
                match octalByte? last with
                | none => ⟨UInt8.ofNat value, true⟩ :: readEscapes (last :: final)
                | some third =>
                  if value * 8 + third < 256 then
                    ⟨UInt8.ofNat (value * 8 + third), true⟩ :: readEscapes final
                  else ⟨UInt8.ofNat value, true⟩ :: readEscapes (last :: final)

/-- Part of a set. A repetition without a count fills the set up. -/
inductive SetItem where
  | bytes (values : List UInt8)
  | classNamed (name : String) (values : List UInt8)
  | equivalents (value : UInt8)
  | filling (value : UInt8)
  deriving DecidableEq, Repr

inductive SetFault where
  | reversedRange (first last : UInt8)
  | noClassName
  | unknownClass (name : String)
  | noEquivalent
  | manyEquivalents (text : String)
  | badRepeat (text : String)
  | fillsFirst
  | fillsTwice
  | equivalentsInSecond
  | classInSecond
  | misaligned
  | emptySecond
  | endsWithClass
  | fillsWithoutFirst
  | notUniform
  deriving DecidableEq, Repr

def SetByte.isBare (byte : SetByte) (character : Char) : Bool :=
  !byte.escaped && byte.value.toNat == character.toNat

def untilPair (first second : Char) : List SetByte → Option (List SetByte × List SetByte)
  | [] => none
  | byte :: rest =>
    match rest with
    | [] => none
    | next :: later =>
      if byte.isBare first && next.isBare second then some ([], later)
      else (untilPair first second rest).map fun (inside, behind) => (byte :: inside, behind)

def setText (bytes : List SetByte) : String :=
  String.ofList (bytes.map fun byte => Char.ofNat byte.value.toNat)

def repeatCount? (text : List SetByte) : Option Nat :=
  let digits := text.map fun byte => byte.value.toNat - 48
  let base := if digits.head? == some 0 then 8 else 10
  if text.all fun byte => 48 ≤ byte.value && byte.value.toNat < 48 + base then
    some (digits.foldl (fun value digit => value * base + digit) 0)
  else none

def readRepeat (bytes : List SetByte) : Except SetFault (Option (SetItem × List SetByte)) :=
  match bytes with
  | byte :: star :: rest =>
    if !star.isBare '*' then .ok none
    else
      let inside := rest.takeWhile fun next => !next.escaped && !next.isBare ']'
      match rest.drop inside.length with
      | close :: behind =>
        if !close.isBare ']' then .ok none
        else if inside.isEmpty then .ok (some (.filling byte.value, behind))
        else
          match repeatCount? inside with
          | none => .error (.badRepeat (setText inside))
          | some 0 => .ok (some (.filling byte.value, behind))
          | some count => .ok (some (.bytes (List.replicate (min count 65536) byte.value), behind))
      | [] => .ok none
  | _ => .ok none

def readBracketed (bytes : List SetByte) : Except SetFault (Option (SetItem × List SetByte)) := do
  match bytes with
  | mark :: rest =>
    let delimiter? : Option Char :=
      if mark.isBare ':' then some ':' else if mark.isBare '=' then some '=' else none
    match delimiter? with
    | none => readRepeat bytes
    | some delimiter =>
      match untilPair delimiter ']' rest with
      | none => readRepeat bytes
      | some (inside, behind) =>
        let fallBack (fault : SetFault) : Except SetFault (Option (SetItem × List SetByte)) := do
          match ← readRepeat bytes with
          | some found => pure (some found)
          | none => .error fault
        if delimiter == ':' then
          if inside.isEmpty then .error .noClassName
          else
            match classBytes? (setText inside) with
            | some values => pure (some (.classNamed (setText inside) values, behind))
            | none => fallBack (.unknownClass (setText inside))
        else
          match inside with
          | [] => .error .noEquivalent
          | [byte] => pure (some (.equivalents byte.value, behind))
          | _ => fallBack (.manyEquivalents (setText inside))
  | [] => pure none

/-- Reads the items of a set. Fuel is the number of bytes left. -/
def readItems : Nat → List SetByte → Except SetFault (List SetItem)
  | 0, _ => .ok []
  | turns + 1, bytes =>
    match bytes with
    | [] => .ok []
    | first :: rest => do
      match rest with
      | mark :: last :: behind =>
        let found ← if first.isBare '[' then readBracketed rest else pure none
        match found with
        | some (item, later) => return item :: (← readItems turns later)
        | none =>
          if mark.isBare '-' then
            if last.value < first.value then .error (.reversedRange first.value last.value)
            else return .bytes (byteRange first.value last.value) :: (← readItems turns behind)
          else return .bytes [first.value] :: (← readItems turns rest)
      | _ => return .bytes [first.value] :: (← readItems turns rest)

def readSet (text : String) : Except SetFault (List SetItem) :=
  let bytes := readEscapes (byteList text.toUTF8)
  readItems bytes.length bytes

/-- The bytes of an item, given how many a filling stands for. -/
def SetItem.values (fill : Nat) : SetItem → List UInt8
  | .bytes values => values
  | .classNamed _ values => values
  | .equivalents value => [value]
  | .filling value => List.replicate fill value

def setValues (fill : Nat) (items : List SetItem) : List UInt8 :=
  items.flatMap (SetItem.values fill)

def SetItem.isFilling : SetItem → Bool
  | .filling _ => true
  | _ => false

def SetItem.isClass : SetItem → Bool
  | .classNamed _ _ => true
  | _ => false

def caseClassPlaces (fill : Nat) : Nat → List SetItem → List Nat
  | _, [] => []
  | place, item :: rest =>
    let others := caseClassPlaces fill (place + (item.values fill).length) rest
    match item with
    | .classNamed name _ => if name == "upper" || name == "lower" then place :: others else others
    | _ => others

def membership (set : List UInt8) : Array Bool :=
  set.foldl (fun (table : Array Bool) byte => table.set! byte.toNat true)
    (Array.replicate 256 false)

def complementOf (set : List UInt8) : List UInt8 :=
  let table := membership set
  (byteRange 0 255).filter fun byte => !table[byte.toNat]!

/-- A table of the bytes that each byte becomes. Later pairs count. -/
def replacements (first second : List UInt8) : Array UInt8 :=
  (first.zip second).foldl
    (fun (table : Array UInt8) (pair : UInt8 × UInt8) => table.set! pair.1.toNat pair.2)
    ((byteRange 0 255).toArray)

/-- The sets of a replacement with as many bytes in the second as in the first,
unless the first is to be cut off. -/
def matchedSets (complement cut : Bool) (first second : List SetItem) :
    Except SetFault (List UInt8 × List UInt8) := do
  let domain := if complement then complementOf (setValues 0 first) else setValues 0 first
  let fill := domain.length - (setValues 0 second).length
  let range := setValues fill second
  if (second.filter SetItem.isFilling).length > 1 then .error .fillsTwice
  for item in second do
    match item with
    | .equivalents _ => .error .equivalentsInSecond
    | .classNamed name _ => if name != "upper" && name != "lower" then .error .classInSecond
    | _ => pure ()
  let places := if complement then [] else caseClassPlaces 0 0 first
  if (caseClassPlaces fill 0 second).any fun place => !places.contains place then
    .error .misaligned
  if range.length < domain.length && !cut then
    match range.getLast?, second.getLast? with
    | none, _ => .error .emptySecond
    | some _, some (.classNamed _ _) => .error .endsWithClass
    | some last, _ =>
      let full := range ++ List.replicate (domain.length - range.length) last
      if complement && first.any SetItem.isClass && full.any (· != full.headD 0) then
        .error .notUniform
      return (domain, full)
  else
    if complement && first.any SetItem.isClass &&
        (range.length != domain.length || range.any (· != range.headD 0)) then
      .error .notUniform
    return (domain, range)

structure TrRules where
  delete : Option (Array Bool)
  table : Array UInt8
  squeeze : Option (Array Bool)

def TrRules.step (rules : TrRules) (state : ByteArray × Option UInt8) (byte : UInt8) :
    ByteArray × Option UInt8 :=
  if (rules.delete.map fun table => table[byte.toNat]!).getD false then state
  else
    let changed := rules.table[byte.toNat]!
    let repeated := state.2 == some changed &&
      (rules.squeeze.map fun table => table[changed.toNat]!).getD false
    if repeated then state else (state.1.push changed, some changed)

def trRules (flags : List Flag) (first : String) (second : Option String) :
    Except SetFault TrRules := do
  let complement := given flags 'c' || given flags 'C'
  let same := (byteRange 0 255).toArray
  let firstItems ← readSet first
  let secondItems ← second.mapM readSet
  if firstItems.any SetItem.isFilling then .error .fillsFirst
  let domain :=
    if complement then complementOf (setValues 0 firstItems) else setValues 0 firstItems
  match secondItems with
  | none =>
    if given flags 'd' then return ⟨some (membership domain), same, none⟩
    else return ⟨none, same, some (membership domain)⟩
  | some items =>
    if given flags 'd' then
      if items.any SetItem.isFilling then .error .fillsWithoutFirst
      return ⟨some (membership domain), same, some (membership (setValues 0 items))⟩
    else
      let (domain, range) ← matchedSets complement (given flags 't') firstItems items
      return ⟨none, replacements domain range,
        if given flags 's' then some (membership range) else none⟩

def setByteText (byte : UInt8) : String :=
  if Text.ShellWord.isPrintable byte then (Char.ofNat byte.toNat).toString
  else "\\" ++ Text.padLeftWith '0' 3 (Text.octal byte.toNat)

def SetFault.message : SetFault → String
  | .reversedRange first last =>
    "range-endpoints of '" ++ setByteText first ++ "-" ++ setByteText last ++
      "' are in reverse collating sequence order"
  | .noClassName => "missing character class name '[::]'"
  | .unknownClass name => "invalid character class " ++ Text.ShellWord.cited name
  | .noEquivalent => "missing equivalence class character '[==]'"
  | .manyEquivalents text =>
    text ++ ": equivalence class operand must be a single character"
  | .badRepeat text =>
    "invalid repeat count " ++ Text.ShellWord.cited text ++ " in [c*n] construct"
  | .fillsFirst => "the [c*] repeat construct may not appear in string1"
  | .fillsTwice => "only one [c*] repeat construct may appear in string2"
  | .equivalentsInSecond => "[=c=] expressions may not appear in string2 when translating"
  | .classInSecond =>
    "when translating, the only character classes that may appear in\n" ++
      "string2 are 'upper' and 'lower'"
  | .misaligned => "misaligned [:upper:] and/or [:lower:] construct"
  | .emptySecond => "when not truncating set1, string2 must be non-empty"
  | .endsWithClass =>
    "when translating with string1 longer than string2,\n" ++
      "the latter string must not end with a character class"
  | .fillsWithoutFirst => "the [c*] construct may appear in string2 only when translating"
  | .notUniform =>
    "when translating with complemented character classes,\n" ++
      "string2 must map all characters in the domain to one"

def checkSets (own : String) (delete squeeze : Bool) (sets : List String) : Program Unit := do
  let least := if delete == squeeze then 2 else 1
  let most := if delete && !squeeze then 1 else 2
  let hint (second : String) : Program Unit :=
    Program.say Unix.standardError
      (second ++ "\nTry '" ++ own ++ " --help' for more information.\n")
  match sets, sets[most]? with
  | [], _ => misuse own "missing operand" 1
  | [only], _ =>
    if least = 2 then
      complain own ("missing operand after " ++ Text.ShellWord.cited only)
      hint (if squeeze then
          "Two strings must be given when both deleting and squeezing repeats."
        else "Two strings must be given when translating.")
      Program.exit 1
  | _, none => pure ()
  | _, some extra =>
    if sets.length = 2 then
      complain own ("extra operand " ++ Text.ShellWord.cited extra)
      hint "Only one string may be given when deleting without squeezing repeats."
      Program.exit 1
    else misuse own ("extra operand " ++ Text.ShellWord.cited extra) 1

def endsBare (text : String) : Bool :=
  (text.toList.reverse.takeWhile (· == '\\')).length % 2 == 1

def warnOfBareEnds (own : String) (sets : List String) : Program Unit :=
  match sets with
  | [] => pure ()
  | text :: rest => do
    if endsBare text then
      complain own "warning: an unescaped backslash at end of string is not portable"
    warnOfBareEnds own rest

def trFlags : FlagTable :=
  { FlagTable.ofLetters "cCdst" "" with
    long := [("complement", 'c'), ("delete", 'd'), ("squeeze-repeats", 's'),
      ("truncate-set1", 't')] }

def tr (arguments : List String) : Program Unit :=
  let own := arguments.headD "tr"
  withFlags own 1 trFlags (arguments.drop 1) fun flags sets => do
    checkSets own (given flags 'd') (given flags 's') sets
    warnOfBareEnds own sets
    match trRules flags (sets.headD "") sets[1]? with
    | .error fault =>
      complain own fault.message
      Program.exit 1
    | .ok rules =>
      let (_, result) ← foldBlocks Unix.standardInput
        (fun (last : Option UInt8) block => do
          let (text, last) := block.foldl rules.step (ByteArray.empty, last)
          emit own text
          return (last, true))
        untilEnd none
      match result with
      | .ok _ => Program.exit 0
      | .error errno =>
        complain own (because "read error" errno)
        Program.exit 1

end JobShell.Tool
