import JobShell.Text.Column
import JobShell.Text.Decimal
import JobShell.Tool.Decimal
import JobShell.Tool.Version

/-!
# Lines in order

`sort` and `uniq`. Lines are compared by keys, which are stretches of them that
begin and end at fields; lines whose keys agree are compared as a whole in the
end. Neighbours that compare equal form a run.
-/

namespace JobShell.Tool

open Unix (Program Descriptor Errno)

set_option autoImplicit false

def compareBytes : List UInt8 → List UInt8 → Ordering
  | [], [] => .eq
  | [], _ :: _ => .lt
  | _ :: _, [] => .gt
  | first :: rest, other :: others =>
    if first < other then .lt
    else if other < first then .gt
    else compareBytes rest others

def folded (line : List UInt8) : List UInt8 :=
  line.map fun byte => if 97 ≤ byte && byte ≤ 122 then byte - 32 else byte

def isBlank (byte : UInt8) : Bool :=
  byte == 32 || byte == 9

def isLetterOrDigit (byte : UInt8) : Bool :=
  (48 ≤ byte && byte ≤ 57) || (65 ≤ byte && byte ≤ 90) || (97 ≤ byte && byte ≤ 122)

def fieldLength (line : List UInt8) : Nat :=
  let blanks := (line.takeWhile isBlank).length
  blanks + ((line.drop blanks).takeWhile (!isBlank ·)).length

def charactersOf (line : List UInt8) : List Char :=
  line.map fun byte => Char.ofNat byte.toNat

/-- How two keys are compared if not by their bytes: by the number at their start, by a
number that may have an exponent, by a number with the letter of a multiple, by the
name of a month, or as versions. -/
inductive KeyKind where
  | number
  | general
  | scaled
  | month
  | version
  deriving DecidableEq, Repr

def KeyKind.letter : KeyKind → Char
  | .number => 'n'
  | .general => 'g'
  | .scaled => 'h'
  | .month => 'M'
  | .version => 'V'

structure KeyOrder where
  kinds : List KeyKind
  fold : Bool
  dictionary : Bool
  printable : Bool
  skipStart : Bool
  skipEnd : Bool
  reversed : Bool
  deriving DecidableEq, Repr

namespace KeyOrder

def plain : KeyOrder :=
  ⟨[], false, false, false, false, false, false⟩

def isPlain (order : KeyOrder) : Bool :=
  { order with reversed := false } == plain

def withKind (order : KeyOrder) (kind : KeyKind) : KeyOrder :=
  { order with kinds := if order.kinds.contains kind then order.kinds else kind :: order.kinds }

/-- The letters that do not go together, if there are any. Leaving bytes out only goes
with an order by bytes or by versions. -/
def conflict? (order : KeyOrder) : Option String :=
  let leavesOut := order.dictionary || order.printable
  let versions := leavesOut || order.kinds.contains .version
  let ways := (order.kinds.filter (· != .version)).length + (if versions then 1 else 0)
  let asked (letter : Char) : Bool :=
    match letter with
    | 'd' => order.dictionary
    | 'f' => order.fold
    | 'i' => order.printable && !order.dictionary
    | _ => order.kinds.any (·.letter == letter)
  if ways > 1 then some (String.ofList ("dfghiMnV".toList.filter asked)) else none

/-- Takes in a letter. Blanks are skipped at the start, at the end or at both. -/
def letter? (order : KeyOrder) (atStart atEnd : Bool) : Char → Option KeyOrder
  | 'b' => some { order with
      skipStart := order.skipStart || atStart, skipEnd := order.skipEnd || atEnd }
  | 'd' => some { order with dictionary := true }
  | 'f' => some { order with fold := true }
  | 'g' => some (order.withKind .general)
  | 'h' => some (order.withKind .scaled)
  | 'i' => some { order with printable := true }
  | 'M' => some (order.withKind .month)
  | 'n' => some (order.withKind .number)
  | 'r' => some { order with reversed := true }
  | 'V' => some (order.withKind .version)
  | _ => none

def letters (order : KeyOrder) (atStart atEnd : Bool) : List Char → KeyOrder × List Char
  | [] => (order, [])
  | character :: rest =>
    match order.letter? atStart atEnd character with
    | some order => order.letters atStart atEnd rest
    | none => (order, character :: rest)

end KeyOrder

/-- The number at the start of a key, after blanks, and what follows it. A key
without a number has the value zero. -/
def leadingNumber (key : List UInt8) : SignedFraction × List Char :=
  let text := charactersOf (key.dropWhile isBlank)
  let (negative, digits) :=
    match text with
    | '-' :: rest => (true, rest)
    | _ => (false, text)
  let whole := digits.takeWhile Char.isDigit
  let behind := digits.drop whole.length
  let (places, rest) :=
    match behind with
    | '.' :: later => (later.takeWhile Char.isDigit, later.dropWhile Char.isDigit)
    | _ => ([], behind)
  let value := SignedFraction.ofDigits (whole ++ places)
  (⟨negative, ⟨value, -(places.length : Int)⟩⟩, rest)

def compareFractions (first second : SignedFraction) : Ordering :=
  let least := min first.size.scale second.size.scale
  let units (fraction : SignedFraction) : Int :=
    let size : Int := fraction.size.digits * Nat.pow 10 (fraction.size.scale - least).toNat
    if fraction.negative then -size else size
  compare (units first) (units second)

def multipleRank : List Char → Int
  | 'k' :: _ | 'K' :: _ => 1
  | 'M' :: _ => 2
  | 'G' :: _ => 3
  | 'T' :: _ => 4
  | 'P' :: _ => 5
  | 'E' :: _ => 6
  | 'Z' :: _ => 7
  | 'Y' :: _ => 8
  | _ => 0

/-- The order of numbers with the letter of a multiple: by the sign, then by the
letter, and by the number in the end. -/
def compareScaled (first second : List UInt8) : Ordering :=
  let rank (key : List UInt8) : Int :=
    let (fraction, rest) := leadingNumber key
    if fraction.size.digits = 0 then 0
    else if fraction.negative then -1 - multipleRank rest
    else 1 + multipleRank rest
  (compare (rank first) (rank second)).then
    (compareFractions (leadingNumber first).1 (leadingNumber second).1)

/-- A number that may have an exponent at the start of a key. Keys without one come
first. -/
def compareGeneral (first second : List UInt8) : Ordering :=
  let read (key : List UInt8) : Option SignedFraction :=
    (SignedFraction.read? (charactersOf (key.dropWhile isBlank))).map fun reading => reading.1
  match read first, read second with
  | none, none => .eq
  | none, some _ => .lt
  | some _, none => .gt
  | some first, some second => compareFractions first second

def monthRank (key : List UInt8) : Nat :=
  let name := String.ofList (charactersOf ((folded (key.dropWhile isBlank)).take 3))
  match ["JAN", "FEB", "MAR", "APR", "MAY", "JUN", "JUL", "AUG", "SEP", "OCT", "NOV",
      "DEC"].idxOf? name with
  | some place => place + 1
  | none => 0

/-- The bytes of a key that count. The order of dictionaries goes before that of printable
bytes. -/
def KeyOrder.kept (order : KeyOrder) (key : List UInt8) : List UInt8 :=
  let counted := key.filter fun byte =>
    if order.dictionary then isBlank byte || isLetterOrDigit byte
    else !order.printable || (32 ≤ byte && byte ≤ 126)
  if order.fold then folded counted else counted

def KeyOrder.compare (order : KeyOrder) (first second : List UInt8) : Ordering :=
  let result :=
    match order.kinds.head? with
    | none => compareBytes (order.kept first) (order.kept second)
    | some .number => compareFractions (leadingNumber first).1 (leadingNumber second).1
    | some .general => compareGeneral first second
    | some .scaled => compareScaled first second
    | some .month => Ord.compare (monthRank first) (monthRank second)
    | some .version => Version.compareNames (order.kept first) (order.kept second)
  if order.reversed then result.swap else result

/-- A stretch of a line. It starts some bytes into a field, or with the line, and
ends with a field, some bytes into one, or with the line. -/
structure SortKey where
  start : Option (Nat × Nat)
  stop : Option (Nat × Nat)
  order : KeyOrder
  deriving DecidableEq, Repr

def bytesBeforeField (separator : Option UInt8) (line : List UInt8) : Nat → Nat
  | 0 => 0
  | fields + 1 =>
    let size :=
      match separator with
      | none => fieldLength line
      | some byte =>
        let field := (line.takeWhile (· != byte)).length
        if field < line.length then field + 1 else field
    if size = 0 then 0 else size + bytesBeforeField separator (line.drop size) fields

def bytesThroughField (separator : Option UInt8) (line : List UInt8) (field : Nat) : Nat :=
  let before := bytesBeforeField separator line field
  let rest := line.drop before
  before +
    match separator with
    | none => fieldLength rest
    | some byte => (rest.takeWhile (· != byte)).length

def afterBlanks (skip : Bool) (line : List UInt8) (place : Nat) : Nat :=
  if skip then place + ((line.drop place).takeWhile isBlank).length else place

def SortKey.cut (key : SortKey) (separator : Option UInt8) (line : List UInt8) : List UInt8 :=
  let first :=
    match key.start with
    | none => afterBlanks key.order.skipStart line 0
    | some (field, offset) =>
      min line.length
        (afterBlanks key.order.skipStart line (bytesBeforeField separator line field) + offset)
  let last :=
    match key.stop with
    | none => line.length
    | some (field, 0) => bytesThroughField separator line field
    | some (field, offset) =>
      min line.length
        (afterBlanks key.order.skipEnd line (bytesBeforeField separator line field) + offset)
  (line.take last).drop first

structure SortRules where
  keys : List SortKey
  separator : Option UInt8
  reversed : Bool
  stable : Bool
  distinct : Bool

def SortRules.compareKeys (rules : SortRules) (first second : List UInt8) : Ordering :=
  rules.keys.foldl
    (fun result key => result.then
      (key.order.compare (key.cut rules.separator first) (key.cut rules.separator second)))
    .eq

/-- Compares two lines. When their keys agree, the lines themselves are compared,
except in a stable order and where only one of such lines is kept. -/
def SortRules.compare (rules : SortRules) (first second : List UInt8) : Ordering :=
  let byKeys := rules.compareKeys first second
  if byKeys != .eq || (!rules.keys.isEmpty && (rules.stable || rules.distinct)) then byKeys
  else if rules.reversed then compareBytes second first
  else compareBytes first second

def SortRules.before (rules : SortRules) (first second : List UInt8) : Bool :=
  rules.compare first second != .gt

def SortRules.thinned (rules : SortRules) (lines : List (List UInt8)) : List (List UInt8) :=
  (lines.foldl
    (fun (kept : List (List UInt8)) line =>
      match kept with
      | last :: _ => if rules.compare last line == .eq then kept else line :: kept
      | [] => [line])
    []).reverse

def keyCount (reason : String) (text : List Char) : Except String (Nat × List Char) :=
  let digits := text.takeWhile Char.isDigit
  if digits.isEmpty then
    .error (reason ++ ": invalid count at start of " ++ Text.ShellWord.cited (String.ofList text))
  else .ok (SignedFraction.ofDigits digits, text.drop digits.length)

/-- Reads the text of a key: a field with an offset and letters, and the same for
the end. -/
def readKey (text : String) : Except String SortKey :=
  let wrong {α : Type} (reason : String) : Except String α :=
    .error (reason ++ ": invalid field specification " ++ Text.ShellWord.cited text)
  do
    let (field, rest) ← keyCount "invalid number at field start" text.toList
    if field = 0 then wrong "field number is zero" else pure ()
    let (offset, rest) ←
      match rest with
      | '.' :: later => keyCount "invalid number after '.'" later
      | _ => pure (1, rest)
    if offset = 0 then wrong "character offset is zero" else pure ()
    let start := if field = 1 && offset = 1 then none else some (field - 1, offset - 1)
    let (order, rest) := KeyOrder.plain.letters true false rest
    let (stop, order, rest) ←
      match rest with
      | ',' :: later => do
        let (field, rest) ← keyCount "invalid number after ','" later
        if field = 0 then wrong "field number is zero" else pure ()
        let (offset, rest) ←
          match rest with
          | '.' :: later => keyCount "invalid number after '.'" later
          | _ => pure (0, rest)
        let (order, rest) := order.letters false true rest
        pure (some (field - 1, offset), order, rest)
      | _ => pure (none, order, rest)
    if rest.isEmpty then return ⟨start, stop, order⟩
    else wrong "stray character in field spec"

def readSeparator (text : String) : Except String UInt8 :=
  match byteList text.toUTF8 with
  | [] => .error "empty tab"
  | [byte] => .ok byte
  | [92, 48] => .ok 0
  | _ => .error ("multi-character tab " ++ Text.ShellWord.cited text)

/-- The rules that flags ask for. Keys without letters of their own take the
letters of the call. -/
def sortRules (flags : List Flag) : Except String SortRules := do
  let letters := flags.filterMap fun flag =>
    match flag with
    | .letter letter => some letter
    | .valued _ _ => none
  let general := letters.foldl
    (fun (order : KeyOrder) letter => (order.letter? true true letter).getD order) KeyOrder.plain
  let written ← (valuesOf flags 'k').mapM readKey
  let separators ← (valuesOf flags 't').mapM readSeparator
  let keys :=
    if written.isEmpty then (if general.isPlain then [] else [⟨none, none, general⟩])
    else written.map fun key =>
      if key.order == .plain then { key with order := general } else key
  match keys.findSome? fun key => key.order.conflict? with
  | some letters => .error ("options '-" ++ letters ++ "' are incompatible")
  | none => pure ()
  return ⟨keys, separators.getLast?, general.reversed, given flags 's', given flags 'u'⟩

def sortFlags : FlagTable :=
  { FlagTable.ofLetters "bcCdfghiMmnrsuVz" "koSTt" with
    long := [("ignore-leading-blanks", 'b'), ("check", 'c'), ("dictionary-order", 'd'),
      ("ignore-case", 'f'), ("general-numeric-sort", 'g'), ("human-numeric-sort", 'h'),
      ("ignore-nonprinting", 'i'), ("month-sort", 'M'), ("merge", 'm'), ("numeric-sort", 'n'),
      ("reverse", 'r'), ("stable", 's'), ("unique", 'u'), ("version-sort", 'V'), ("key", 'k'),
      ("output", 'o'), ("field-separator", 't'), ("zero-terminated", 'z')] }

def sortFailure {α : Type} (own action path : String) (errno : Errno) : Program α := do
  complain own (action ++ ": " ++ because (Text.ShellWord.shown path) errno)
  Program.exit 2

def checkInputs (own : String) : List String → Program Unit
  | [] => pure ()
  | path :: rest => do
    if path != "-" then
      match ← Program.openFile path .reading with
      | .ok source =>
        let _ ← Program.close source
        pure ()
      | .error errno => sortFailure own "cannot read" path errno
    checkInputs own rest

def sortInputs (own : String) (separator : UInt8) :
    List String → Program (List (List (List UInt8)))
  | [] => pure []
  | path :: rest => do
    let source ←
      if path = "-" then pure Unix.standardInput
      else
        match ← Program.openFile path .reading with
        | .ok source => pure source
        | .error errno => sortFailure own "open failed" path errno
    match ← readAll source with
    | (_, .error errno) => sortFailure own "read failed" path errno
    | (bytes, .ok _) =>
      if path != "-" then
        let _ ← Program.close source
      let others ← sortInputs own separator rest
      return linesOf separator bytes :: others

def SortRules.disorder? (rules : SortRules) :
    Nat → List UInt8 → List (List UInt8) → Option (Nat × List UInt8)
  | _, _, [] => none
  | number, last, line :: rest =>
    match rules.compare last line with
    | .gt => some (number, line)
    | .eq => if rules.distinct then some (number, line) else rules.disorder? (number + 1) line rest
    | .lt => rules.disorder? (number + 1) line rest

def checkOrder (own : String) (rules : SortRules) (separator : UInt8) (quiet : Bool)
    (path : String) (lines : List (List UInt8)) : Program Unit := do
  let found :=
    match lines with
    | [] => none
    | first :: rest => rules.disorder? 2 first rest
  match found with
  | none => Program.exit 0
  | some (number, line) =>
    if !quiet then
      Program.say Unix.standardError
        (own ++ ": " ++ path ++ ":" ++ toString number ++ ": disorder: ")
      let _ ← Program.writeAll Unix.standardError (joinLines separator [line])
    Program.exit 1

def sort (arguments : List String) : Program Unit :=
  let own := arguments.headD "sort"
  withFlags own 2 sortFlags (arguments.drop 1) fun flags files => do
    match sortRules flags with
    | .error message =>
      complain own message
      Program.exit 2
    | .ok rules =>
      let files := if files.isEmpty then ["-"] else files
      checkInputs own files
      let checking := given flags 'c' || given flags 'C'
      if checking then
        match files[1]? with
        | some extra =>
          complain own ("extra operand " ++ Text.ShellWord.cited extra ++ " not allowed with -" ++
            (if given flags 'C' then "C" else "c"))
          Program.exit 2
        | none => pure ()
      let separator := separatorOf (given flags 'z')
      let inputs ← sortInputs own separator files
      if checking then
        checkOrder own rules separator (given flags 'C') (files.headD "-") inputs.flatten
      let sorted :=
        if given flags 'm' then
          inputs.foldl (fun merged lines => List.merge merged lines rules.before) []
        else inputs.flatten.mergeSort rules.before
      let lines := if rules.distinct then rules.thinned sorted else sorted
      let target ←
        match valueOf? flags 'o' with
        | none => pure Unix.standardOutput
        | some path =>
          match ← Program.openFile path (.truncating 0o666) with
          | .error errno => sortFailure own "open failed" path errno
          | .ok target => pure target
      match ← Program.writeAll target (joinLines separator lines) with
      | .ok _ => Program.exit 0
      | .error errno =>
        complain own (because ("fflush failed: " ++
          Text.ShellWord.shown ((valueOf? flags 'o').getD "standard output")) errno)
        complain own "write error"
        Program.exit 2

def runsOf (same : List UInt8 → List UInt8 → Bool) (lines : List (List UInt8)) :
    List (List (List UInt8)) :=
  ((lines.foldl
    (fun (runs : List (List (List UInt8))) line =>
      match runs with
      | (last :: earlier) :: rest =>
        if same last line then (line :: last :: earlier) :: rest else [line] :: runs
      | _ => [line] :: runs)
    []).map List.reverse).reverse

def uniqCount (own subject : String) (value : Option String) : Program (Option Nat) :=
  match value with
  | none => pure none
  | some text =>
    match Text.Decimal.digits? text with
    | some count => pure (some count)
    | none => do
      complain own (text ++ ": invalid number of " ++ subject)
      Program.exit 1

def uniqFlags : FlagTable :=
  { FlagTable.ofLetters "cdDiuz" "fsw" with
    long := [("count", 'c'), ("repeated", 'd'), ("ignore-case", 'i'), ("unique", 'u'),
      ("skip-fields", 'f'), ("skip-chars", 's'), ("check-chars", 'w'), ("zero-terminated", 'z')] }

def uniq (arguments : List String) : Program Unit :=
  let own := arguments.headD "uniq"
  withFlags own 1 uniqFlags (arguments.drop 1) fun flags files => do
    match files[2]? with
    | some extra => misuse own ("extra operand " ++ Text.ShellWord.cited extra) 1
    | none => pure ()
    let fields ← uniqCount own "fields to skip" (valueOf? flags 'f')
    let skipped ← uniqCount own "bytes to skip" (valueOf? flags 's')
    let compared ← uniqCount own "bytes to compare" (valueOf? flags 'w')
    if given flags 'c' && given flags 'D' then
      misuse own "printing all duplicated lines and repeat counts is meaningless" 1
    let wording : Wording :=
      { Wording.plain own with
        reading := fun path _ => "error reading " ++ Text.ShellWord.quoted path }
    let (bytes, clean) ← readInputs wording (files.take 1)
    if !clean then Program.exit 1
    let separator := separatorOf (given flags 'z')
    let part (line : List UInt8) : List UInt8 :=
      let rest := (line.drop (bytesBeforeField none line (fields.getD 0))).drop (skipped.getD 0)
      let rest := (compared.map rest.take).getD rest
      if given flags 'i' then folded rest else rest
    let runs := runsOf (fun first second => part first == part second) (linesOf separator bytes)
    let wanted := runs.filter fun run =>
      (!(given flags 'd' || given flags 'D') || run.length > 1) &&
        (!given flags 'u' || run.length = 1)
    let text := wanted.flatMap fun run =>
      if given flags 'D' then run
      else
        let line := run.headD []
        if given flags 'c' then
          [byteList (Text.padLeft 7 (toString run.length) ++ " ").toUTF8 ++ line]
        else [line]
    match files[1]? with
    | none => emit own (joinLines separator text)
    | some (path : String) =>
      match ← Program.openFile (path : String) (.truncating 0o666) with
      | .error errno =>
        complain own (because (Text.ShellWord.shown path) errno)
        Program.exit 1
      | .ok target =>
        let _ ← Program.writeAll target (joinLines separator text)
    Program.exit 0

end JobShell.Tool
