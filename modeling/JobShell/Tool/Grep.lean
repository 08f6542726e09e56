import JobShell.Text.Decimal
import JobShell.Tool.Translate

/-!
# Searching lines

Patterns are matched by taking derivatives: the derivative of a pattern by a
symbol matches what may follow that symbol. A line is read as its bytes between
a start and an end, which anchors match, so a line is searched by allowing
anything in front of a pattern and behind it.
-/

namespace JobShell.Tool

open Unix (Program Errno)

set_option autoImplicit false

inductive Symbol where
  | start
  | byte (value : UInt8)
  | stop
  deriving DecidableEq, Repr

/-- A pattern over lines. A class holds the bytes it lists, or all others. -/
inductive Pattern where
  | never
  | empty
  | startOfLine
  | endOfLine
  | set (negated : Bool) (bytes : List UInt8)
  | anything
  | either (first second : Pattern)
  | both (first second : Pattern)
  | many (pattern : Pattern)
  deriving DecidableEq, Repr

namespace Pattern

def matchesEmpty : Pattern → Bool
  | .never | .startOfLine | .endOfLine | .set _ _ => false
  | .empty | .anything | .many _ => true
  | .either first second => first.matchesEmpty || second.matchesEmpty
  | .both first second => first.matchesEmpty && second.matchesEmpty

def follow (first second : Pattern) : Pattern :=
  match first, second with
  | .never, _ | _, .never => .never
  | .empty, _ => second
  | _, .empty => first
  | _, _ => .both first second

def choose (first second : Pattern) : Pattern :=
  if first = .never then second
  else if second = .never then first
  else if first = second then first
  else .either first second

def after (symbol : Symbol) : Pattern → Pattern
  | .never | .empty => .never
  | .startOfLine => if symbol = .start then .empty else .never
  | .endOfLine => if symbol = .stop then .empty else .never
  | .set negated bytes =>
    match symbol with
    | .byte value => if bytes.contains value != negated then .empty else .never
    | _ => .never
  | .anything => .anything
  | .either first second => choose (first.after symbol) (second.after symbol)
  | .both first second =>
    let rest := (first.after symbol).follow second
    if first.matchesEmpty then choose rest (second.after symbol) else rest
  | .many pattern => (pattern.after symbol).follow (.many pattern)

def matchesAll (pattern : Pattern) : List Symbol → Bool
  | [] => pattern.matchesEmpty
  | symbol :: rest => (pattern.after symbol).matchesAll rest

/-- The length of the longest beginning of a text that matches and that may end before
what follows. -/
def longest? (pattern : Pattern) (mayEnd : List Symbol → Bool) : List Symbol → Option Nat
  | [] => if pattern.matchesEmpty && mayEnd [] then some 0 else none
  | symbol :: rest =>
    match (pattern.after symbol).longest? mayEnd rest with
    | some length => some (length + 1)
    | none => if pattern.matchesEmpty && mayEnd (symbol :: rest) then some 0 else none

def anyByte : Pattern :=
  .set true []

def upTo (pattern : Pattern) : Nat → Pattern
  | 0 => .empty
  | count + 1 => choose .empty (pattern.follow (pattern.upTo count))

def times (pattern : Pattern) : Nat → Pattern
  | 0 => .empty
  | count + 1 => pattern.follow (pattern.times count)

end Pattern

def bothCases (byte : UInt8) : List UInt8 :=
  if 97 ≤ byte && byte ≤ 122 then [byte, byte - 32]
  else if 65 ≤ byte && byte ≤ 90 then [byte, byte + 32]
  else [byte]

def wordBytes : List UInt8 :=
  byteRange 48 57 ++ byteRange 65 90 ++ [95] ++ byteRange 97 122

inductive PatternFault where
  | openBracket
  | unknownClass
  | reversedRange
  | openGroup
  | closedGroup
  | trailingBackslash
  | openCount
  | badCount
  | tooBig
  deriving DecidableEq, Repr

def PatternFault.message : PatternFault → String
  | .openBracket => "Unmatched [, [^, [:, [., or [="
  | .unknownClass => "Invalid character class name"
  | .reversedRange => "Invalid range end"
  | .openGroup => "Unmatched ( or \\("
  | .closedGroup => "Unmatched ) or \\)"
  | .trailingBackslash => "Trailing backslash"
  | .openCount => "Unmatched \\\x7b"
  | .badCount => "Invalid content of \\\x7b\\\x7d"
  | .tooBig => "Regular expression too big"

/-- The bytes of a bracket expression and what follows it. Fuel is the length of the
text. -/
def readBracketSet : Nat → Bool → List UInt8 → List UInt8 →
    Except PatternFault (List UInt8 × List UInt8)
  | 0, _, _, _ => .error .openBracket
  | _, _, _, [] => .error .openBracket
  | turns + 1, first, bytes, byte :: rest =>
    let plain : Except PatternFault (List UInt8 × List UInt8) :=
      match rest with
      | 45 :: last :: later =>
        if last = 93 then readBracketSet turns false (byte :: bytes) rest
        else if last < byte then .error .reversedRange
        else readBracketSet turns false (byteRange byte last ++ bytes) later
      | _ => readBracketSet turns false (byte :: bytes) rest
    if byte = 93 && !first then .ok (bytes, rest)
    else if byte = 91 && rest.head? == some 58 then
      let name := (rest.drop 1).takeWhile (· != 58)
      match (rest.drop 1).drop name.length with
      | 58 :: 93 :: later =>
        match classBytes? (String.ofList (name.map fun byte => Char.ofNat byte.toNat)) with
        | some members => readBracketSet turns false (members ++ bytes) later
        | none => .error .unknownClass
      | _ => plain
    else plain

/-- The way a pattern is spelled. In the basic way the operators for groups,
choices and counts need a backslash. -/
structure Spelling where
  extended : Bool
  foldCase : Bool

inductive Mark where
  | literal (byte : UInt8)
  | escaped (byte : UInt8)
  | star
  | plus
  | optional
  | openCount
  | openGroup
  | closeGroup
  | choice
  | lineStart
  | lineEnd
  | anyByte
  | openSet
  deriving DecidableEq, Repr

def Spelling.mark? (spelling : Spelling) :
    List UInt8 → Except PatternFault (Option (Mark × List UInt8))
  | [] => .ok none
  | 92 :: rest =>
    match rest with
    | [] => .error .trailingBackslash
    | byte :: rest =>
      let mark : Mark :=
        if spelling.extended then .escaped byte
        else
          match Char.ofNat byte.toNat with
          | '(' => .openGroup
          | ')' => .closeGroup
          | '|' => .choice
          | '+' => .plus
          | '?' => .optional
          | '\x7b' => .openCount
          | _ => .escaped byte
      .ok (some (mark, rest))
  | byte :: rest =>
    let special (mark : Mark) : Mark := if spelling.extended then mark else .literal byte
    let mark : Mark :=
      match Char.ofNat byte.toNat with
      | '*' => .star
      | '.' => .anyByte
      | '[' => .openSet
      | '^' => .lineStart
      | '$' => .lineEnd
      | '(' => special .openGroup
      | ')' => special .closeGroup
      | '|' => special .choice
      | '+' => special .plus
      | '?' => special .optional
      | '\x7b' => special .openCount
      | _ => .literal byte
    .ok (some (mark, rest))

def bytePattern (spelling : Spelling) (byte : UInt8) : Pattern :=
  .set false (if spelling.foldCase then bothCases byte else [byte])

def escapedPattern (spelling : Spelling) (byte : UInt8) : Pattern :=
  match Char.ofNat byte.toNat with
  | 'w' => .set false wordBytes
  | 'W' => .set true wordBytes
  | 's' => .set false (32 :: byteRange 9 13)
  | 'S' => .set true (32 :: byteRange 9 13)
  | _ => bytePattern spelling byte

def greatestCount : Nat := 32767

def Spelling.count? (spelling : Spelling) (text : List UInt8) :
    Except PatternFault (Option ((Nat × Option Nat) × List UInt8)) :=
  let isDigit (byte : UInt8) : Bool := 48 ≤ byte && byte ≤ 57
  let value (digits : List UInt8) : Nat :=
    digits.foldl (fun value digit => value * 10 + (digit.toNat - 48)) 0
  let least := text.takeWhile isDigit
  let (bounded, most, rest) :=
    match text.drop least.length with
    | 44 :: rest => (false, rest.takeWhile isDigit, rest.dropWhile isDigit)
    | rest => (true, least, rest)
  let behind? :=
    match rest, spelling.extended with
    | 125 :: rest, true => some rest
    | 92 :: 125 :: rest, false => some rest
    | _, _ => none
  let empty := least.isEmpty && (bounded || most.isEmpty)
  match behind? with
  | none =>
    if spelling.extended then .ok none
    else if rest.isEmpty then .error .openCount
    else .error .badCount
  | some behind =>
    if empty && bounded then (if spelling.extended then .ok none else .error .badCount)
    else
      let upper : Option Nat := if most.isEmpty then none else some (value most)
      if upper.any (· < value least) then .error .badCount
      else if greatestCount < max (value least) (upper.getD 0) then .error .tooBig
      else .ok (some ((value least, upper), behind))

def repeated (spelling : Spelling) : Nat → Pattern → List UInt8 →
    Except PatternFault (Pattern × List UInt8)
  | 0, atom, rest => .ok (atom, rest)
  | turns + 1, atom, text => do
    match ← spelling.mark? text with
    | some (.star, rest) => repeated spelling turns (.many atom) rest
    | some (.plus, rest) => repeated spelling turns (atom.follow (.many atom)) rest
    | some (.optional, rest) => repeated spelling turns (.choose .empty atom) rest
    | some (.openCount, rest) =>
      match ← spelling.count? rest with
      | some ((least, most), rest) =>
        let more := match most with
          | none => Pattern.many atom
          | some most => atom.upTo (most - least)
        repeated spelling turns ((atom.times least).follow more) rest
      | none => return (atom, text)
    | _ => return (atom, text)

/-- Whether a line can end here: nothing but the end of a choice or a group
follows. -/
def endsHere (spelling : Spelling) (rest : List UInt8) : Bool :=
  spelling.extended ||
    match spelling.mark? rest with
    | .ok none | .ok (some (.choice, _)) | .ok (some (.closeGroup, _)) => true
    | _ => false

/-- Reads a pattern up to the end, or to the end of the group it stands in. Fuel is
more than the length of the text. -/
def readPattern (spelling : Spelling) : Nat → Bool → Bool → Pattern → Pattern → List UInt8 →
    Except PatternFault (Pattern × List UInt8)
  | 0, _, _, choices, sequence, rest => .ok (.choose choices sequence, rest)
  | turns + 1, grouped, atStart, choices, sequence, text => do
    let withAtom (atom : Pattern) (rest : List UInt8) :
        Except PatternFault (Pattern × List UInt8) := do
      let (atom, rest) ← repeated spelling rest.length atom rest
      readPattern spelling turns grouped false choices (sequence.follow atom) rest
    match ← spelling.mark? text with
    | none =>
      if grouped then .error .openGroup else return (.choose choices sequence, [])
    | some (mark, rest) =>
      match mark with
      | .literal byte => withAtom (bytePattern spelling byte) rest
      | .escaped byte => withAtom (escapedPattern spelling byte) rest
      | .anyByte => withAtom .anyByte rest
      | .star =>
        if spelling.extended then readPattern spelling turns grouped atStart choices sequence rest
        else withAtom (bytePattern spelling 42) rest
      | .plus | .optional =>
        if spelling.extended then readPattern spelling turns grouped atStart choices sequence rest
        else withAtom (bytePattern spelling (if mark == .plus then 43 else 63)) rest
      | .openCount => withAtom (bytePattern spelling 123) rest
      | .openGroup => do
        let (inside, rest) ← readPattern spelling turns true true .never .empty rest
        withAtom inside rest
      | .closeGroup =>
        if grouped then return (.choose choices sequence, rest)
        else if spelling.extended then withAtom (bytePattern spelling 41) rest
        else .error .closedGroup
      | .choice =>
        readPattern spelling turns grouped true (.choose choices sequence) .empty rest
      | .lineStart =>
        if atStart || spelling.extended then
          readPattern spelling turns grouped atStart choices (sequence.follow .startOfLine) rest
        else withAtom (bytePattern spelling 94) rest
      | .lineEnd =>
        if endsHere spelling rest then
          readPattern spelling turns grouped false choices (sequence.follow .endOfLine) rest
        else withAtom (bytePattern spelling 36) rest
      | .openSet => do
        let (negated, body) :=
          match rest with
          | 94 :: body => (true, body)
          | _ => (false, rest)
        let (bytes, rest) ← readBracketSet body.length true [] body
        let bytes := if spelling.foldCase then bytes.flatMap bothCases else bytes
        withAtom (.set negated bytes) rest

def readSearch (spelling : Spelling) (fixed : Bool) (text : List UInt8) :
    Except PatternFault Pattern :=
  if fixed then
    .ok (text.foldr (fun byte rest => (bytePattern spelling byte).follow rest) .empty)
  else do
    let (pattern, _) ← readPattern spelling (text.length + 1) false true .never .empty text
    return pattern

def lineSymbols (line : List UInt8) : List Symbol :=
  .start :: (line.map Symbol.byte ++ [.stop])

inductive Extent where
  | anywhere
  | wholeWord
  | wholeLine
  deriving DecidableEq, Repr

def Extent.around (extent : Extent) (pattern : Pattern) : Pattern :=
  let between (left right : Pattern) : Pattern := left.follow (pattern.follow right)
  match extent with
  | .anywhere => between .anything .anything
  | .wholeLine =>
    between (.choose .empty .startOfLine) (.choose .empty .endOfLine)
  | .wholeWord =>
    let noWord := Pattern.set true wordBytes
    between (.choose .empty (Pattern.anything.follow (.choose .startOfLine noWord)))
      (.choose .empty ((Pattern.choose .endOfLine noWord).follow .anything))

def Symbol.isWord : Symbol → Bool
  | .byte value => wordBytes.contains value
  | _ => false

def Extent.mayFollow (extent : Extent) (symbol : Symbol) : Bool :=
  match extent with
  | .anywhere => true
  | .wholeWord => !symbol.isWord
  | .wholeLine => symbol == .start

def Extent.mayEnd (extent : Extent) (rest : List Symbol) : Bool :=
  match extent with
  | .anywhere => true
  | .wholeWord => !(rest.head?.any Symbol.isWord)
  | .wholeLine => rest == [.stop] || rest.isEmpty

/-- The stretches of a line that match, the longest from each place on, each with its
place in bytes. Fuel is more than the number of symbols, and what stands before them
is given with their place. -/
def matchingParts (extent : Extent) (pattern : Pattern) :
    Nat → Nat → Symbol → List Symbol → List (Nat × List UInt8)
  | 0, _, _, _ => []
  | _, _, _, [] => []
  | turns + 1, place, before, symbol :: rest =>
    let width := if symbol == .start then 0 else 1
    let length :=
      if extent.mayFollow before then
        (pattern.longest? extent.mayEnd (symbol :: rest)).getD 0
      else 0
    if length = 0 then matchingParts extent pattern turns (place + width) symbol rest
    else
      let symbols := (symbol :: rest).take length
      let part := symbols.filterMap fun symbol =>
        match symbol with
        | .byte value => some value
        | _ => none
      let others := matchingParts extent pattern turns (place + part.length)
        (symbols.getLast?.getD before) ((symbol :: rest).drop length)
      if part.isEmpty then others else (place, part) :: others

def grepFlags : FlagTable :=
  { FlagTable.ofLetters "EFGHLZabchilnoqsvwxyz" "efm" with
    long := [("byte-offset", 'b'), ("count", 'c'), ("extended-regexp", 'E'), ("file", 'f'),
      ("files-with-matches", 'l'), ("files-without-match", 'L'), ("fixed-strings", 'F'),
      ("basic-regexp", 'G'), ("ignore-case", 'i'), ("invert-match", 'v'), ("line-number", 'n'),
      ("line-regexp", 'x'), ("max-count", 'm'), ("no-filename", 'h'), ("no-messages", 's'),
      ("null", 'Z'), ("null-data", 'z'), ("only-matching", 'o'), ("quiet", 'q'), ("regexp", 'e'),
      ("silent", 'q'), ("text", 'a'), ("with-filename", 'H'), ("word-regexp", 'w')] }

def grepUsage {α : Type} (own : String) : Program α := do
  Program.say Unix.standardError ("Usage: " ++ own ++ " [OPTION]... PATTERNS [FILE]...\n")
  Program.say Unix.standardError ("Try '" ++ own ++ " --help' for more information.\n")
  Program.exit 2

/-- What `grep` tells about an input: nothing, its name if it has hits or if it has none,
the number of hits, or the hits. -/
inductive Report where
  | silence
  | names (withHits : Bool)
  | counts
  | lines
  deriving DecidableEq, Repr

def Report.ofFlags (flags : List Flag) : Report :=
  if given flags 'q' then .silence
  else
    match (flags.filter fun flag => flag == .letter 'l' || flag == .letter 'L').getLast? with
    | some flag => .names (flag == .letter 'l')
    | none => if given flags 'c' then .counts else .lines

/-- How one call of `grep` finds hits and prints them. A limit bounds the hits of an
input, and input that is no text shows none of its lines. -/
structure GrepRules where
  own : String
  isHit : List UInt8 → Bool
  parts : List UInt8 → List (Nat × List UInt8)
  report : Report
  limit : Option Nat
  separator : UInt8
  allIsText : Bool
  numbered : Bool
  placed : Bool

/-- How far an input has been searched: its lines, bytes and hits so far, and how many
hits there were when it turned out to be no text. -/
structure Searched where
  lines : Nat
  bytes : Nat
  hits : Nat
  hitsAsText : Option Nat

def Searched.nothing : Searched :=
  ⟨0, 0, 0, none⟩

def GrepRules.shows (rules : GrepRules) (searched : Searched) : Bool :=
  rules.report = .lines && searched.hitsAsText.isNone

def GrepRules.hitText (rules : GrepRules) (mark : String) (searched : Searched)
    (line : List UInt8) : ByteArray :=
  (rules.parts line).foldl
    (fun held (place, part) =>
      let number := if rules.numbered then toString (searched.lines + 1) ++ ":" else ""
      let offset := if rules.placed then toString (searched.bytes + place) ++ ":" else ""
      held ++ (mark ++ number ++ offset).toUTF8 ++ joinLines rules.separator [part])
    ByteArray.empty

def GrepRules.enough (rules : GrepRules) (searched : Searched) : Bool :=
  match rules.report with
  | .silence | .names _ => true
  | .lines => searched.hitsAsText.isSome || rules.limit.any (· ≤ searched.hits)
  | .counts => rules.limit.any (· ≤ searched.hits)

def GrepRules.searchLines (rules : GrepRules) (mark : String) :
    List (List UInt8) → Searched → ByteArray →
      Searched × ByteArray × Option (List (List UInt8))
  | [], searched, text => (searched, text, none)
  | line :: rest, searched, text =>
    let after := { searched with
      lines := searched.lines + 1, bytes := searched.bytes + line.length + 1 }
    if rules.isHit line then
      let after := { after with hits := searched.hits + 1 }
      let text := if rules.shows searched then text ++ rules.hitText mark searched line else text
      if rules.enough after then (after, text, some rest)
      else rules.searchLines mark rest after text
    else rules.searchLines mark rest after text

def GrepRules.recognize (rules : GrepRules) (searched : Searched) (block : ByteArray) :
    Searched :=
  if searched.hitsAsText.isNone && !rules.allIsText && rules.separator = lineFeed &&
      block.data.contains 0 then
    { searched with hitsAsText := some searched.hits }
  else searched

/-- Searches an input block by block. When a limit ends that, what follows the last hit
is left to be read by others. -/
def GrepRules.search (rules : GrepRules) (mark : String) (source : Unix.Descriptor) :
    Program (Searched × Except Errno Unit) := do
  let (((searched, held), more), result) ← foldBlocks source
    (fun (state : (Searched × List UInt8) × Bool) block => do
      let ((searched, held), _) := state
      let searched := rules.recognize searched block
      let ends (byte : UInt8) : Bool :=
        byte = rules.separator || (searched.hitsAsText.isSome && byte = 0)
      let (lines, held) := splitBlock ends held block
      let (searched, text, left?) := rules.searchLines mark lines searched ByteArray.empty
      emit rules.own text
      match left? with
      | none => return (((searched, held), true), true)
      | some left =>
        if rules.report = .lines || rules.report = .counts then
          let size := left.foldl (fun size line => size + line.length + 1) held.length
          let _ ← Program.stepBack source size
        return (((searched, []), false), false))
    untilEnd ((Searched.nothing, []), true)
  if more && !held.isEmpty then
    let (searched, text, _) :=
      rules.searchLines mark [held.reverse] searched ByteArray.empty
    emit rules.own text
    return (searched, result)
  else return (searched, result)

def flagPatterns (own : String) : List Flag → Program (List (List UInt8))
  | [] => pure []
  | flag :: rest => do
    let patterns ←
      match flag with
      | .valued 'e' text => pure ((text.splitOn "\n").map fun line => byteList line.toUTF8)
      | .valued 'f' path => do
        let (bytes, clean) ← readInputs (.plain own) [path]
        if clean then pure (linesOf lineFeed bytes) else Program.exit 2
      | _ => pure []
    return patterns ++ (← flagPatterns own rest)

def marksHits (flags : List Flag) (files : List String) : Bool :=
  match (flags.filter fun flag => flag == .letter 'h' || flag == .letter 'H').getLast? with
  | some flag => flag == .letter 'H'
  | none => files.length > 1

/-- The limit on hits that a text asks for. A negative one is none. -/
def readLimit? (text : String) : Option (Option Nat) :=
  match text.toList.dropWhile fun c => c == ' ' || ('\t' ≤ c && c ≤ '\r') with
  | '-' :: digits =>
    (Text.Decimal.digits? (String.ofList digits)).map fun count =>
      if count = 0 then some 0 else none
  | '+' :: digits => (Text.Decimal.digits? (String.ofList digits)).map some
  | digits => (Text.Decimal.digits? (String.ofList digits)).map some

def grep (arguments : List String) : Program Unit := do
  let own := arguments.headD "grep"
  match grepFlags.read (arguments.drop 1) with
  | .error fault =>
    complain own fault.message
    grepUsage own
  | .ok (flags, operands) =>
    let limit ←
      match (valueOf? flags 'm').map readLimit? with
      | none => pure none
      | some none => do
        complain own "invalid max count"
        Program.exit 2
      | some (some limit) => pure limit
    let byFlags := !(valuesOf flags 'e').isEmpty || !(valuesOf flags 'f').isEmpty
    if !byFlags && operands.isEmpty then grepUsage own
    let files := if byFlags then operands else operands.drop 1
    let patterns ← flagPatterns own
      (if byFlags then flags else [.valued 'e' (operands.headD "")])
    if limit == some 0 then Program.exit 1
    let spelling : Spelling := ⟨given flags 'E', given flags 'i' || given flags 'y'⟩
    match patterns.mapM (readSearch spelling (given flags 'F')) with
    | .error fault =>
      complain own fault.message
      Program.exit 2
    | .ok searches =>
      let extent : Extent :=
        if given flags 'x' then .wholeLine else if given flags 'w' then .wholeWord else .anywhere
      let search := searches.foldl Pattern.choose .never
      let around := extent.around search
      let rules : GrepRules :=
        { own := own
          isHit := fun line => around.matchesAll (lineSymbols line) != given flags 'v'
          parts := fun line =>
            if !given flags 'o' then [(0, line)]
            else if given flags 'v' then []
            else matchingParts extent search (line.length + 3) 0 .start (lineSymbols line)
          report := Report.ofFlags flags
          limit := limit
          separator := separatorOf (given flags 'z')
          allIsText := given flags 'a'
          numbered := given flags 'n'
          placed := given flags 'b' }
      let nameOf (path : String) : String := if path = "-" then "(standard input)" else path
      let behindName (usual : String) : String := if given flags 'Z' then "\x00" else usual
      let say (path : String) : Errno → String := because (nameOf path)
      let wording : Wording := ⟨own, say, say, given flags 's'⟩
      let (found, clean) ← forInputs wording files
        (fun (found : Bool × Bool) path source => do
          let mark := if marksHits flags files then nameOf path ++ behindName ":" else ""
          if rules.report = .lines && limit != some 1 && (← isOutput path) then
            wording.complain (nameOf path ++ ": input file is also the output")
            return ((found.1, false), .ok ())
          let (searched, result) ← rules.search mark source
          let any := searched.hits != 0
          match rules.report with
          | .silence => if any then Program.exit 0
          | .names withHits =>
            if any == withHits then emitText own (nameOf path ++ behindName "\n")
          | .counts => emitText own (mark ++ toString searched.hits ++ "\n")
          | .lines =>
            if searched.hitsAsText.any (· < searched.hits) then
              complain own (nameOf path ++ ": binary file matches")
          return ((found.1 || any, found.2), result))
        (false, true)
      Program.exit (if !(clean && found.2) then 2 else if found.1 then 0 else 1)

end JobShell.Tool
