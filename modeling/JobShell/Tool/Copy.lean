import JobShell.Text.Column
import JobShell.Tool.Basic

/-!
# Tools that copy their input

`cat`, `tee`, `head` and `tail`. Copying goes block by block, so that a reader
further down sees the input before it has ended.
-/

namespace JobShell.Tool

open Unix (Program Descriptor Errno)

set_option autoImplicit false

structure CatMarks where
  number : Bool
  numberFilled : Bool
  squeeze : Bool
  ends : Bool
  tabs : Bool
  visible : Bool

def CatMarks.ofFlags (flags : List Flag) : CatMarks :=
  let asked (letters : String) : Bool := letters.toList.any (given flags)
  ⟨given flags 'n', given flags 'b', given flags 's', asked "AEe", asked "ATt",
    asked "Aetv"⟩

def CatMarks.any (marks : CatMarks) : Bool :=
  marks.number || marks.numberFilled || marks.squeeze || marks.ends || marks.tabs || marks.visible

/-- A byte of a line with the marks: control bytes get a caret, and bytes of the
upper half look like those of the lower half behind a sign. -/
def CatMarks.byteText (marks : CatMarks) (held : ByteArray) (byte : UInt8) : ByteArray :=
  let low (held : ByteArray) (byte : UInt8) : ByteArray :=
    if byte < 32 then (held.push 94).push (byte + 64)
    else if byte = 127 then (held.push 94).push 63
    else held.push byte
  if byte = 9 then (if marks.tabs then (held.push 94).push 73 else held.push 9)
  else if !marks.visible then held.push byte
  else if byte < 128 then low held byte
  else low ((held.push 77).push 45) (byte - 128)

/-- How far `cat` is in its lines: the number of the last one, whether a line has begun,
whether the one before is empty, and whether a carriage return waits for the byte
behind it. -/
structure CatPlace where
  number : Nat
  begun : Bool
  afterEmpty : Bool
  returned : Bool

def CatPlace.start : CatPlace :=
  ⟨0, false, false, false⟩

def CatPlace.label (place : CatPlace) (held : ByteArray) : CatPlace × ByteArray :=
  ({ place with number := place.number + 1 },
    held ++ (Text.padLeft 6 (toString (place.number + 1)) ++ "\t").toUTF8)

def CatMarks.ending (marks : CatMarks) (place : CatPlace) (held : ByteArray) :
    CatPlace × ByteArray :=
  let empty := !place.begun
  if empty && place.afterEmpty && marks.squeeze then (place, held)
  else
    let (place, held) :=
      if empty && marks.number && !marks.numberFilled then place.label held else (place, held)
    let held := if place.returned then (held.push 94).push 77 else held
    let held := if marks.ends then held.push 36 else held
    ({ place with begun := false, afterEmpty := empty, returned := false }, held.push lineFeed)

/-- Goes on with a byte. A carriage return is shown at the end of a line only. -/
def CatMarks.step (marks : CatMarks) (state : CatPlace × ByteArray) (byte : UInt8) :
    CatPlace × ByteArray :=
  let (place, held) := state
  if byte = lineFeed then marks.ending place held
  else
    let held := if place.returned then held.push 13 else held
    let (place, held) :=
      if !place.begun && (marks.number || marks.numberFilled) then place.label held
      else (place, held)
    let waits := byte = 13 && marks.ends && !marks.visible
    ({ place with begun := true, returned := waits },
      if waits then held else marks.byteText held byte)

def copyAll (name : String) (source : Descriptor) : Program (Except Errno Unit) := do
  let (_, result) ← foldBlocks source
    (fun (_ : Unit) block => do
      emit name block
      return ((), true))
    untilEnd ()
  return result

def copiesItself (path : String) (source : Descriptor) : Program Bool := do
  if ← isOutput path then
    match ← Program.read source 1 with
    | .ok block =>
      let _ ← Program.stepBack source block.size
      return !block.isEmpty
    | .error _ => return false
  else return false

def catFlags : FlagTable :=
  { FlagTable.ofLetters "nbsETetAuv" "" with
    long := [("number", 'n'), ("number-nonblank", 'b'), ("squeeze-blank", 's'),
      ("show-ends", 'E'), ("show-tabs", 'T'), ("show-all", 'A'), ("show-nonprinting", 'v')] }

def cat (arguments : List String) : Program Unit :=
  let own := arguments.headD "cat"
  withFlags own 1 catFlags (arguments.drop 1) fun flags files => do
    let marks := CatMarks.ofFlags flags
    let copy (place : CatPlace) (source : Descriptor) : Program (CatPlace × Except Errno Unit) :=
      if marks.any then
        foldBlocks source
          (fun place block => do
            let (place, text) := block.foldl marks.step (place, ByteArray.empty)
            emit own text
            return (place, true))
          untilEnd place
      else do
        let result ← copyAll own source
        return (place, result)
    let (place, clean) ← forInputs (.plain own) files
      (fun (place : CatPlace × Bool) path source => do
        if ← copiesItself path source then
          complain own (Text.ShellWord.shown path ++ ": input file is output file")
          return ((place.1, false), .ok ())
        else
          let (later, result) ← copy place.1 source
          return ((later, place.2), result))
      (CatPlace.start, true)
    if place.1.returned then emit own ⟨#[13]⟩
    conclude (clean && place.2) 1

def openTargets (own : String) (access : Unix.Access) :
    List String → Program (List (String × Descriptor) × Bool)
  | [] => pure ([], true)
  | path :: rest => do
    match ← Program.openFile path access with
    | .ok target =>
      let (others, clean) ← openTargets own access rest
      return ((path, target) :: others, clean)
    | .error errno =>
      complain own (because (Text.ShellWord.shown path) errno)
      let (others, _) ← openTargets own access rest
      return (others, false)

def writeTargets (own : String) (block : ByteArray) :
    List (String × Descriptor) → Program (List (String × Descriptor))
  | [] => pure []
  | (path, target) :: rest => do
    match ← Program.writeAll target block with
    | .ok _ => return (path, target) :: (← writeTargets own block rest)
    | .error errno =>
      complain own (because (Text.ShellWord.shown path) errno)
      writeTargets own block rest

/-- Copies the input to the output and to files. A target that cannot be written
is given up, and nothing is read any more when none is left. -/
def tee (arguments : List String) : Program Unit :=
  let own := arguments.headD "tee"
  let table : FlagTable :=
    { FlagTable.ofLetters "aip" "" with
      long := [("append", 'a'), ("ignore-interrupts", 'i')] }
  withFlags own 1 table (arguments.drop 1) fun flags files => do
    let access : Unix.Access :=
      if given flags 'a' then .appending 0o666 else .truncating 0o666
    let (targets, opened) ← openTargets own access files
    let all := ("standard output", Unix.standardOutput) :: targets
    let (left, result) ← foldBlocks Unix.standardInput
      (fun (targets : List (String × Descriptor)) block => do
        let left ← writeTargets own block targets
        return (left, !left.isEmpty))
      untilEnd all
    match result with
    | .ok _ => pure ()
    | .error errno => complain own (because "read error" errno)
    conclude (opened && left.length == all.length && result.isOk) 1

/-- How much of an input is wanted: from which side, in what, and whether the
number says how much to leave out. -/
structure Portion where
  bytes : Bool
  complement : Bool
  count : Nat
  separator : UInt8

def unitPower? : Char → Option Nat
  | 'k' | 'K' => some 1
  | 'm' | 'M' => some 2
  | 'G' => some 3
  | 'T' => some 4
  | 'P' => some 5
  | 'E' => some 6
  | 'Z' => some 7
  | 'Y' => some 8
  | 'R' => some 9
  | 'Q' => some 10
  | _ => none

def suffixFactor? : List Char → Option Nat
  | [] => some 1
  | ['b'] => some 512
  | unit :: rest =>
    (unitPower? unit).bind fun power =>
      match rest with
      | [] | ['i', 'B'] => some (Nat.pow 1024 power)
      | ['B'] | ['D'] => some (Nat.pow 1000 power)
      | _ => none

/-- Reads a number with an optional suffix for a multiple. A suffix alone counts one.
A fault comes with the reason when that is the size. -/
def readCount (text : String) : Except (Option String) Nat :=
  let spaceless := text.toList.dropWhile fun c => c == ' ' || ('\t' ≤ c && c ≤ '\r')
  let unsigned := if spaceless.head? == some '+' then spaceless.drop 1 else spaceless
  let digits := unsigned.takeWhile Char.isDigit
  let written := if digits.isEmpty then text.toList else unsigned.drop digits.length
  let value :=
    if digits.isEmpty then 1
    else digits.foldl (fun value digit => value * 10 + (digit.toNat - '0'.toNat)) 0
  match suffixFactor? written with
  | none => .error none
  | some factor =>
    if digits.isEmpty && written.isEmpty then .error none
    else if Text.Decimal.wordBound < value * factor then
      .error (some "Value too large for defined data type")
    else .ok (value * factor)

def bytesOfLines (separator : UInt8) (bytes : List UInt8) (lines : Nat) : Nat :=
  go bytes lines 0
where
  go : List UInt8 → Nat → Nat → Nat
    | [], _, taken => taken
    | _ :: _, 0, taken => taken
    | byte :: rest, lines + 1, taken =>
      if byte = separator then go rest lines (taken + 1) else go rest (lines + 1) (taken + 1)

def countSeparators (separator : UInt8) (bytes : ByteArray) : Nat :=
  bytes.foldl (fun count byte => if byte = separator then count + 1 else count) 0

def Portion.sizeOf (portion : Portion) (bytes : ByteArray) (count : Nat) : Nat :=
  if portion.bytes then min count bytes.size
  else bytesOfLines portion.separator (byteList bytes) count

/-- How much there is to count in bytes. An open last line counts when the bytes are all
there are. -/
def Portion.total (portion : Portion) (bytes : ByteArray) (all : Bool) : Nat :=
  if portion.bytes then bytes.size
  else
    let endsOpen := bytes.size > 0 && bytes[bytes.size - 1]! != portion.separator
    countSeparators portion.separator bytes + (if all && endsOpen then 1 else 0)

/-- Copies the start of an input. What was read beyond it is given back when the
input allows that. -/
def headOf (own : String) (portion : Portion) (source : Descriptor) :
    Program (Except Errno Unit) := do
  if portion.complement then
    let (bytes, result) ← readAll source
    emit own (bytes.extract 0 (portion.sizeOf bytes (portion.total bytes true - portion.count)))
    return result
  else if portion.count = 0 then return .ok ()
  else
    let (_, result) ← foldBlocks source
      (fun (left : Nat) block => do
        let size := portion.sizeOf block left
        let part := block.extract 0 size
        emit own part
        let later := left - portion.total part false
        if later = 0 then
          let _ ← Program.stepBack source (block.size - size)
          return (0, false)
        else return (later, true))
      untilEnd portion.count
    return result

def withoutStart (own : String) (portion : Portion) (source : Descriptor) :
    Program (Except Errno Unit) := do
  let (_, result) ← foldBlocks source
    (fun (left : Nat) block => do
      let size := portion.sizeOf block left
      emit own (block.extract size block.size)
      return (left - portion.total (block.extract 0 size) false, true))
    untilEnd (portion.count - 1)
  return result

def tailOf (own : String) (portion : Portion) (source : Descriptor) :
    Program (Except Errno Unit) := do
  if portion.complement then withoutStart own portion source
  else
    let (bytes, result) ← readAll source
    let start := portion.sizeOf bytes (portion.total bytes true - portion.count)
    emit own (bytes.extract start bytes.size)
    return result

/-- Why a portion cannot be told: with a message, or with one and a reminder of how the
tool is called. -/
inductive PortionFault where
  | failure (message : String)
  | misuse (message : String)

structure PortionCall where
  portion : Portion
  headed : Option Bool

def PortionCall.start : PortionCall :=
  ⟨⟨false, false, 10, lineFeed⟩, none⟩

def PortionCall.take (call : PortionCall) (bytes complement : Bool) (text : String) :
    Except PortionFault PortionCall :=
  match readCount text with
  | .ok count =>
    .ok { call with portion :=
      { call.portion with bytes := bytes, complement := complement, count := count } }
  | .error reason =>
    .error (.failure ("invalid number of " ++ (if bytes then "bytes" else "lines") ++ ": " ++
      Text.ShellWord.cited text ++ (reason.map (": " ++ ·)).getD ""))

def PortionCall.letter (call : PortionCall) (letter : Char) : PortionCall :=
  match letter with
  | 'q' => { call with headed := some false }
  | 'v' => { call with headed := some true }
  | 'z' => { call with portion := { call.portion with separator := separatorOf true } }
  | _ => call

/-- Reads the old spelling of a count for `head`: a dash, digits, and letters that say
what is counted and how headings are made. -/
def oldHeadCount (call : PortionCall) (text : List Char) : Except PortionFault PortionCall :=
  let digits := text.takeWhile Char.isDigit
  let letters := text.drop digits.length
  match letters.find? fun letter => !"cbklmqvz".toList.contains letter with
  | some letter => .error (.misuse ("invalid trailing option -- " ++ letter.toString))
  | none =>
    let units := letters.filter "cbkm".toList.contains
    let bytes := (letters.filter "cbklm".toList.contains).getLast?.any (· != 'l')
    let suffix := (units.getLast?.toList.filter (· != 'c'))
    (letters.foldl PortionCall.letter call).take bytes false (String.ofList (digits ++ suffix))

/-- Goes on with a flag of `head`. A dash in front of a number makes it say how much to
leave out. -/
def PortionCall.headFlag (call : PortionCall) : Flag → Except PortionFault PortionCall
  | .valued letter text =>
    match text.toList with
    | '-' :: rest => call.take (letter == 'c') true (String.ofList rest)
    | _ => call.take (letter == 'c') false text
  | .letter letter =>
    if letter.isDigit then .error (.misuse ("invalid trailing option -- " ++ letter.toString))
    else .ok (call.letter letter)

/-- Goes on with a flag of `tail`. A plus sign in front of any number makes them say how
much to leave out. -/
def PortionCall.tailFlag (call : PortionCall) : Flag → Except PortionFault PortionCall
  | .valued letter text =>
    let complement := call.portion.complement || text.startsWith "+"
    match text.toList with
    | '-' :: rest => call.take (letter == 'c') complement (String.ofList rest)
    | _ => call.take (letter == 'c') complement text
  | .letter letter =>
    if letter.isDigit then
      .error (.failure ("option used in invalid context -- " ++ letter.toString))
    else .ok (call.letter letter)

def portionName (path : String) : String :=
  if path = "-" then "standard input" else path

def portionWording (own : String) : Wording :=
  { tool := own
    opening := fun path =>
      because ("cannot open " ++ Text.ShellWord.quoted path ++ " for reading")
    reading := fun path =>
      because ("error reading " ++ Text.ShellWord.quoted (portionName path))
    silent := false }

def portionFlags : FlagTable :=
  { FlagTable.ofLetters "qvz0123456789" "nc" with
    long := [("bytes", 'c'), ("lines", 'n'), ("quiet", 'q'), ("silent", 'q'), ("verbose", 'v'),
      ("zero-terminated", 'z')] }

def copyPortions (own : String) (call : PortionCall) (files : List String)
    (copy : Portion → Descriptor → Program (Except Errno Unit)) : Program Unit := do
  let headed := call.headed.getD (files.length > 1)
  let (_, clean) ← forInputs (portionWording own) files
    (fun (first : Bool) path source => do
      if headed then
        emitText own ((if first then "" else "\n") ++ "==> " ++ portionName path ++ " <==\n")
      let result ← copy call.portion source
      return (false, result))
    true
  conclude clean 1

def withPortion (own : String) (read : Except PortionFault PortionCall)
    (use : PortionCall → Program Unit) : Program Unit :=
  match read with
  | .ok call => use call
  | .error (.misuse message) => misuse own message 1
  | .error (.failure message) => do
    complain own message
    Program.exit 1

def head (arguments : List String) : Program Unit :=
  let own := arguments.headD "head"
  let words := arguments.drop 1
  let (old, others) :=
    match words with
    | [] => (Except.ok PortionCall.start, [])
    | word :: rest =>
      match word.toList with
      | '-' :: digit :: text =>
        if digit.isDigit then (oldHeadCount .start (digit :: text), rest)
        else (.ok .start, words)
      | _ => (.ok .start, words)
  withPortion own old fun start =>
    withFlags own 1 portionFlags others fun flags files =>
      withPortion own (flags.foldlM PortionCall.headFlag start) fun call =>
        copyPortions own call files (headOf own)

/-- Reads the old spelling of a count for `tail`: a sign, digits, and a letter that says
what is counted. Nothing means that the word is spelled in another way. -/
def oldTailCount? (word : String) : Option (Except PortionFault PortionCall) :=
  let read (complement : Bool) (text : List Char) : Option (Except PortionFault PortionCall) :=
    let digits := text.takeWhile Char.isDigit
    let call (bytes : Bool) (factor : Nat) : Except PortionFault PortionCall :=
      let written := digits.foldl (fun value digit => value * 10 + (digit.toNat - '0'.toNat)) 0
      let count := (if digits.isEmpty then 10 else written) * factor
      if Text.Decimal.wordBound < count then
        .error (.failure ("invalid number: " ++ Text.ShellWord.cited word ++
          ": Numerical result out of range"))
      else .ok ⟨⟨bytes, complement, count, lineFeed⟩, none⟩
    match text.drop digits.length with
    | [] | ['l'] => some (call false 1)
    | ['c'] => some (call true 1)
    | ['b'] => some (call true 512)
    | _ => none
  match word.toList with
  | '+' :: text => read true text
  | ['-'] | ['-', 'c'] => none
  | '-' :: text => read false text
  | _ => none

/-- Whether the words of a call leave room for the old spelling of a count, which goes
with one file at most. -/
def mayBeOld : List String → Bool
  | [_] => true
  | [_, "--"] | [_, "--", _] => true
  | [_, file] => !(file.startsWith "-" && file != "-")
  | _ => false

def tail (arguments : List String) : Program Unit :=
  let own := arguments.headD "tail"
  let words := arguments.drop 1
  let (old, others) :=
    match if mayBeOld words then oldTailCount? (words.headD "") else none with
    | some read => (read, words.drop 1)
    | none => (.ok .start, words)
  withPortion own old fun start =>
    withFlags own 1 portionFlags others fun flags files =>
      withPortion own (flags.foldlM PortionCall.tailFlag start) fun call =>
        if call.portion.count = 0 && !call.portion.complement then Program.exit 0
        else copyPortions own call files (tailOf own)

end JobShell.Tool
