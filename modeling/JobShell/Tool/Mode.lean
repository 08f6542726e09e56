import JobShell.Text.Column
import JobShell.Tool.Basic

/-!
# Permission bits

`chmod`, and permission bits in digits and in letters. A change is given in octal
digits, or by clauses that say whose bits are set, added or taken away.
-/

namespace JobShell.Tool

open Unix (Program FileStatus FileKind)

set_option autoImplicit false

def kindLetter : FileKind → String
  | .regular => "-"
  | .directory => "d"
  | .symbolicLink => "l"
  | .characterDevice => "c"
  | .pipe => "p"

/-- A letter for a permission to execute, with the special bit that is shown in its
place. -/
def executeLetter (allowed special : Bool) (mark : Char) : String :=
  if special then (if allowed then mark else mark.toUpper).toString
  else if allowed then "x"
  else "-"

def modeLetters (mode : Nat) : String :=
  let letter (bit : Nat) (shown : String) : String := if mode.testBit bit then shown else "-"
  letter 8 "r" ++ letter 7 "w" ++ executeLetter (mode.testBit 6) (mode.testBit 11) 's' ++
    letter 5 "r" ++ letter 4 "w" ++ executeLetter (mode.testBit 3) (mode.testBit 10) 's' ++
    letter 2 "r" ++ letter 1 "w" ++ executeLetter (mode.testBit 0) (mode.testBit 9) 't'

def octalValue (digits : List Char) : Nat :=
  digits.foldl (fun value digit => value * 8 + (digit.toNat - '0'.toNat)) 0

def isOctalMode (text : String) : Bool :=
  let digits := text.toList
  !digits.isEmpty && digits.all (fun c => '0' ≤ c && c ≤ '7') && octalValue digits < 4096

def spreadBits (who : List Char) (bits : Nat) : Nat :=
  let named (letter : Char) : Bool := who.isEmpty || who.contains 'a' || who.contains letter
  (if named 'u' then bits * 64 else 0) + (if named 'g' then bits * 8 else 0) +
    (if named 'o' then bits else 0)

/-- The bits that the letters of a clause stand for, given the bits so far. A letter
for a user copies the bits of that one. -/
def letterBits (who : List Char) (isDirectory : Bool) (mode : Nat) (letters : List Char) : Nat :=
  let named (letter : Char) : Bool := who.isEmpty || who.contains 'a' || who.contains letter
  letters.foldl
    (fun bits letter => bits |||
      match letter with
      | 'r' => spreadBits who 4
      | 'w' => spreadBits who 2
      | 'x' => spreadBits who 1
      | 'X' =>
        if isDirectory || mode.testBit 0 || mode.testBit 3 || mode.testBit 6 then spreadBits who 1
        else 0
      | 's' => (if named 'u' then 2048 else 0) + (if named 'g' then 1024 else 0)
      | 't' => if named 'o' then 512 else 0
      | 'u' => spreadBits who (mode / 64 % 8)
      | 'g' => spreadBits who (mode / 8 % 8)
      | 'o' => spreadBits who (mode % 8)
      | _ => 0)
    0

/-- Applies the operators of a clause one after the other. There are fewer of them
than the given number of turns. -/
def applyOperators (who : List Char) (isDirectory : Bool) :
    Nat → List Char → Nat → Option Nat
  | 0, _, _ => none
  | _, [], mode => some mode
  | turns + 1, operator :: rest, mode =>
    let copied := (rest.take 1).filter fun c => "ugo".toList.contains c
    let letters :=
      if copied.isEmpty then rest.takeWhile fun c => "rwxXst".toList.contains c else copied
    let bits := letterBits who isDirectory mode letters
    let go (mode : Nat) : Option Nat :=
      applyOperators who isDirectory turns (rest.drop letters.length) mode
    match operator with
    | '+' => go (mode ||| bits)
    | '-' => go (mode &&& (4095 ^^^ bits))
    | '=' => go ((mode &&& (4095 ^^^ spreadBits who 7)) ||| bits)
    | _ => none

def changedMode? (argument : String) (isDirectory : Bool) (mode : Nat) : Option Nat :=
  if isOctalMode argument then some (octalValue argument.toList)
  else
    (argument.splitOn ",").foldl
      (fun (mode : Option Nat) clause => do
        let mode ← mode
        let who := clause.toList.takeWhile fun c => "ugoa".toList.contains c
        let operators := clause.toList.drop who.length
        if operators.isEmpty then none
        else applyOperators who isDirectory (operators.length + 1) operators mode)
      (some mode)

def modeText (mode : Nat) : String :=
  Text.padLeftWith '0' 4 (Text.octal mode) ++ " (" ++ modeLetters mode ++ ")"

def changeOne (own : String) (flags : List Flag) (change path : String) : Program Bool := do
  let shown := Text.ShellWord.quoted path
  let failed (message : String) : Program Bool := do
    if !given flags 'f' then complain own message
    return false
  match ← Program.inspect path true with
  | .error errno =>
    let result ←
      match errno, ← Program.inspect path false with
      | .noEntry, .ok _ => failed ("cannot operate on dangling symlink " ++ shown)
      | _, _ => failed (because ("cannot access " ++ shown) errno)
    if given flags 'v' then emitText own (shown ++ " could not be accessed\n")
    return result
  | .ok status =>
    let later := (changedMode? change (status.kind == .directory) status.mode).getD status.mode
    match ← Program.request (.changeMode path later) with
    | .error errno => failed (because ("changing permissions of " ++ shown) errno)
    | .ok _ =>
      if later != status.mode && (given flags 'v' || given flags 'c') then
        emitText own ("mode of " ++ shown ++ " changed from " ++ modeText status.mode ++ " to " ++
          modeText later ++ "\n")
      else if given flags 'v' then
        emitText own ("mode of " ++ shown ++ " retained as " ++ modeText later ++ "\n")
      return true

/-- The flags, the changes and the files of a call. A change may begin with a dash. -/
def chmodWords : List String → Except FlagFault (List Flag × List String × List String)
  | [] => .ok ([], [], [])
  | word :: rest =>
    match word.toList with
    | ['-', '-'] => .ok ([], [], rest)
    | '-' :: letter :: letters =>
      if ("rwxXstugoa,+=-".toList ++ "01234567".toList).contains letter && letter != '-' then do
        let (flags, changes, files) ← chmodWords rest
        return (flags, word :: changes, files)
      else
        let table := FlagTable.ofLetters "cfvR" ""
        match (if letter == '-' then Except.error (.unknownWord word)
          else table.letters (letter :: letters)) with
        | .error fault => .error fault
        | .ok (given, _) => do
          let (flags, changes, files) ← chmodWords rest
          return (given ++ flags, changes, files)
    | _ => do
      let (flags, changes, files) ← chmodWords rest
      return (flags, changes, word :: files)

def chmod (arguments : List String) : Program Unit := do
  let own := arguments.headD "chmod"
  match chmodWords (arguments.drop 1) with
  | .error fault => misuse own fault.message 1
  | .ok (flags, changes, words) =>
    let (change, files) :=
      if changes.isEmpty then (words.headD "", words.drop 1) else (",".intercalate changes, words)
    if changes.isEmpty && words.isEmpty then misuse own "missing operand" 1
    if files.isEmpty then
      misuse own
        ("missing operand after " ++ Text.ShellWord.cited ((arguments.getLast?).getD "")) 1
    if (changedMode? change false 0).isNone then
      misuse own ("invalid mode: " ++ Text.ShellWord.cited change) 1
    let mut clean := true
    for path in files do
      let done ← changeOne own flags change path
      clean := clean && done
    conclude clean 1

end JobShell.Tool
