import JobShell.Text.Column
import JobShell.Tool.Basic

/-!
# Tools that turn lines round and count them

`rev` and `wc`. Both work on bytes.
-/

namespace JobShell.Tool

open Unix (Program)

set_option autoImplicit false

def rev (arguments : List String) : Program Unit :=
  withFlags "rev" 1 (.ofLetters "" "") (arguments.drop 1) fun _ files => do
    let wording : Wording :=
      ⟨"rev", fun path => because ("cannot open " ++ path), because, false⟩
    let (_, clean) ← forInputs wording files
      (fun (_ : Unit) _ source => do
        let (held, result) ← foldBlocks source
          (fun (held : List UInt8) block => do
            let (lines, held) := splitBlock (· == lineFeed) held block
            emit "rev" (joinLines lineFeed (lines.map List.reverse))
            return (held, true))
          untilEnd []
        emit "rev" (held.foldl ByteArray.push ByteArray.empty)
        return ((), result))
      ()
    conclude clean 1

structure Counts where
  lines : Nat
  words : Nat
  characters : Nat
  bytes : Nat
  longest : Nat

def isSpaceByte (byte : UInt8) : Bool :=
  byte = 32 || (9 ≤ byte && byte ≤ 13)

def isWordByte (byte : UInt8) : Bool :=
  33 ≤ byte && byte ≤ 126

def countsOf (bytes : ByteArray) : Counts :=
  let step (state : Counts × Bool × Nat) (byte : UInt8) : Counts × Bool × Nat :=
    let (counts, inWord, column) := state
    let counts := { counts with characters := counts.characters + 1, bytes := counts.bytes + 1 }
    let counts := if byte = 10 then { counts with lines := counts.lines + 1 } else counts
    let starts := isWordByte byte && !inWord
    let counts := if starts then { counts with words := counts.words + 1 } else counts
    let inWord := if isSpaceByte byte then false else inWord || isWordByte byte
    let column :=
      if byte = 10 || byte = 13 || byte = 12 then 0
      else if byte = 9 then column + 8 - column % 8
      else if 32 ≤ byte && byte ≤ 126 then column + 1
      else column
    ({ counts with longest := max counts.longest column }, inWord, column)
  (bytes.foldl step (⟨0, 0, 0, 0, 0⟩, false, 0)).1

def Counts.add (first second : Counts) : Counts :=
  ⟨first.lines + second.lines, first.words + second.words,
    first.characters + second.characters, first.bytes + second.bytes,
    max first.longest second.longest⟩

/-- The counts that flags ask for, lines, words and bytes by default. -/
def Counts.chosen (counts : Counts) (flags : List Flag) : List Nat :=
  let none_ := flags.isEmpty
  (if none_ || given flags 'l' then [counts.lines] else []) ++
    (if none_ || given flags 'w' then [counts.words] else []) ++
    (if given flags 'm' then [counts.characters] else []) ++
    (if none_ || given flags 'c' then [counts.bytes] else []) ++
    (if given flags 'L' then [counts.longest] else [])

/-- The width of the columns: a single count of a single input needs none; else
it is the number of digits of the sizes together, and at least seven when some
input has no size. -/
def countWidth (flags : List Flag) (files : List String) (sizes : List (Option Nat)) : Nat :=
  let columns := (Counts.chosen ⟨0, 0, 0, 0, 0⟩ flags).length
  if columns ≤ 1 && files.length ≤ 1 then 1
  else
    let total := (sizes.map fun size => size.getD 0).foldl (· + ·) 0
    let least := if sizes.any Option.isNone then 7 else 1
    max least (toString total).length

def inputSize (path : String) : Program (Option Nat) := do
  match ← inputStatus path with
  | .ok status => return if status.kind = .regular then some status.size else none
  | .error _ => return some 0

def inputSizes : List String → Program (List (Option Nat))
  | [] => pure []
  | path :: rest => do
    let size ← inputSize path
    let others ← inputSizes rest
    return size :: others

def wcFlags : FlagTable :=
  { FlagTable.ofLetters "lwcmL" "" with
    long := [("bytes", 'c'), ("chars", 'm'), ("lines", 'l'), ("max-line-length", 'L'),
      ("words", 'w')] }

def wc (arguments : List String) : Program Unit :=
  let own := arguments.headD "wc"
  withFlags own 1 wcFlags (arguments.drop 1) fun flags files => do
    let sizes ← inputSizes (if files.isEmpty then ["-"] else files)
    let width := countWidth flags files sizes
    let line (counts : Counts) (name : Option String) : String :=
      " ".intercalate
          ((counts.chosen flags).map fun count => Text.padLeft width (toString count)) ++
        (name.map fun name => " " ++ name).getD "" ++ "\n"
    let reading (path : String) : String :=
      if files.isEmpty then "'standard input'" else Text.ShellWord.shown path
    let (total, clean) ← forInputs { Wording.plain own with reading := because ∘ reading } files
      (fun (total : Counts) path source => do
        let (bytes, result) ← readAll source
        let counts := countsOf bytes
        emit own (line counts (if files.isEmpty then none else some path)).toUTF8
        return (total.add counts, result))
      ⟨0, 0, 0, 0, 0⟩
    if files.length > 1 then emit own (line total (some "total")).toUTF8
    conclude clean 1

end JobShell.Tool
