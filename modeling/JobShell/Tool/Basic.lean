import JobShell.Text.Decimal
import JobShell.Text.ShellWord
import JobShell.Text.Utf8
import JobShell.Unix.Program

/-!
# What the tools have in common

A tool is a program for its arguments, with the name it was called by in front.
Tools read their input in blocks until it ends, report under that name what they
cannot open, and end with an exit code.
-/

namespace JobShell.Tool

open Unix (Program Descriptor Errno)

set_option autoImplicit false

/-- More turns than any loop over an input takes. -/
def untilEnd : Nat := 0x4000000000000000

def blockSize : Nat := 65536

def byteList (bytes : ByteArray) : List UInt8 :=
  bytes.data.toList

def complain (name message : String) : Program Unit :=
  Program.say Unix.standardError (name ++ ": " ++ message ++ "\n")

def misuse {α : Type} (name message : String) (code : Int) : Program α := do
  complain name message
  Program.say Unix.standardError ("Try '" ++ name ++ " --help' for more information.\n")
  Program.exit code

/-- Writes bytes to the standard output. A tool that cannot write reports that
and ends. -/
def emit (name : String) (bytes : ByteArray) : Program Unit := do
  match ← Program.writeAll Unix.standardOutput bytes with
  | .ok _ => pure ()
  | .error errno =>
    complain name ("write error: " ++ errno.message)
    Program.exit 1

def emitText (name text : String) : Program Unit :=
  emit name text.toUTF8

/-- Goes through the blocks of an input until it ends. Each step tells whether it wants
more. -/
def foldBlocks {σ : Type} (source : Descriptor) (step : σ → ByteArray → Program (σ × Bool)) :
    Nat → σ → Program (σ × Except Errno Unit)
  | 0, state => pure (state, .ok ())
  | turns + 1, state => do
    match ← Program.read source blockSize with
    | .error errno => return (state, .error errno)
    | .ok block =>
      if block.isEmpty then return (state, .ok ())
      else
        match ← step state block with
        | (later, true) => foldBlocks source step turns later
        | (later, false) => return (later, .ok ())

def readAll (source : Descriptor) : Program (ByteArray × Except Errno Unit) :=
  foldBlocks source (fun held block => pure (held ++ block, true)) untilEnd ByteArray.empty

def because (subject : String) (errno : Errno) : String :=
  subject ++ ": " ++ errno.message

/-- Under which name a tool complains about its inputs, what it says of an input
that cannot be opened and of one that cannot be read, and whether it keeps silent
about them. -/
structure Wording where
  tool : String
  opening : String → Errno → String
  reading : String → Errno → String
  silent : Bool

def Wording.plain (tool : String) : Wording :=
  let say (path : String) : Errno → String := because (Text.ShellWord.shown path)
  ⟨tool, say, say, false⟩

def Wording.complain (wording : Wording) (message : String) : Program Unit :=
  if wording.silent then pure () else Tool.complain wording.tool message

/-- Runs something on each input in order: the named files, or the standard
input for a dash and when no file is named. Tells whether all could be opened
and read. -/
def forInputs {σ : Type} (wording : Wording) (files : List String)
    (use : σ → String → Descriptor → Program (σ × Except Errno Unit)) (state : σ) :
    Program (σ × Bool) :=
  go (if files.isEmpty then ["-"] else files) state true
where
  go : List String → σ → Bool → Program (σ × Bool)
    | [], state, clean => pure (state, clean)
    | path :: rest, state, clean => do
      if path = "-" then
        let (state, result) ← use state path Unix.standardInput
        match result with
        | .ok _ => go rest state clean
        | .error errno =>
          wording.complain (wording.reading path errno)
          go rest state false
      else
        match ← Program.openFile path .reading with
        | .error errno =>
          wording.complain (wording.opening path errno)
          go rest state false
        | .ok source =>
          let (state, result) ← use state path source
          let _ ← Program.close source
          match result with
          | .ok _ => go rest state clean
          | .error errno =>
            wording.complain (wording.reading path errno)
            go rest state false

def inputStatus (path : String) : Program (Except Errno Unix.FileStatus) :=
  Program.inspect (if path = "-" then "/dev/stdin" else path) true

/-- Whether an input is the regular file that the output goes to. -/
def isOutput (path : String) : Program Bool := do
  match ← Program.inspect "/dev/stdout" true, ← inputStatus path with
  | .ok output, .ok input =>
    return output.kind = .regular && input.kind = .regular && output.inode = input.inode
  | _, _ => return false

def readInputs (wording : Wording) (files : List String) : Program (ByteArray × Bool) :=
  forInputs wording files
    (fun held _ source => do
      let (bytes, result) ← readAll source
      return (held ++ bytes, result))
    ByteArray.empty

def conclude {α : Type} (clean : Bool) (failure : Int) : Program α :=
  Program.exit (if clean then 0 else failure)

/-- The lines that a block completes, given what is held of the first of them, and what
is then held of the next. What is held is in reverse. -/
def splitBlock (ends : UInt8 → Bool) (held : List UInt8) (block : ByteArray) :
    List (List UInt8) × List UInt8 :=
  let (lines, held) := block.foldl
    (fun (state : List (List UInt8) × List UInt8) byte =>
      if ends byte then (state.2.reverse :: state.1, []) else (state.1, byte :: state.2))
    ([], held)
  (lines.reverse, held)

/-- Lines without the separator behind each. The last line needs none. -/
def linesOf (separator : UInt8) (bytes : ByteArray) : List (List UInt8) :=
  let (lines, held) := splitBlock (· == separator) [] bytes
  if held.isEmpty then lines else lines ++ [held.reverse]

def joinLines (separator : UInt8) (lines : List (List UInt8)) : ByteArray :=
  lines.foldl (fun held line => (line.foldl ByteArray.push held).push separator) ByteArray.empty

def lineFeed : UInt8 := 10

def separatorOf (byNul : Bool) : UInt8 :=
  if byNul then 0 else lineFeed

inductive Flag where
  | letter (letter : Char)
  | valued (letter : Char) (value : String)
  deriving DecidableEq, Repr

/-- The flags that a tool knows: letters that stand alone, letters that take a
value, and the long names of letters. -/
structure FlagTable where
  alone : List Char
  valued : List Char
  long : List (String × Char)

inductive FlagFault where
  | unknown (letter : Char)
  | unknownWord (word : String)
  | missingValue (letter : Char)
  | missingLongValue (name : String)
  | unneededValue (name : String)
  deriving DecidableEq, Repr

def FlagFault.message : FlagFault → String
  | .unknown letter => "invalid option -- '" ++ letter.toString ++ "'"
  | .unknownWord word => "unrecognized option '" ++ word ++ "'"
  | .missingValue letter => "option requires an argument -- '" ++ letter.toString ++ "'"
  | .missingLongValue name => "option '--" ++ name ++ "' requires an argument"
  | .unneededValue name => "option '--" ++ name ++ "' doesn't allow an argument"

namespace FlagTable

def ofLetters (alone valued : String) : FlagTable :=
  ⟨alone.toList, valued.toList, []⟩

/-- The flags in a word after its dash. What is left over is a letter that still
needs its value. -/
def letters (table : FlagTable) : List Char → Except FlagFault (List Flag × Option Char)
  | [] => .ok ([], none)
  | letter :: rest =>
    if table.alone.contains letter then do
      let (flags, open?) ← table.letters rest
      return (.letter letter :: flags, open?)
    else if table.valued.contains letter then
      if rest.isEmpty then .ok ([], some letter)
      else .ok ([.valued letter (String.ofList rest)], none)
    else .error (.unknown letter)

/-- The long name that a word without its dashes stands for. Any beginning that
fits one letter only will do. -/
def longName? (table : FlagTable) (word : String) : Option (String × Char) :=
  let fitting := table.long.filter fun entry => entry.1.startsWith word
  match fitting.find? fun entry => entry.1 == word, fitting with
  | some entry, _ => some entry
  | none, first :: rest => if rest.all fun entry => entry.2 == first.2 then some first else none
  | none, [] => none

/-- The flag that a word with two dashes stands for, given the word behind it, and
whether that word is its value. -/
def longFlag (table : FlagTable) (word : String) (next : Option String) :
    Except FlagFault (Flag × Bool) :=
  let written := word.toList.drop 2
  let name := written.takeWhile (· != '=')
  let value : Option String :=
    if written.contains '=' then some (String.ofList (written.drop (name.length + 1))) else none
  match table.longName? (String.ofList name) with
  | none => .error (.unknownWord word)
  | some (long, letter) =>
    if table.valued.contains letter then
      match value, next with
      | some value, _ => .ok (.valued letter value, false)
      | none, some value => .ok (.valued letter value, true)
      | none, none => .error (.missingLongValue long)
    else if value.isSome then .error (.unneededValue long)
    else .ok (.letter letter, false)

def read (table : FlagTable) : List String → Except FlagFault (List Flag × List String)
  | [] => .ok ([], [])
  | word :: rest =>
    match word.toList with
    | ['-', '-'] => .ok ([], rest)
    | '-' :: '-' :: _ =>
      match table.longFlag word rest.head? with
      | .error fault => .error fault
      | .ok (flag, false) => do
        let (others, operands) ← table.read rest
        return (flag :: others, operands)
      | .ok (flag, true) =>
        match rest with
        | [] => .ok ([flag], [])
        | _ :: rest => do
          let (others, operands) ← table.read rest
          return (flag :: others, operands)
    | '-' :: letter :: letters =>
      match table.letters (letter :: letters) with
      | .error fault => .error fault
      | .ok (flags, none) => do
        let (others, operands) ← table.read rest
        return (flags ++ others, operands)
      | .ok (flags, some pending) =>
        match rest with
        | [] => .error (.missingValue pending)
        | value :: rest => do
          let (others, operands) ← table.read rest
          return (flags ++ .valued pending value :: others, operands)
    | _ => do
      let (others, operands) ← table.read rest
      return (others, word :: operands)

end FlagTable

def withFlags (name : String) (code : Int) (table : FlagTable) (arguments : List String)
    (use : List Flag → List String → Program Unit) : Program Unit :=
  match table.read arguments with
  | .ok (flags, operands) => use flags operands
  | .error fault => misuse name fault.message code

def given (flags : List Flag) (letter : Char) : Bool :=
  flags.contains (.letter letter)

def valuesOf (flags : List Flag) (letter : Char) : List String :=
  flags.filterMap fun flag =>
    match flag with
    | .valued other value => if other = letter then some value else none
    | _ => none

def valueOf? (flags : List Flag) (letter : Char) : Option String :=
  (valuesOf flags letter).getLast?

end JobShell.Tool
