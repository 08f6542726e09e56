import JobShell.Tool.Format

/-!
# Tools that produce text

`echo`, `printf`, `seq`, `yes`, `true`, `false`, `sleep` and `env`.
-/

namespace JobShell.Tool

open Unix (Program Errno)

set_option autoImplicit false

def trueTool (_ : List String) : Program Unit :=
  Program.exit 0

def falseTool (_ : List String) : Program Unit :=
  Program.exit 1

/-- Waits. Time does not pass here, so it ends at once. -/
def sleep (_ : List String) : Program Unit :=
  Program.exit 0

def isEchoFlag (word : String) : Bool :=
  match word.toList with
  | '-' :: letter :: letters =>
    (letter :: letters).all fun c => c == 'n' || c == 'e' || c == 'E'
  | _ => false

def echo (arguments : List String) : Program Unit := do
  let words := arguments.drop 1
  let flags := words.takeWhile isEchoFlag
  let rest := words.dropWhile isEchoFlag
  let letters := flags.flatMap fun word => word.toList.drop 1
  let escaped := (letters.filter (· != 'n')).getLast? == some 'e'
  let text := " ".intercalate rest
  let style : EscapeStyle := ⟨true, true, true, false, false⟩
  let (bytes, ending) := if escaped then style.apply text.toList else (text.toUTF8, none)
  emit (arguments.headD "echo")
    (if letters.contains 'n' || ending.isSome then bytes else bytes.push lineFeed)
  Program.exit 0

/-- Whether a directive makes sense: some flags and precisions do not go with its
conversion. -/
def isSensible (directive : Directive) : Bool :=
  let without (flags : String) : Bool :=
    directive.flags.all fun flag => !flags.toList.contains flag
  match directive.conversion with
  | some 'b' => directive.source == "%b"
  | some 'q' => directive.source == "%q"
  | some 'c' => without "#0'I" && directive.precision.isNone
  | some 's' => without "#0'I"
  | some 'd' | some 'i' | some 'u' => without "#"
  | some 'f' | some 'F' | some 'g' | some 'G' => true
  | _ => without "'I"

def formatDialect (name : String) : FormatDialect :=
  let invalid (directive : Directive) : String :=
    directive.source ++ ": invalid conversion specification"
  { start := name
    alphabet := ⟨"I'-+ #0".toList, "hlLjzt".toList, "sqcbdiouxXaAeEfFgG".toList⟩
    readText := EscapeStyle.apply ⟨false, true, true, true, true⟩
    inArgument := ⟨true, true, true, true, true⟩
    floating := .extended
    allows := isSensible
    badDirective := invalid
    noConversion := invalid
    notNumber := "expected a numeric value"
    notAllNumber := "value not completely converted"
    cite := Text.ShellWord.cited
    badStatus := 1
    strict := true }

def printf (arguments : List String) : Program Unit :=
  let own := arguments.headD "printf"
  match (match arguments.drop 1 with
    | "--" :: rest => rest
    | rest => rest) with
  | [] => misuse own "missing operand" 1
  | format :: rest => do
    let run := (formatDialect own).run format rest
    let printed ← run.complaints.foldlM
      (fun (printed : Nat) complaint => do
        emit own (run.text.extract printed complaint.place)
        Program.say Unix.standardError (complaint.message ++ "\n")
        return complaint.place)
      0
    emit own (run.text.extract printed run.text.size)
    Program.exit run.status

def SignedFraction.units (fraction : SignedFraction) (places : Nat) : Int :=
  let units : Int := unitsAt places fraction.size
  if fraction.negative then -units else units

/-- Writes numbers with a separator between them, in blocks. The numbers are given
in units of a decimal place. -/
def writeNumbers (own separator : String) (text : Int → ByteArray) (step : Int) :
    Nat → Int → ByteArray → Program Unit
  | 0, _, held => emit own held
  | count + 1, value, held => do
    let ended := held ++ text value ++ (if count = 0 then "\n" else separator).toUTF8
    if ended.size ≥ blockSize then do
      emit own ended
      writeNumbers own separator text step count (value + step) ByteArray.empty
    else writeNumbers own separator text step count (value + step) ended

def seqTable : FlagTable :=
  { FlagTable.ofLetters "w" "fs" with
    long := [("equal-width", 'w'), ("format", 'f'), ("separator", 's')] }

def isNegativeNumber (word : String) : Bool :=
  match word.toList with
  | '-' :: first :: _ => first.isDigit || first == '.'
  | _ => false

def seqWords (arguments : List String) : Except FlagFault (List Flag × List String) :=
  let isNumber (word : String) : Bool := isNegativeNumber word || !word.startsWith "-"
  let rec go : Nat → List String → Except FlagFault (List Flag × List String)
    | 0, words => .ok ([], words)
    | _, [] => .ok ([], [])
    | turns + 1, word :: rest =>
      if word == "--" then .ok ([], rest)
      else if isNumber word || word == "-" then .ok ([], word :: rest)
      else
        match seqTable.read [word] with
        | .ok (flags, _) => do
          let (others, words) ← go turns rest
          return (flags ++ others, words)
        | .error fault =>
          match rest with
          | [] => .error fault
          | value :: later =>
            match seqTable.read [word, value] with
            | .error fault => .error fault
            | .ok (flags, _) => do
              let (others, words) ← go turns later
              return (flags ++ others, words)
  go (arguments.length + 1) arguments

def seqNumber (own word : String) : Program SignedFraction :=
  match SignedFraction.read? word.toList with
  | some (value, []) => pure value
  | _ => misuse own ("invalid floating point argument: " ++ Text.ShellWord.cited word) 1

def SignedFraction.places (fraction : SignedFraction) : Nat :=
  (-fraction.size.scale).toNat

/-- The way in which a format writes a number: it must hold one directive, and that
for a fraction. -/
def numberFormat? (format : String) : Except String (SignedFraction → ByteArray) :=
  let cited := "format " ++ Text.ShellWord.cited format
  let parts := formatParts ⟨"-+#0 '".toList, ['L'], []⟩
    (fun text => ((String.ofList text).toUTF8, none)) (format.length + 1) format.toList
  let directives := parts.filterMap fun part =>
    match part with
    | .directive directive => some directive
    | .text _ _ => none
  match directives with
  | [] => .error (cited ++ " has no % directive")
  | [directive] =>
    match directive.conversion with
    | none => .error (cited ++ " ends in %")
    | some conversion =>
      if !"eEfFgG".toList.contains conversion then
        .error (cited ++ " has unknown %" ++ conversion.toString ++ " directive")
      else
        let amount (wanted : Option Amount) : Option Nat :=
          match wanted with
          | some (.written value) => some value
          | _ => none
        let layout : Layout :=
          ⟨directive.flags, (amount directive.width).getD 0, amount directive.precision, conversion⟩
        .ok fun value => parts.foldl
          (fun held part =>
            match part with
            | .text bytes _ => held ++ bytes
            | .directive _ => held ++ layout.decimal value.negative value.size)
          ByteArray.empty
  | _ => .error (cited ++ " has too many % directives")

/-- Prints a sequence of numbers. All have as many places as the first number or
the step, whichever has more, unless a format is given. -/
def seq (arguments : List String) : Program Unit := do
  let own := arguments.headD "seq"
  match seqWords (arguments.drop 1) with
  | .error fault => misuse own fault.message 1
  | .ok (flags, numbers) =>
    let format ←
      match (valueOf? flags 'f').map numberFormat? with
      | none => pure none
      | some (.ok format) => pure (some format)
      | some (.error message) => do
        complain own message
        Program.exit 1
    if format.isSome && given flags 'w' then
      misuse own "format string may not be specified when printing equal width strings" 1
    let one : SignedFraction := ⟨false, ⟨1, 0⟩⟩
    let (first, step, last) ←
      match numbers with
      | [] => misuse own "missing operand" 1
      | [last] => do pure (one, one, ← seqNumber own last)
      | [first, last] => do pure (← seqNumber own first, one, ← seqNumber own last)
      | [first, step, last] =>
        do pure (← seqNumber own first, ← seqNumber own step, ← seqNumber own last)
      | _ :: _ :: _ :: extra :: _ =>
        misuse own ("extra operand " ++ Text.ShellWord.cited extra) 1
    if step.size.digits = 0 then
      misuse own
        ("invalid Zero increment value: " ++ Text.ShellWord.cited (numbers[1]?.getD "0")) 1
    let places := max first.places step.places
    let precision := max places last.places
    let unit := Nat.pow 10 (precision - places)
    let (start, stride, stop) :=
      (first.units precision, step.units precision, last.units precision)
    let count : Nat :=
      if stride > 0 then (if stop < start then 0 else ((stop - start) / stride).toNat + 1)
      else (if start < stop then 0 else ((start - stop) / (-stride)).toNat + 1)
    let widthOf (value : Int) : Nat :=
      (withPoint false places (value.natAbs / unit)).length + (if value < 0 then 1 else 0)
    let width := if given flags 'w' then max (widthOf start) (widthOf stop) else 0
    let plain (value : Int) : ByteArray :=
      let sign := if value < 0 then "-" else ""
      let digits := withPoint false places value.natAbs
      (sign ++ Text.padLeftWith '0' (width - sign.length) digits).toUTF8
    let text (value : Int) : ByteArray :=
      match format with
      | some format => format ⟨value < 0, ⟨value.natAbs, -(places : Int)⟩⟩
      | none => plain value
    if count > 0 then
      writeNumbers own ((valueOf? flags 's').getD "\n") text (stride / unit) count (start / unit)
        ByteArray.empty
    Program.exit 0

def repeatBlock (name : String) (block : ByteArray) : Nat → Program Unit
  | 0 => pure ()
  | turns + 1 => do
    match ← Program.writeAll Unix.standardOutput block with
    | .ok _ => repeatBlock name block turns
    | .error errno =>
      complain name (because "standard output" errno)
      Program.exit 1

def yes (arguments : List String) : Program Unit :=
  let own := arguments.headD "yes"
  withFlags own 1 (.ofLetters "" "") (arguments.drop 1) fun _ words => do
    let line := ((if words.isEmpty then "y" else " ".intercalate words) ++ "\n").toUTF8
    let copies := max 1 (8192 / line.size)
    let block := (List.range copies).foldl (fun held _ => held ++ line) ByteArray.empty
    repeatBlock own block untilEnd

def assignment? (word : String) : Option (String × String) :=
  let name := word.toList.takeWhile (· != '=')
  match word.toList.dropWhile (· != '=') with
  | '=' :: value => some (String.ofList name, String.ofList value)
  | _ => none

def assign (environment : List (String × String)) (name value : String) : List (String × String) :=
  if environment.any fun setting => setting.1 == name then
    environment.map fun setting => if setting.1 == name then (name, value) else setting
  else environment ++ [(name, value)]

def envTable : FlagTable :=
  { FlagTable.ofLetters "i0v" "uC" with
    long := [("ignore-environment", 'i'), ("null", '0'), ("unset", 'u')] }

/-- The flags in front of the settings and the command, and those. A single dash
stands for an empty environment. -/
def envWords : List String → Except FlagFault (List Flag × List String)
  | [] => .ok ([], [])
  | word :: rest =>
    if word == "--" then .ok ([], rest)
    else if word == "-" then do
      let (flags, words) ← envWords rest
      return (.letter 'i' :: flags, words)
    else if !word.startsWith "-" then .ok ([], word :: rest)
    else
      match envTable.read [word] with
      | .ok (flags, _) => do
        let (others, words) ← envWords rest
        return (flags ++ others, words)
      | .error fault =>
        match rest with
        | [] => .error fault
        | value :: rest =>
          match envTable.read [word, value] with
          | .error fault => .error fault
          | .ok (flags, _) => do
            let (others, words) ← envWords rest
            return (flags ++ others, words)

def takeSettings (environment : List (String × String)) :
    List String → List (String × String) × List String
  | [] => (environment, [])
  | word :: rest =>
    match assignment? word with
    | some (name, value) => takeSettings (assign environment name value) rest
    | none => (environment, word :: rest)

def envFailure : Int := 125

def env (arguments : List String) : Program Unit := do
  let own := arguments.headD "env"
  match envWords (arguments.drop 1) with
  | .error fault => misuse own fault.message envFailure
  | .ok (flags, words) =>
    let start ← if given flags 'i' then pure [] else Program.environment
    let kept := start.filter fun setting => !(valuesOf flags 'u').contains setting.1
    match takeSettings kept words with
    | (changed, []) =>
      let ending := if given flags '0' then "\x00" else "\n"
      emitText own (String.join (changed.map fun (name, value) => name ++ "=" ++ value ++ ending))
      Program.exit 0
    | (changed, name :: rest) =>
      Program.setEnvironment changed
      let errno ← Program.execute (name :: rest)
      complain own (because (Text.ShellWord.cited name) errno)
      Program.exit (if errno = .noEntry then 127 else 126)

end JobShell.Tool
