import JobShell.Tool.Floating

/-!
# Formats

A format is a text with directives, each of which takes an argument. It is
applied again until the arguments are used up. Missing arguments count as empty.
-/

namespace JobShell.Tool

set_option autoImplicit false

inductive Amount where
  | written (value : Nat)
  | given
  deriving DecidableEq, Repr

/-- One directive of a format: flags, width, precision and conversion, and how it
is written up to the conversion. -/
structure Directive where
  flags : List Char
  width : Option Amount
  precision : Option Amount
  conversion : Option Char
  source : String

/-- A part of a format. The output may end within a text. -/
inductive FormatPart where
  | text (bytes : ByteArray) (ending : Option EscapeEnd)
  | directive (directive : Directive)

structure DirectiveAlphabet where
  flags : List Char
  modifiers : List Char
  conversions : List Char

/-- How a program that applies formats reads text and arguments and says what is wrong.
Its complaints about an argument may be given it between quotes. A strict one warns of
what it ignores, and complains of a number that is out of range before all else. -/
structure FormatDialect where
  start : String
  alphabet : DirectiveAlphabet
  readText : List Char → ByteArray × Option EscapeEnd
  inArgument : EscapeStyle
  floating : FloatingFormat
  allows : Directive → Bool
  badDirective : Directive → String
  noConversion : Directive → String
  notNumber : String
  notAllNumber : String
  cite : String → String
  badStatus : Int
  strict : Bool

def readAmount (characters : List Char) : Option Amount × List Char :=
  match characters with
  | '*' :: rest => (some .given, rest)
  | _ =>
    let digits := characters.takeWhile Char.isDigit
    (if digits.isEmpty then none else some (.written (SignedFraction.ofDigits digits)),
      characters.drop digits.length)

def DirectiveAlphabet.read (alphabet : DirectiveAlphabet) (characters : List Char) :
    Directive × List Char :=
  let flags := characters.takeWhile alphabet.flags.contains
  let (width, rest) := readAmount (characters.drop flags.length)
  let (precision, rest) :=
    match rest with
    | '.' :: rest =>
      let (amount, rest) := readAmount rest
      (some (amount.getD (.written 0)), rest)
    | _ => (none, rest)
  let rest := rest.dropWhile alphabet.modifiers.contains
  let left := rest.drop 1
  (⟨flags, width, precision, rest.head?,
    String.ofList ('%' :: characters.take (characters.length - left.length))⟩, left)

/-- Cuts a format into parts. There are fewer than the given number of them. -/
def formatParts (alphabet : DirectiveAlphabet)
    (readText : List Char → ByteArray × Option EscapeEnd) : Nat → List Char → List FormatPart
  | 0, _ => []
  | _, [] => []
  | turns + 1, '%' :: '%' :: rest =>
    .text (characterBytes '%') none :: formatParts alphabet readText turns rest
  | turns + 1, '%' :: rest =>
    let (directive, rest) := alphabet.read rest
    .directive directive :: formatParts alphabet readText turns rest
  | turns + 1, character :: rest =>
    let plain := (character :: rest).takeWhile (· != '%')
    let (bytes, ending) := readText plain
    .text bytes ending ::
      formatParts alphabet readText turns ((character :: rest).drop plain.length)

structure Layout where
  flags : List Char
  width : Nat
  precision : Option Nat
  conversion : Char

namespace Layout

def pad (layout : Layout) (text : ByteArray) : ByteArray :=
  let filler : ByteArray := ⟨(List.replicate (layout.width - text.size) (32 : UInt8)).toArray⟩
  if layout.flags.contains '-' then text ++ filler else filler ++ text

def sign (layout : Layout) (negative : Bool) : String :=
  if negative then "-"
  else if layout.flags.contains '+' then "+"
  else if layout.flags.contains ' ' then " "
  else ""

def number (layout : Layout) (zeros : Bool) (sign digits : String) : ByteArray :=
  if zeros && layout.flags.contains '0' && !layout.flags.contains '-' then
    (sign ++ Text.padLeftWith '0' (layout.width - sign.length) digits).toUTF8
  else layout.pad (sign ++ digits).toUTF8

def wordValues : Int := 0x10000000000000000

/-- An integer. A negative one is taken as a word where there are no signs, and zero has no
digits when none are asked for. -/
def integer (layout : Layout) (value : Int) : ByteArray :=
  let word := if value < 0 then (wordValues + value).toNat else value.toNat
  let alternate := layout.flags.contains '#'
  let full (digits : String) : String :=
    Text.padLeftWith '0' (layout.precision.getD 1)
      (if value = 0 && layout.precision == some 0 then "" else digits)
  let marked (mark : String) : String := if alternate && value != 0 then mark else ""
  let (sign, digits) :=
    match layout.conversion with
    | 'o' =>
      let digits := full (Text.octal word)
      ("", if alternate && !digits.startsWith "0" then "0" ++ digits else digits)
    | 'x' => (marked "0x", full (Text.hexadecimal word))
    | 'X' => (marked "0X", full (Text.hexadecimal word).toUpper)
    | 'u' => ("", full (toString word))
    | _ => (layout.sign (value < 0), full (toString value.natAbs))
  layout.number layout.precision.isNone sign digits

def decimal (layout : Layout) (negative : Bool) (size : Text.DecimalFraction) : ByteArray :=
  let precision := layout.precision.getD 6
  let always := layout.flags.contains '#'
  let digits :=
    match layout.conversion with
    | 'e' => scientific always precision size
    | 'E' => (scientific always precision size).toUpper
    | 'g' => general always precision size
    | 'G' => (general always precision size).toUpper
    | _ => fixed always precision size
  layout.number true (layout.sign negative) digits

def floating (layout : Layout) (format : FloatingFormat) (value : Floating) : ByteArray :=
  let capital := layout.conversion.isUpper
  let cased (text : String) : String := if capital then text.toUpper else text
  match value with
  | .infinite negative => layout.pad (layout.sign negative ++ cased "inf").toUTF8
  | .notNumber negative => layout.pad (layout.sign negative ++ cased "nan").toUTF8
  | .finite negative units exponent =>
    if layout.conversion == 'a' || layout.conversion == 'A' then
      layout.number true (layout.sign negative ++ cased "0x")
        (cased (format.hexadecimal (layout.flags.contains '#') layout.precision units exponent))
    else layout.decimal negative (binaryDecimal units exponent)

end Layout

/-- The least and the greatest integer with a sign, and the greatest without one. -/
def leastInteger : Int := -0x8000000000000000

def greatestInteger : Int := 0x7fffffffffffffff

def greatestWord : Int := 0xffffffffffffffff

/-- The integer nearest to a value, and whether they differ. Without signs a negative value
counts from the other end. -/
def intoRange (signed : Bool) (value : Int) : Int × Bool :=
  if signed then
    if value < leastInteger then (leastInteger, true)
    else if greatestInteger < value then (greatestInteger, true)
    else (value, false)
  else if greatestWord < value || value < -greatestWord then (greatestWord, true)
  else (value, false)

def readNumeral (signed : Bool) (text : List Char) : NumberReading Int :=
  let start := text.dropWhile isNumberSpace
  let (negative, body) :=
    match start with
    | '-' :: rest => (true, rest)
    | '+' :: rest => (false, rest)
    | _ => (false, start)
  let read (base : Nat) (digit? : Char → Option Nat) (digits : List Char) : NumberReading Int :=
    let written := digits.takeWhile fun c => (digit? c).isSome
    let size : Int := digitsValue base (written.filterMap digit?)
    let (value, outOfRange) := intoRange signed (if negative then -size else size)
    ⟨value, digits.drop written.length, true, outOfRange, []⟩
  match body with
  | '0' :: mark :: digit :: rest =>
    if (mark == 'x' || mark == 'X') && (hexDigit? digit).isSome then
      read 16 hexDigit? (digit :: rest)
    else read 8 octalDigit? body
  | '0' :: _ => read 8 octalDigit? body
  | digit :: _ =>
    if digit.isDigit then read 10 decimalDigit? body else ⟨0, text, false, false, []⟩
  | [] => ⟨0, text, false, false, []⟩

/-- Reads the code of the character behind a quote at the start of a text, if there is a
quote. Characters behind it are ignored. -/
def readConstant? (strict : Bool) (text : List Char) : Option (Nat × List Char) :=
  match text with
  | quote :: rest =>
    if quote != '\'' && quote != '"' then none
    else
      match rest with
      | [] => if strict then none else some (0, [])
      | character :: ignored =>
        some ((characterBytes character)[0]!.toNat, ignored)
  | [] => none

def FormatDialect.readInteger (dialect : FormatDialect) (signed : Bool) (argument : String) :
    NumberReading Int :=
  match readConstant? dialect.strict argument.toList with
  | some (code, ignored) => ⟨code, [], true, false, ignored⟩
  | none => readNumeral signed argument.toList

def FormatDialect.readFloating (dialect : FormatDialect) (argument : String) :
    NumberReading Floating :=
  match readConstant? dialect.strict argument.toList with
  | some (code, ignored) => ⟨.finite false code 0, [], true, false, ignored⟩
  | none => dialect.floating.read argument.toList

/-- A complaint, and behind how much of the output it is made. -/
structure FormatComplaint where
  place : Nat
  message : String
  deriving DecidableEq, Repr

structure FormatRun where
  text : ByteArray
  left : List String
  stop : Bool
  complaints : List FormatComplaint
  status : Int

namespace FormatRun

def remark (run : FormatRun) (dialect : FormatDialect) (message : String) : FormatRun :=
  { run with
    complaints := run.complaints ++ [⟨run.text.size, dialect.start ++ ": " ++ message⟩] }

def fail (run : FormatRun) (dialect : FormatDialect) (message : String) : FormatRun :=
  { run.remark dialect message with stop := true, status := dialect.badStatus }

def next (run : FormatRun) : String × FormatRun :=
  (run.left.headD "", { run with left := run.left.drop 1 })

def write (run : FormatRun) (bytes : ByteArray) : FormatRun :=
  { run with text := run.text ++ bytes }

/-- Goes on behind a text that may have ended early. A strict dialect ends a stopped output
with success. -/
def endedBy (run : FormatRun) (dialect : FormatDialect) : Option EscapeEnd → FormatRun
  | none => run
  | some .stopped => { run with stop := true, status := if dialect.strict then 0 else run.status }
  | some (.faulty message) => run.fail dialect message

def check {α : Type} (run : FormatRun) (dialect : FormatDialect) (argument : String)
    (reading : NumberReading α) : FormatRun :=
  let say (fault : String) : FormatRun :=
    { run.remark dialect (dialect.cite argument ++ ": " ++ fault) with status := 1 }
  let range : String := "Numerical result out of range"
  if !reading.ignored.isEmpty && dialect.strict then
    run.remark dialect ("warning: " ++ String.ofList reading.ignored ++
      ": character(s) following character constant have been ignored")
  else if reading.outOfRange && (dialect.strict || reading.rest.isEmpty) then say range
  else if reading.rest.isEmpty then run
  else if reading.began then say dialect.notAllNumber
  else say dialect.notNumber

def greatestAmount : Int := 0x7fffffff

/-- Works out a number in a directive. A strict dialect refuses one that is too large, and
another one takes its lowest bits. -/
def amount (run : FormatRun) (dialect : FormatDialect) (isWidth : Bool) :
    Option Amount → Option Int × FormatRun
  | none => (none, run)
  | some (.written value) => (some value, run)
  | some .given =>
    match run.left with
    | [] => (some 0, run)
    | argument :: rest =>
      let reading := dialect.readInteger true argument
      let run := { run with left := rest }.check dialect argument reading
      let tooLarge := greatestAmount < reading.value ||
        (isWidth && reading.value < -greatestAmount - 1)
      if dialect.strict && tooLarge then
        (none, run.fail dialect ("invalid " ++ (if isWidth then "field width" else "precision") ++
          ": " ++ dialect.cite argument))
      else (some (Int.bmod reading.value 0x100000000), run)

def convert (run : FormatRun) (dialect : FormatDialect) (layout : Layout) : FormatRun :=
  let cut (bytes : ByteArray) : ByteArray :=
    match layout.precision with
    | some size => bytes.extract 0 size
    | none => bytes
  let (argument, after) := run.next
  let integer (signed : Bool) : FormatRun :=
    let reading := dialect.readInteger signed argument
    (after.check dialect argument reading).write (layout.integer reading.value)
  match layout.conversion with
  | 's' => after.write (layout.pad (cut argument.toUTF8))
  | 'q' =>
    if run.left.isEmpty then run else after.write (Text.ShellWord.shown argument).toUTF8
  | 'c' =>
    let first := argument.toUTF8.extract 0 1
    after.write (layout.pad (if first.isEmpty then ByteArray.empty.push 0 else first))
  | 'b' =>
    let (bytes, ending) := dialect.inArgument.apply argument.toList
    (after.write (layout.pad (cut bytes))).endedBy dialect ending
  | 'd' | 'i' => integer true
  | 'o' | 'u' | 'x' | 'X' => integer false
  | _ =>
    let reading := dialect.readFloating argument
    (after.check dialect argument reading).write
      (layout.floating dialect.floating reading.value)

def apply (run : FormatRun) (dialect : FormatDialect) (directive : Directive) : FormatRun :=
  let (width, run) := run.amount dialect true directive.width
  if run.stop then run
  else
    let (precision, run) := run.amount dialect false directive.precision
    if run.stop then run
    else
      match directive.conversion with
      | none => run.fail dialect (dialect.noConversion directive)
      | some conversion =>
        if !(dialect.alphabet.conversions.contains conversion && dialect.allows directive) then
          run.fail dialect (dialect.badDirective directive)
        else
          run.convert dialect
            { flags :=
                if (width.getD 0) < 0 then '-' :: directive.flags else directive.flags
              width := (width.getD 0).natAbs
              precision :=
                precision.bind fun value => if value < 0 then none else some value.toNat
              conversion := conversion }

def applyPart (dialect : FormatDialect) (run : FormatRun) (part : FormatPart) : FormatRun :=
  if run.stop then run
  else
    match part with
    | .text bytes ending => (run.write bytes).endedBy dialect ending
    | .directive directive => run.apply dialect directive

def applyAll (dialect : FormatDialect) (parts : List FormatPart) : Nat → FormatRun → FormatRun
  | 0, run => run
  | turns + 1, run =>
    let before := run.left.length
    let after := parts.foldl (applyPart dialect) run
    if after.stop || after.left.isEmpty || after.left.length = before then after
    else applyAll dialect parts turns after

end FormatRun

def FormatDialect.run (dialect : FormatDialect) (format : String) (arguments : List String) :
    FormatRun :=
  let parts := formatParts dialect.alphabet dialect.readText (format.length + 1) format.toList
  let run := FormatRun.applyAll dialect parts (arguments.length + 1)
    ⟨ByteArray.empty, arguments, false, [], 0⟩
  match run.stop, run.left with
  | false, excess :: _ =>
    if dialect.strict then
      run.remark dialect
        ("warning: ignoring excess arguments, starting with " ++ dialect.cite excess)
    else run
  | _, _ => run

end JobShell.Tool
