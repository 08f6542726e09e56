import JobShell.Text.Decimal
import JobShell.Unix.Program

/-!
# Conditions

What `test` and `[` decide: properties of files, comparisons of texts and of
integers, and combinations of these. All parts of a combination are decided. What
a word means depends on the words behind it, so that an operator in the place of
an operand is one.
-/

namespace JobShell.Script.Condition

open Unix (Program)

set_option autoImplicit false

inductive Fault where
  | badNumber (text : String)
  | unexpected (word : String)
  | missingArgument (operator : String)
  | openParenthesis
  deriving DecidableEq, Repr

def Fault.message : Fault → String
  | .badNumber text => "Illegal number: " ++ text
  | .unexpected word => word ++ ": unexpected operator"
  | .missingArgument operator => operator ++ ": argument expected"
  | .openParenthesis => "closing paren expected"

def isBlank (character : Char) : Bool :=
  character == ' ' || ('\t' ≤ character && character ≤ '\r')

def integer? (text : String) : Except Fault Int :=
  let trimmed := text.toList.dropWhile isBlank
  let (negative, body) :=
    match trimmed with
    | '-' :: rest => (true, rest)
    | '+' :: rest => (false, rest)
    | rest => (false, rest)
  let digits := body.takeWhile Char.isDigit
  let value : Nat := digits.foldl (fun value digit => value * 10 + (digit.toNat - 48)) 0
  if digits.isEmpty || (body.drop digits.length).any (!isBlank ·) ||
      0x7fffffffffffffff + (if negative then 1 else 0) < value then
    .error (.badNumber text)
  else .ok (if negative then -(value : Int) else value)

def isUnary (word : String) : Bool :=
  ["-e", "-f", "-d", "-r", "-w", "-x", "-s", "-L", "-h", "-p", "-c", "-b", "-z", "-n", "-t",
   "-S", "-u", "-g", "-k", "-O", "-G"].contains word

def isBinary (word : String) : Bool :=
  ["=", "!=", "<", ">", "-eq", "-ne", "-lt", "-le", "-gt", "-ge", "-nt", "-ot", "-ef"].contains
    word

/-- Whether a word has a meaning of its own in front of the words behind it. One
operator has none when it must be an operand itself. -/
def isOperator (word : String) (behind : List String) : Bool :=
  if isUnary word then
    match behind with
    | [] => false
    | [_] => true
    | next :: _ :: _ => !isBinary next
  else if word == "(" then !behind.isEmpty
  else isBinary word || ["!", "-a", "-o", ")"].contains word

def unary (operator operand : String) : Program (Except Fault Bool) := do
  match operator with
  | "-z" => return .ok operand.isEmpty
  | "-n" => return .ok (!operand.isEmpty)
  | "-t" =>
    match integer? operand with
    | .error fault => return .error fault
    | .ok number => return .ok (← Program.isTerminal number.toNat)
  | _ =>
    match ← Program.inspect operand (operator != "-L" && operator != "-h") with
    | .error _ => return .ok false
    | .ok status =>
      return .ok <|
        match operator with
        | "-f" => status.kind = .regular
        | "-d" => status.kind = .directory
        | "-L" | "-h" => status.kind = .symbolicLink
        | "-p" => status.kind = .pipe
        | "-c" => status.kind = .characterDevice
        | "-s" => status.size > 0
        | "-x" => status.kind = .directory || status.mode &&& 0o111 != 0
        | "-u" => status.mode.testBit 11
        | "-g" => status.mode.testBit 10
        | "-k" => status.mode.testBit 9
        | "-b" | "-S" => false
        | _ => true

def isSameFile (first second : String) : Program Bool := do
  match ← Program.inspect first true, ← Program.inspect second true with
  | .ok status, .ok other => return status.inode == other.inode
  | _, _ => return false

/-- Decides a comparison. Files have no age. -/
def binary (operator first second : String) : Program (Except Fault Bool) :=
  let numbers (decide : Int → Int → Bool) : Program (Except Fault Bool) :=
    pure do
      return decide (← integer? first) (← integer? second)
  match operator with
  | "=" => pure (.ok (first == second))
  | "!=" => pure (.ok (first != second))
  | "<" => pure (.ok (first < second))
  | ">" => pure (.ok (second < first))
  | "-eq" => numbers (· == ·)
  | "-ne" => numbers (· != ·)
  | "-lt" => numbers (· < ·)
  | "-le" => numbers (· ≤ ·)
  | "-gt" => numbers fun first second => second < first
  | "-ge" => numbers fun first second => second ≤ first
  | "-ef" => do return .ok (← isSameFile first second)
  | _ => pure (.ok false)

/-- A condition that was decided, the last word that it took, and the words behind
that one. -/
abbrev Decided := Except Fault (Bool × String × List String)

def primary (whole : List String → Program Decided) (word : String) (behind : List String) :
    Program Decided := do
  if word == "(" && !behind.isEmpty then
    match behind with
    | ")" :: rest => return .ok (false, ")", rest)
    | _ =>
      match ← whole behind with
      | .error fault => return .error fault
      | .ok (value, _, ")" :: rest) => return .ok (value, ")", rest)
      | .ok _ => return .error .openParenthesis
  else if isUnary word && isOperator word behind then
    match behind with
    | [] => return .error (.missingArgument word)
    | operand :: rest => return (← unary word operand).map fun value => (value, operand, rest)
  else
    match behind with
    | operator :: rest =>
      if isBinary operator then
        match rest with
        | [] => return .error (.missingArgument operator)
        | second :: rest =>
          return (← binary operator word second).map fun value => (value, second, rest)
      else return .ok (!word.isEmpty, word, behind)
    | [] => return .ok (!word.isEmpty, word, [])

def negated (whole : List String → Program Decided) : List String → Program Decided
  | [] => pure (.ok (false, "", []))
  | word :: behind =>
    if word == "!" then
      match behind with
      | [] => pure (.ok (true, word, []))
      | _ => do return (← negated whole behind).map fun (value, rest) => (!value, rest)
    else primary whole word behind

def conjunction (whole : List String → Program Decided) : Nat → List String → Program Decided
  | 0, _ => pure (.ok (false, "", []))
  | turns + 1, words => do
    match ← negated whole words with
    | .ok (first, _, "-a" :: rest) =>
      return (← conjunction whole turns rest).map fun (second, left) => (first && second, left)
    | decided => return decided

def disjunction (whole : List String → Program Decided) : Nat → List String → Program Decided
  | 0, _ => pure (.ok (false, "", []))
  | turns + 1, words => do
    match ← conjunction whole turns words with
    | .ok (first, _, "-o" :: rest) =>
      return (← disjunction whole turns rest).map fun (second, left) => (first || second, left)
    | decided => return decided

def combined : Nat → List String → Program Decided
  | 0, _ => pure (.error .openParenthesis)
  | depth + 1, words => disjunction (combined depth) (words.length + 1) words

/-- Decides a condition. No word at all is false. A comparison of three words is one
whatever these are, and three or four words between parentheses, or behind a
negation, are taken without these. -/
def decide : List String → Program (Except Fault Bool)
  | [] => pure (.ok false)
  | first :: rest =>
    let words := first :: rest
    let general : Program (Except Fault Bool) := do
      match ← combined (words.length + 1) words with
      | .error fault => return .error fault
      | .ok (value, _, []) => return .ok value
      | .ok (_, last, _ :: _) => return .error (.unexpected last)
    match rest with
    | [operator, second] =>
      if isBinary operator then binary operator first second
      else if first == "(" && second == ")" then decide [operator]
      else if first == "!" then do return (← decide [operator, second]).map not
      else general
    | [second, third, last] =>
      if first == "(" && last == ")" then decide [second, third]
      else if first == "!" then do return (← decide [second, third, last]).map not
      else general
    | _ => general
termination_by words => words.length

end JobShell.Script.Condition
