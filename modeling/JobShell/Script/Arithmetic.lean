import JobShell.Script.Source

/-!
# Arithmetic

Integer expressions as in C, on sixty-four bits. An expression is cut into tokens,
which are then read and worked out in one pass. Names stand for the values of
variables, and an assignment changes them. A branch that is not taken is read
without effect.
-/

namespace JobShell.Script.Arithmetic

set_option autoImplicit false

inductive Fault where
  | noOperand
  | leftOver
  | noParenthesis
  | noColon
  | divisionByZero
  | notNumber (text : String)
  | readOnly (name : String)
  deriving DecidableEq, Repr

def Fault.message (fault : Fault) (expression : String) : String :=
  let about (what : String) : String :=
    "arithmetic expression: " ++ what ++ ": \"" ++ expression ++ "\""
  match fault with
  | .noOperand => about "expecting primary"
  | .leftOver => about "expecting EOF"
  | .noParenthesis => about "expecting ')'"
  | .noColon => about "expecting ':'"
  | .divisionByZero => about "division by zero"
  | .notNumber text => "Illegal number: " ++ text
  | .readOnly name => name ++ ": is read only"

def wordSize : Nat := 0x10000000000000000

def greatest : Nat := 0x7fffffffffffffff

def wrap (value : Int) : Int :=
  Int.bmod value wordSize

def digit? (character : Char) : Option Nat :=
  if character.isDigit then some (character.toNat - '0'.toNat)
  else if 'a' ≤ character && character ≤ 'f' then some (character.toNat - 'a'.toNat + 10)
  else if 'A' ≤ character && character ≤ 'F' then some (character.toNat - 'A'.toNat + 10)
  else none

def digitsIn (base : Nat) (digits : List Char) : Nat :=
  (digits.filterMap digit?).foldl (fun value digit => value * base + digit) 0

def digitsOf (base : Nat) (text : List Char) : List Char :=
  text.takeWhile fun character => (digit? character).any (· < base)

/-- The numeral at the start of a text and what follows it: hexadecimal after `0x`
and a digit, octal after a zero. -/
def readNumeral (text : List Char) : Nat × List Char :=
  let read (base : Nat) (digits : List Char) : Nat × List Char :=
    (digitsIn base (digitsOf base digits), digits.drop (digitsOf base digits).length)
  match text with
  | '0' :: mark :: rest =>
    if (mark == 'x' || mark == 'X') && !(digitsOf 16 rest).isEmpty then read 16 rest
    else read 8 text
  | '0' :: _ => read 8 text
  | _ => read 10 text

def isBlank (character : Char) : Bool :=
  character == ' ' || ('\t' ≤ character && character ≤ '\r')

/-- The number that the value of a variable stands for. A blank one is zero. -/
def numberOf (text : String) : Except Fault Int :=
  let characters := text.toList.dropWhile isBlank
  let (negative, body) :=
    match characters with
    | '-' :: rest => (true, rest)
    | '+' :: rest => (false, rest)
    | _ => (false, characters)
  let (value, rest) := readNumeral body
  let started := !(digitsOf 10 body).isEmpty
  let left := if started then rest else characters
  if left.any (!isBlank ·) || greatest + (if negative then 1 else 0) < value then
    .error (.notNumber text)
  else .ok (if negative then -(value : Int) else value)

inductive Token where
  | number (value : Int)
  | name (name : String)
  | operator (operator : String)
  | assignment (operator : Option String)
  | unknown
  deriving DecidableEq, Repr

/-- The marks of operators. A longer one comes before its beginnings. -/
def marks : List (String × Token) :=
  ["<<", ">>", "+", "-", "*", "/", "%", "&", "|", "^"].map
      (fun mark => (mark ++ "=", Token.assignment (some mark))) ++
    ["==", "!=", "<=", ">=", "<<", ">>", "&&", "||"].map
      (fun mark => (mark, Token.operator mark)) ++
    [("=", .assignment none)] ++
    ["<", ">", "+", "-", "*", "/", "%", "&", "|", "^", "~", "!", "(", ")", "?", ":"].map
      (fun mark => (mark, Token.operator mark))

/-- The tokens of an expression, up to the first character that starts none. Fuel is
the length of the text. -/
def tokens : Nat → List Char → List Token
  | 0, _ => []
  | _, [] => []
  | turns + 1, character :: rest =>
    if character == ' ' || character == '\t' || character == '\n' then tokens turns rest
    else if character.isDigit then
      let (value, left) := readNumeral (character :: rest)
      .number (min value greatest) :: tokens turns left
    else if Source.isNameStart character then
      let name := (character :: rest).takeWhile Source.isNamePart
      .name (String.ofList name) :: tokens turns ((character :: rest).drop name.length)
    else
      match marks.find? fun mark => mark.1.toList.isPrefixOf (character :: rest) with
      | some (mark, token) => token :: tokens turns ((character :: rest).drop mark.length)
      | none => [.unknown]

/-- The variables that an expression reads and sets, and those that it must not
set. -/
structure Variables where
  values : List (String × String)
  readOnly : List String

structure Reading where
  rest : List Token
  names : Variables

abbrev Work (α : Type) := StateT Reading (Except Fault) α

def valueOf (name : String) : Work Int := do
  numberOf (((← get).names.values.lookup name).getD "")

def assign (name : String) (value : Int) : Work Unit := do
  let reading ← get
  if reading.names.readOnly.contains name then throw (.readOnly name)
  else
    let others := reading.names.values.filter fun entry => entry.1 != name
    set { reading with
      names := { reading.names with values := (name, toString value) :: others } }

def next : Work (Option Token) := do
  let reading ← get
  set { reading with rest := reading.rest.drop 1 }
  return reading.rest.head?

def accept (operator : String) : Work Bool := do
  if (← get).rest.head? == some (.operator operator) then
    let _ ← next
    return true
  else return false

def ofBool (value : Bool) : Int :=
  if value then 1 else 0

def bitwise (combine : Nat → Nat → Nat) (first second : Int) : Int :=
  wrap (combine (first % wordSize).toNat (second % wordSize).toNat)

def apply (operator : String) (first second : Int) : Except Fault Int :=
  match operator with
  | "|" => .ok (bitwise (· ||| ·) first second)
  | "^" => .ok (bitwise (· ^^^ ·) first second)
  | "&" => .ok (bitwise (· &&& ·) first second)
  | "==" => .ok (ofBool (first == second))
  | "!=" => .ok (ofBool (first != second))
  | "<=" => .ok (ofBool (first ≤ second))
  | ">=" => .ok (ofBool (second ≤ first))
  | "<" => .ok (ofBool (first < second))
  | ">" => .ok (ofBool (second < first))
  | "<<" => .ok (wrap (first * Nat.pow 2 (second % 64).toNat))
  | ">>" => .ok (first >>> (second % 64).toNat)
  | "+" => .ok (wrap (first + second))
  | "-" => .ok (wrap (first - second))
  | "*" => .ok (wrap (first * second))
  | "/" =>
    if second = 0 then .error .divisionByZero else .ok (wrap (Int.tdiv first second))
  | "%" =>
    if second = 0 then .error .divisionByZero else .ok (wrap (Int.tmod first second))
  | _ => .error .noOperand

/-- The binary operators from the loosest to the tightest. -/
def levels : List (List String) :=
  [["|"], ["^"], ["&"], ["==", "!="], ["<=", ">=", "<", ">"], ["<<", ">>"], ["+", "-"],
   ["*", "/", "%"]]

def operand (whole : Bool → Work Int) (counts : Bool) : Nat → Work Int
  | 0 => throw .noOperand
  | turns + 1 => do
    match ← next with
    | some (.number value) => return value
    | some (.name name) => if counts then valueOf name else return 0
    | some (.operator "(") =>
      let value ← whole counts
      if ← accept ")" then return value else throw .noParenthesis
    | some (.operator "+") => operand whole counts turns
    | some (.operator "-") => return wrap (-(← operand whole counts turns))
    | some (.operator "~") => return wrap (-(← operand whole counts turns) - 1)
    | some (.operator "!") => return ofBool ((← operand whole counts turns) == 0)
    | _ => throw .noOperand

def leftChain (counts : Bool) (tighter : Work Int) (operators : List String) :
    Nat → Int → Work Int
  | 0, first => pure first
  | turns + 1, first => do
    match (← get).rest.head? with
    | some (.operator operator) =>
      if operators.contains operator then
        let _ ← next
        let second ← tighter
        -- What does not count is read all the same, but a division by zero in it is no fault.
        let value ← if counts then apply operator first second else pure second
        leftChain counts tighter operators turns value
      else return first
    | _ => return first

def atLevels (counts : Bool) (turns : Nat) (operand : Work Int) : List (List String) → Work Int
  | [] => operand
  | operators :: tighter => do
    let first ← atLevels counts turns operand tighter
    leftChain counts (atLevels counts turns operand tighter) operators turns first

/-- Works out conditions that must all hold; one behind a false one does not
count. -/
def conjunction (binary : Bool → Work Int) : Nat → Bool → Work Int
  | 0, _ => throw .noOperand
  | turns + 1, counts => do
    let first ← binary counts
    if ← accept "&&" then
      let second ← conjunction binary turns (counts && first != 0)
      return ofBool (first != 0 && second != 0)
    else return first

def disjunction (conjunction : Bool → Work Int) : Nat → Bool → Work Int
  | 0, _ => throw .noOperand
  | turns + 1, counts => do
    let first ← conjunction counts
    if ← accept "||" then
      let second ← disjunction conjunction turns (counts && first == 0)
      return ofBool (first != 0 || second != 0)
    else return first

def choice (whole condition : Bool → Work Int) : Nat → Bool → Work Int
  | 0, _ => throw .noOperand
  | turns + 1, counts => do
    let test ← condition counts
    if ← accept "?" then
      let yes ← whole (counts && test != 0)
      if !(← accept ":") then throw .noColon
      let no ← choice whole condition turns (counts && test == 0)
      return if test != 0 then yes else no
    else return test

def expression (turns : Nat) : Nat → Bool → Reading → Except Fault (Int × Reading)
  | 0, _, _ => .error .noOperand
  | depth + 1, counts, reading =>
    let whole (counts : Bool) : Work Int := expression turns depth counts
    let work : Work Int :=
      match reading.rest with
      | .name name :: .assignment operator :: rest => do
        set { reading with rest := rest }
        let value ← whole counts
        if counts then
          let result ←
            match operator with
            | some operator => do apply operator (← valueOf name) value
            | none => pure value
          assign name result
          return result
        else return value
      | _ =>
        let binary (counts : Bool) : Work Int :=
          atLevels counts turns (operand whole counts turns) levels
        choice whole (disjunction (conjunction binary turns) turns) turns counts
    work.run reading

def evaluate (text : String) (names : Variables) :
    Except Fault (Int × List (String × String)) := do
  let all := tokens text.length text.toList
  let (value, reading) ← expression (all.length + 1) (all.length + 1) true ⟨all, names⟩
  if reading.rest.isEmpty then return (value, reading.names.values) else throw .leftOver

end JobShell.Script.Arithmetic
