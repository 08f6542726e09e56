/-!
# The text of a script while it is read

The characters that are left and the number of the line they begin on.
-/

namespace JobShell.Script

set_option autoImplicit false

/-- What is left of a script. Lines that have been taken out behind the current one are
counted when that ends. An alias that has been replaced is listed with the number of
characters behind it, as it is no alias up to there. -/
structure Source where
  rest : List Char
  line : Nat
  taken : Nat
  aliases : List (String × String)
  replaced : List (String × Nat)

inductive ReadFault where
  | unexpected (token : String) (expecting : Option String)
  | unterminatedQuote
  | unterminatedBackquote
  | missing (closer : String)
  | badSubstitution
  | badName
  | badFunctionName
  | unexpectedEnd (expecting : Option String)
  deriving DecidableEq, Repr

def ReadFault.message : ReadFault → String
  | .unexpected token expecting =>
    "Syntax error: " ++ token ++ " unexpected" ++
      (expecting.map fun word => " (expecting " ++ word ++ ")").getD ""
  | .unterminatedQuote => "Syntax error: Unterminated quoted string"
  | .unterminatedBackquote => "Syntax error: EOF in backquote substitution"
  | .missing closer => "Syntax error: Missing '" ++ closer ++ "'"
  | .badSubstitution => "Bad substitution"
  | .badName => "Syntax error: Bad for loop variable"
  | .badFunctionName => "Syntax error: Bad function name"
  | .unexpectedEnd expecting =>
    "Syntax error: end of file unexpected" ++
      (expecting.map fun word => " (expecting " ++ word ++ ")").getD ""

/-- A reader of a part of a script. A fault comes with the line it is found on. -/
abbrev Reader (α : Type) := StateT Source (Except (Nat × ReadFault)) α

def keywords : List String :=
  ["!", "case", "do", "done", "elif", "else", "esac", "fi", "for", "if", "in", "then", "until",
   "while", "\x7b", "\x7d"]

/-- The commands that are part of the language, so that a fault in one ends the
script. -/
def languageCommands : List String :=
  [".", ":", "break", "continue", "eval", "exec", "exit", "export", "local", "readonly",
   "return", "set", "shift", "times", "trap", "unset"]

namespace Source

def isMeta (character : Char) : Bool :=
  " \t\n;&|<>()".toList.contains character

def isNameStart (character : Char) : Bool :=
  character.isAlpha || character == '_'

def isNamePart (character : Char) : Bool :=
  isNameStart character || character.isDigit

def isName (text : String) : Bool :=
  match text.toList with
  | [] => false
  | first :: rest => isNameStart first && rest.all isNamePart

def isSpecial (character : Char) : Bool :=
  "@*#?-$!0123456789".toList.contains character

def ofText (text : String) (line : Nat) : Source :=
  ⟨text.toList, line, 0, [], []⟩

def advance (source : Source) (count : Nat) : Source :=
  let ends := (source.rest.take count).countP (· == '\n')
  { source with
    rest := source.rest.drop count
    line := source.line + ends + if ends = 0 then 0 else source.taken
    taken := if ends = 0 then source.taken else 0 }

/-- A text with the alias at its start replaced, if there is one that has not been. A
blank at the end of an alias lets the next word be one too. -/
def replaceAlias (source : Source) : Nat → List Char → List (String × Nat) →
    List Char × List (String × Nat)
  | 0, text, replaced => (text, replaced)
  | turns + 1, text, replaced =>
    let word := text.takeWhile fun character => !isMeta character
    let behind := text.drop word.length
    let name := String.ofList word
    match (source.aliases.filter fun entry => !keywords.contains entry.1).lookup name with
    | none => (text, replaced)
    | some value =>
      if replaced.any fun entry => entry.1 == name && entry.2 < text.length then (text, replaced)
      else
        let noted := (name, behind.length) :: replaced
        let (behind, noted) :=
          if value.endsWith " " || value.endsWith "\t" then
            let blanks := behind.takeWhile fun character => character == ' ' || character == '\t'
            let (others, noted) := source.replaceAlias turns (behind.drop blanks.length) noted
            (blanks ++ others, noted)
          else (behind, noted)
        source.replaceAlias turns (value.toList ++ behind) noted

end Source

namespace Reader

def fail {α : Type} (fault : ReadFault) : Reader α := do
  throw ((← get).line, fault)

def failAtEnd {α : Type} (fault : ReadFault) : Reader α := do
  let source ← get
  throw (source.line + source.taken + source.rest.countP (· == '\n'), fault)

def skip (count : Nat) : Reader Unit :=
  modify fun source => source.advance count

def startsWith (text : String) : Reader Bool := do
  return text.toList.isPrefixOf (← get).rest

def accept (text : String) : Reader Bool := do
  if ← startsWith text then
    skip text.length
    return true
  else return false

def blankLength : Nat → List Char → Nat
  | 0, _ => 0
  | turns + 1, ' ' :: rest | turns + 1, '\t' :: rest => 1 + blankLength turns rest
  | turns + 1, '\\' :: '\n' :: rest => 2 + blankLength turns rest
  | _, '#' :: rest => 1 + (rest.takeWhile (· != '\n')).length
  | _, _ => 0

def skipBlanks : Reader Unit := do
  let source ← get
  skip (blankLength (source.rest.length + 1) source.rest)

def skipLines : Nat → Reader Unit
  | 0 => pure ()
  | turns + 1 => do
    skipBlanks
    if ← accept "\n" then skipLines turns

def skipAllLines : Reader Unit := do
  skipLines ((← get).rest.length + 1)

def peekWord : Reader String := do
  return String.ofList ((← get).rest.takeWhile fun c => !Source.isMeta c)

def atWord (word : String) : Reader Bool := do
  return (← peekWord) == word

def replaceAliases : Reader Unit := do
  let source ← get
  if !source.aliases.isEmpty then
    let (rest, replaced) :=
      source.replaceAlias (source.aliases.length + 1) source.rest source.replaced
    set { source with rest := rest, replaced := replaced }

def atRedirection : Reader Bool := do
  let behind := (← get).rest.dropWhile Char.isDigit
  return behind.head? == some '<' || behind.head? == some '>'

/-- What comes next, for a message. Where they have a meaning, the words of the
language are told from others. -/
def nextToken (withKeywords : Bool) : Reader String := do
  if ← atRedirection then return "redirection"
  let word ← peekWord
  if !word.isEmpty then
    return if withKeywords && keywords.contains word then "\"" ++ word ++ "\"" else "word"
  for operator in [";;", "&&", "||", ";", "&", "|", "(", ")"] do
    if ← startsWith operator then return "\"" ++ operator ++ "\""
  return "word"

/-- Fails because of what comes next. A line end counts for the next line. -/
def failAt {α : Type} (withKeywords : Bool) (expecting : Option String) : Reader α := do
  match (← get).rest with
  | [] => fail (.unexpectedEnd expecting)
  | '\n' :: _ =>
    skip 1
    fail (.unexpected "newline" expecting)
  | _ => fail (.unexpected (← nextToken withKeywords) expecting)

def failHere {α : Type} (expecting : Option String) : Reader α :=
  failAt true expecting

def expectWord (word : String) : Reader Unit := do
  skipBlanks
  if ← atWord word then skip word.length
  else failHere (some ("\"" ++ word ++ "\""))

end Reader

end JobShell.Script
