/-!
# Typing at a terminal

A terminal gathers what is typed into lines, and hands over a line only when it
is complete. Until then some keys change the line instead of being added to it.
-/

namespace JobShell.Unix

set_option autoImplicit false

inductive Keystroke where
  | text (byte : UInt8)
  | endLine
  | endInput
  | erase
  | eraseWord
  | eraseLine
  | literalNext
  | interrupt
  | noEffect
  deriving DecidableEq, Repr

/-- The meaning of a byte under the usual settings. Holding and releasing the
output and showing the line again have no effect on the line. -/
def Keystroke.ofByte (byte : UInt8) : Keystroke :=
  match byte with
  | 10 | 13 => .endLine
  | 4 => .endInput
  | 127 => .erase
  | 23 => .eraseWord
  | 21 => .eraseLine
  | 22 => .literalNext
  | 3 | 26 | 28 => .interrupt
  | 17 | 18 | 19 => .noEffect
  | _ => .text byte

/-- What has been typed: the complete lines and the line at work, each with the
last typed first, and whether the next byte stands for itself. -/
structure Typing where
  complete : List ByteArray
  line : List UInt8
  literal : Bool

namespace Typing

def start : Typing :=
  ⟨[], [], false⟩

def lineLimit : Nat := 4095

/-- Adds a byte to the line. A full line takes no more. -/
def push (typing : Typing) (byte : UInt8) : Typing :=
  if typing.line.length < lineLimit then
    { typing with line := byte :: typing.line, literal := false }
  else { typing with literal := false }

def finish (typing : Typing) (ending : List UInt8) : Typing :=
  ⟨⟨(typing.line.reverse ++ ending).toArray⟩ :: typing.complete, [], false⟩

def isWordByte (byte : UInt8) : Bool :=
  (48 ≤ byte && byte ≤ 57) || (65 ≤ byte && byte ≤ 90) || (97 ≤ byte && byte ≤ 122)
    || byte == 95 || (192 ≤ byte && byte != 215 && byte != 247)

/-- Types one byte. An interrupt throws away all that has not been read. -/
def type (typing : Typing) (byte : UInt8) : Typing :=
  if typing.literal then typing.push byte
  else
    match Keystroke.ofByte byte with
    | .text byte => typing.push byte
    | .endLine => typing.finish [10]
    | .endInput => typing.finish []
    | .erase => { typing with line := typing.line.drop 1 }
    | .eraseWord =>
      { typing with
        line := (typing.line.dropWhile fun byte => !isWordByte byte).dropWhile isWordByte }
    | .eraseLine => { typing with line := [] }
    | .literalNext => { typing with literal := true }
    | .interrupt => start
    | .noEffect => typing

/-- What a terminal hands over of typed bytes, one complete line at a time. A
typed end of input is not handed over itself. -/
def chunks (bytes : List UInt8) : List ByteArray :=
  (bytes.foldl type start).complete.reverse

end Typing

end JobShell.Unix
