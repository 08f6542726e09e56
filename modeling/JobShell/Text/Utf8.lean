/-!
# Lossy decoding of UTF-8

Input lines, file names and environment values arrive as bytes and need not be
valid UTF-8. The decoder reads one byte at a time and keeps the unfinished
sequence as its only state, so a text decoded in pieces and a text decoded at
once agree wherever a piece ends between two characters. Each maximal part of
an ill-formed sequence becomes one replacement character.
-/

namespace JobShell.Text.Utf8

set_option autoImplicit false

def replacement : Char := Char.ofNat 0xFFFD

/-- A sequence whose lead byte has been read and whose end has not. -/
structure Unfinished where
  value : Nat
  missing : Nat
  low : UInt8
  high : UInt8
  deriving DecidableEq, Repr

inductive Lead where
  | whole (character : Char)
  | opens (sequence : Unfinished)
  | invalid
  deriving DecidableEq, Repr

/-- Classifies a lead byte. The bounds on the byte after it rule out overlong
forms, surrogates and values above the last code point. -/
def lead (byte : UInt8) : Lead :=
  let bits := byte.toNat
  if bits < 0x80 then .whole (Char.ofNat bits)
  else if bits < 0xC2 then .invalid
  else if bits < 0xE0 then .opens ⟨bits - 0xC0, 1, 0x80, 0xBF⟩
  else if bits = 0xE0 then .opens ⟨0, 2, 0xA0, 0xBF⟩
  else if bits = 0xED then .opens ⟨13, 2, 0x80, 0x9F⟩
  else if bits < 0xF0 then .opens ⟨bits - 0xE0, 2, 0x80, 0xBF⟩
  else if bits = 0xF0 then .opens ⟨0, 3, 0x90, 0xBF⟩
  else if bits < 0xF4 then .opens ⟨bits - 0xF0, 3, 0x80, 0xBF⟩
  else if bits = 0xF4 then .opens ⟨4, 3, 0x80, 0x8F⟩
  else .invalid

structure Decoder where
  text : String
  pending : Option Unfinished

namespace Decoder

def start : Decoder := ⟨"", none⟩

def enter (decoder : Decoder) (byte : UInt8) : Decoder :=
  match lead byte with
  | .whole character => ⟨decoder.text.push character, none⟩
  | .opens sequence => ⟨decoder.text, some sequence⟩
  | .invalid => ⟨decoder.text.push replacement, none⟩

/-- Reads one byte. A byte that cannot continue the open sequence closes it
with a replacement and then starts a character of its own. -/
def feed (decoder : Decoder) (byte : UInt8) : Decoder :=
  match decoder.pending with
  | none => decoder.enter byte
  | some sequence =>
    if sequence.low ≤ byte ∧ byte ≤ sequence.high then
      let value := sequence.value * 64 + (byte.toNat - 0x80)
      if sequence.missing ≤ 1 then ⟨decoder.text.push (Char.ofNat value), none⟩
      else ⟨decoder.text, some ⟨value, sequence.missing - 1, 0x80, 0xBF⟩⟩
    else
      Decoder.enter ⟨decoder.text.push replacement, none⟩ byte

def finish (decoder : Decoder) : String :=
  match decoder.pending with
  | none => decoder.text
  | some _ => decoder.text.push replacement

end Decoder

/-- Decodes bytes, each maximal ill-formed part giving one replacement. -/
def decode (bytes : List UInt8) : String :=
  (bytes.foldl Decoder.feed Decoder.start).finish

def decodeArray (bytes : ByteArray) : String :=
  decode bytes.data.toList

end JobShell.Text.Utf8
