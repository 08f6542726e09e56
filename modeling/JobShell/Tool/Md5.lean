import JobShell.Text.Column
import JobShell.Tool.Basic

/-!
# MD5 digests

The digest of a byte string, in four words that are updated by sixty-four steps
for each block of sixty-four bytes.
-/

namespace JobShell.Tool

open Unix (Program)

set_option autoImplicit false

namespace Md5

/-- The constants added in the steps: the integer parts of the sines of the
first sixty-four numbers, times two to the thirty-second. -/
def sines : Array UInt32 := #[
  0xd76aa478, 0xe8c7b756, 0x242070db, 0xc1bdceee, 0xf57c0faf, 0x4787c62a, 0xa8304613, 0xfd469501,
  0x698098d8, 0x8b44f7af, 0xffff5bb1, 0x895cd7be, 0x6b901122, 0xfd987193, 0xa679438e, 0x49b40821,
  0xf61e2562, 0xc040b340, 0x265e5a51, 0xe9b6c7aa, 0xd62f105d, 0x02441453, 0xd8a1e681, 0xe7d3fbc8,
  0x21e1cde6, 0xc33707d6, 0xf4d50d87, 0x455a14ed, 0xa9e3e905, 0xfcefa3f8, 0x676f02d9, 0x8d2a4c8a,
  0xfffa3942, 0x8771f681, 0x6d9d6122, 0xfde5380c, 0xa4beea44, 0x4bdecfa9, 0xf6bb4b60, 0xbebfbc70,
  0x289b7ec6, 0xeaa127fa, 0xd4ef3085, 0x04881d05, 0xd9d4d039, 0xe6db99e5, 0x1fa27cf8, 0xc4ac5665,
  0xf4292244, 0x432aff97, 0xab9423a7, 0xfc93a039, 0x655b59c3, 0x8f0ccc92, 0xffeff47d, 0x85845dd1,
  0x6fa87e4f, 0xfe2ce6e0, 0xa3014314, 0x4e0811a1, 0xf7537e82, 0xbd3af235, 0x2ad7d2bb, 0xeb86d391]

def rotations : Array (Array UInt32) :=
  #[#[7, 12, 17, 22], #[5, 9, 14, 20], #[4, 11, 16, 23], #[6, 10, 15, 21]]

structure State where
  a : UInt32
  b : UInt32
  c : UInt32
  d : UInt32

def State.start : State :=
  ⟨0x67452301, 0xefcdab89, 0x98badcfe, 0x10325476⟩

def rotate (word amount : UInt32) : UInt32 :=
  (word <<< amount) ||| (word >>> (32 - amount))

def step (words : Array UInt32) (state : State) (index : Nat) : State :=
  let round := index / 16
  let (mixed, place) :=
    match round with
    | 0 => ((state.b &&& state.c) ||| (~~~state.b &&& state.d), index)
    | 1 => ((state.d &&& state.b) ||| (~~~state.d &&& state.c), (5 * index + 1) % 16)
    | 2 => (state.b ^^^ state.c ^^^ state.d, (3 * index + 5) % 16)
    | _ => (state.c ^^^ (state.b ||| ~~~state.d), (7 * index) % 16)
  let sum := mixed + state.a + sines.getD index 0 + words.getD place 0
  let amount := (rotations.getD round #[]).getD (index % 4) 0
  ⟨state.d, state.b + rotate sum amount, state.b, state.c⟩

def wordAt (bytes : ByteArray) (place : Nat) : UInt32 :=
  let byte (index : Nat) : UInt32 := (bytes.data.getD (place + index) 0).toUInt32
  byte 0 ||| (byte 1 <<< 8) ||| (byte 2 <<< 16) ||| (byte 3 <<< 24)

def absorb (state : State) (block : ByteArray) : State :=
  let words := (Array.range 16).map fun index => wordAt block (index * 4)
  let mixed := (List.range 64).foldl (step words) state
  ⟨state.a + mixed.a, state.b + mixed.b, state.c + mixed.c, state.d + mixed.d⟩

def littleEndian : Nat → Nat → ByteArray → ByteArray
  | 0, _, held => held
  | count + 1, number, held =>
    littleEndian count (number / 256) (held.push (UInt8.ofNat (number % 256)))

/-- The bytes with a mark, zeros and their length in bits, a whole number of
blocks. -/
def padded (bytes : ByteArray) : ByteArray :=
  let marked := bytes.push 0x80
  let zeros := (120 - marked.size % 64) % 64
  let filled := (List.range zeros).foldl (fun (held : ByteArray) _ => held.push 0) marked
  littleEndian 8 (bytes.size * 8) filled

def digest (bytes : ByteArray) : String :=
  let text := padded bytes
  let final := (List.range (text.size / 64)).foldl
    (fun state index => absorb state (text.extract (index * 64) (index * 64 + 64)))
    State.start
  let words := [final.a, final.b, final.c, final.d].foldl
    (fun held word => littleEndian 4 word.toNat held) ByteArray.empty
  String.join (words.data.toList.map fun byte =>
    Text.padLeftWith '0' 2 (Text.hexadecimal byte.toNat))

end Md5

/-- The letters of `md5sum`, and its long names. The letter for the tagged way has no
short form of its own. -/
def md5Flags : FlagTable :=
  { FlagTable.ofLetters "btz\x01" "" with
    long := [("binary", 'b'), ("text", 't'), ("zero", 'z'), ("tag", '\x01')] }

/-- Prints the digest of each input. A name that holds a backslash or a line end is
spelled with escapes, and a backslash in front of the line says so. -/
def md5sum (arguments : List String) : Program Unit :=
  let own := arguments.headD "md5sum"
  withFlags own 1 md5Flags (arguments.drop 1) fun flags files => do
    let mode := (flags.filter (· != .letter 'z')).getLast?
    let tagged := given flags '\x01'
    if tagged && mode == some (.letter 't') then
      misuse own "--tag does not support --text mode" 1
    let (_, clean) ← forInputs (.plain own) files
      (fun (_ : Unit) path source => do
        let (bytes, result) ← readAll source
        match result with
        | .error errno => return ((), .error errno)
        | .ok _ =>
          let name := ((path.replace "\\" "\\\\").replace "\n" "\\n").replace "\r" "\\r"
          let bare := given flags 'z'
          let sign := if name == path || bare then "" else "\\"
          let shown := if bare then path else name
          let digest := Md5.digest bytes
          let text :=
            if tagged then "MD5 (" ++ shown ++ ") = " ++ digest
            else digest ++ (if mode == some (.letter 'b') then " *" else "  ") ++ shown
          emit own (sign ++ text ++ (if bare then "\x00" else "\n")).toUTF8
          return ((), .ok ()))
      ()
    conclude clean 1

end JobShell.Tool
