/-! Texts as bytes. Reading bytes finds the first place at which they are no text: either bytes that
cannot stand there, or a character that is cut off by the end. -/

namespace LedgerBench.Text

def utf8 (s : List Char) : List UInt8 :=
  s.flatMap String.utf8EncodeChar

inductive Utf8Error where
  | invalid (length position : Nat)
  | incomplete (position : Nat)
  deriving Repr, DecidableEq

def Utf8Error.message : Utf8Error → String
  | .invalid length position =>
    s!"invalid utf-8 sequence of {length} bytes from index {position}"
  | .incomplete position => s!"incomplete utf-8 byte sequence from index {position}"

/-- What a first byte asks for: how many bytes follow, the bits it brings, and the range of the byte
after it. -/
def leadByte (b : UInt8) : Option (Nat × Nat × Nat × Nat) :=
  let n := b.toNat
  if n < 0x80 then some (0, n, 0, 0)
  else if 0xC2 ≤ n && n ≤ 0xDF then some (1, n - 0xC0, 0x80, 0xBF)
  else if n = 0xE0 then some (2, 0, 0xA0, 0xBF)
  else if n = 0xED then some (2, 13, 0x80, 0x9F)
  else if 0xE1 ≤ n && n ≤ 0xEF then some (2, n - 0xE0, 0x80, 0xBF)
  else if n = 0xF0 then some (3, 0, 0x90, 0xBF)
  else if 0xF1 ≤ n && n ≤ 0xF3 then some (3, n - 0xF0, 0x80, 0xBF)
  else if n = 0xF4 then some (3, 4, 0x80, 0x8F)
  else none

/-- Reads the rest of a character. The count says how many bytes of it have been read. -/
def readRest (position : Nat) :
    Nat → Nat → Nat → Nat → Nat → List UInt8 → Except Utf8Error (Char × List UInt8)
  | 0, _, code, _, _, bytes => .ok (Char.ofNat code, bytes)
  | _ + 1, _, _, _, _, [] => .error (.incomplete position)
  | more + 1, count, code, low, high, b :: bytes =>
    if low ≤ b.toNat ∧ b.toNat ≤ high then
      readRest position more (count + 1) (code * 64 + b.toNat % 64) 0x80 0xBF bytes
    else .error (.invalid count position)

/-- Reads bytes of which the first stands at the given place. The fuel is one more than their
number. -/
def readUtf8From : Nat → Nat → List UInt8 → Except Utf8Error (List Char)
  | _, _, [] => .ok []
  | 0, _, _ => .ok []
  | fuel + 1, position, b :: bytes =>
    match leadByte b with
    | none => .error (.invalid 1 position)
    | some (more, code, low, high) => do
      let (c, rest) ← readRest position more 1 code low high bytes
      return c :: (← readUtf8From fuel (position + more + 1) rest)

def readUtf8 (bytes : List UInt8) : Except Utf8Error (List Char) :=
  readUtf8From (bytes.length + 1) 0 bytes

end LedgerBench.Text
