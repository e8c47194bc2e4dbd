import LedgerBench.Text.Hex
import LedgerBench.Text.Utf8

/-! Percent-encoding: a byte as a percent sign and two hexadecimal digits. Which characters are
encoded differs from one part of an address to the next. -/

namespace LedgerBench.Net

open Text (hexValue)

def upperHexDigit (n : Nat) : Char :=
  if n < 10 then Char.ofNat ('0'.toNat + n) else Char.ofNat ('A'.toNat + (n - 10))

def lowerHexDigit (n : Nat) : Char :=
  if n < 10 then Char.ofNat ('0'.toNat + n) else Char.ofNat ('a'.toNat + (n - 10))

def percentByte (b : UInt8) : List Char :=
  ['%', upperHexDigit (b.toNat / 16), upperHexDigit (b.toNat % 16)]

/-- Encodes the characters of a class, and in any case controls and all that is not ASCII. -/
def percentEncode (reserved : List Char) (s : List Char) : List Char :=
  s.flatMap fun c =>
    if c.toNat < 0x20 || 0x7E < c.toNat || reserved.contains c then
      (Text.utf8 [c]).flatMap percentByte
    else [c]

def percentDecode : List Char → List UInt8
  | '%' :: a :: b :: rest =>
    match hexValue a, hexValue b with
    | some x, some y => UInt8.ofNat (16 * x + y) :: percentDecode rest
    | _, _ => '%'.toUInt8 :: percentDecode (a :: b :: rest)
  | c :: rest => Text.utf8 [c] ++ percentDecode rest
  | [] => []

def fragmentReserved : List Char := [' ', '"', '<', '>', '`']
def queryReserved : List Char := [' ', '"', '#', '<', '>', '\'']
def pathReserved : List Char := fragmentReserved ++ ['#', '?', '{', '}']
def userReserved : List Char := pathReserved ++ ['/', ':', ';', '=', '@', '[', '\\', ']', '^', '|']

end LedgerBench.Net
