import LedgerBench.Decimal.Digits
import LedgerBench.Decimal.Nearest

/-! The reading of real numbers: an optional sign, digits with at most one point and at least one
digit, an optional exponent; or the names of infinity and of the undefined number in any case. -/

namespace LedgerBench.Decimal

inductive RealError where
  | empty
  | malformed
  deriving Repr, DecidableEq

def RealError.message : RealError → String
  | .empty => "cannot parse float from empty string"
  | .malformed => "invalid float literal"

/-- The double nearest to `± mantissa · 10 ^ exponent`. Exponents that cannot matter are cut off
first, so that the power of ten stays small. -/
def nearestReal (negative : Bool) (mantissa : Nat) (exponent : Int) : Float :=
  let size := (digits mantissa).length + exponent
  floatOfBits negative <|
    if mantissa = 0 ∨ size < -400 then 0
    else if 400 < size then infinityBits
    else
      match exponent with
      | .ofNat k => nearestBits (mantissa * Nat.pow 10 k) 1
      | .negSucc k => nearestBits mantissa (Nat.pow 10 (k + 1))

/-- An optional sign and the rest of the text; the first component is true for a minus sign. -/
def splitSign : List Char → Bool × List Char
  | '-' :: rest => (true, rest)
  | '+' :: rest => (false, rest)
  | s => (false, s)

/-- The exponent at the end of a number; nothing at all stands for zero. -/
def readExponent : List Char → Option Int
  | [] => some 0
  | c :: rest =>
    if c = 'e' ∨ c = 'E' then
      let (negative, ds) := splitSign rest
      if ds.isEmpty then none
      else (readDigits 0 ds).map fun n => if negative then -(n : Int) else n
    else none

def readFinite (negative : Bool) (s : List Char) : Option Float :=
  let whole := s.takeWhile isDigit
  let afterWhole := s.dropWhile isDigit
  let (fraction, rest) := match afterWhole with
    | '.' :: t => (t.takeWhile isDigit, t.dropWhile isDigit)
    | t => ([], t)
  if whole.isEmpty && fraction.isEmpty then none
  else
    match readDigits 0 (whole ++ fraction), readExponent rest with
    | some mantissa, some exponent =>
      some (nearestReal negative mantissa (exponent - fraction.length))
    | _, _ => none

/-- Reads a real number; the text must hold nothing else, not even blanks. -/
def readReal (s : List Char) : Except RealError Float :=
  if s.isEmpty then .error .empty
  else
    let (negative, rest) := splitSign s
    let name := rest.map Char.toLower
    if name = "inf".toList ∨ name = "infinity".toList then
      .ok (floatOfBits negative infinityBits)
    else if name = "nan".toList then .ok (0 / 0)
    else
      match readFinite negative rest with
      | some x => .ok x
      | none => .error .malformed

end LedgerBench.Decimal
