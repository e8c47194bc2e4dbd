/-! Decimal digits and the reading of whole numbers that fit a word. -/

namespace LedgerBench.Decimal

def digitValue (c : Char) : Option Nat :=
  if '0' ≤ c ∧ c ≤ '9' then some (c.toNat - '0'.toNat) else none

def isDigit (c : Char) : Bool :=
  (digitValue c).isSome

/-- The number that a text of decimal digits stands for, after `start`; `none` at any other
character. -/
def readDigits (start : Nat) : List Char → Option Nat
  | [] => some start
  | c :: rest =>
    match digitValue c with
    | some d => readDigits (10 * start + d) rest
    | none => none

/-- A whole number below `bound`: an optional plus sign and at least one digit. -/
def readBelow (bound : Nat) (s : List Char) : Option Nat :=
  let digits := match s with
    | '+' :: rest => rest
    | s => s
  if digits.isEmpty then none
  else (readDigits 0 digits).filter (· < bound)

def readWord (s : List Char) : Option UInt64 :=
  (readBelow UInt64.size s).map UInt64.ofNat

/-- The decimal digits of a number, most significant first. -/
def digits (n : Nat) : List Char :=
  Nat.toDigits 10 n

end LedgerBench.Decimal
