/-! The exact value of a double-precision number, and its nearest whole number. -/

namespace LedgerBench.Decimal

structure Binary where
  negative : Bool
  mantissa : Nat
  exponent : Int
  deriving Repr, DecidableEq

/-- The parts of a finite number; the result means nothing for the others. -/
def Binary.ofFloat (x : Float) : Binary :=
  let bits := x.toBits.toNat
  let biased : Nat := bits / Nat.pow 2 52 % Nat.pow 2 11
  let fraction : Nat := bits % Nat.pow 2 52
  { negative := bits / Nat.pow 2 63 == 1
    mantissa := if biased = 0 then fraction else fraction + Nat.pow 2 52
    exponent := if biased = 0 then -1074 else (biased : Int) - 1075 }

/-- The nearest whole number to the magnitude; a half goes up. -/
def Binary.nearestNat (b : Binary) : Nat :=
  match b.exponent with
  | .ofNat k => b.mantissa * Nat.pow 2 k
  | .negSucc k => (b.mantissa + Nat.pow 2 k) / Nat.pow 2 (k + 1)

/-- The nearest 64-bit word: negative numbers give zero, numbers above the range its largest
word. -/
def nearestWord (x : Float) : UInt64 :=
  if x.isNaN then 0
  else if x.isInf then if x < 0 then 0 else UInt64.ofNat (UInt64.size - 1)
  else
    let b := Binary.ofFloat x
    if b.negative then 0 else UInt64.ofNat (min b.nearestNat (UInt64.size - 1))

end LedgerBench.Decimal
