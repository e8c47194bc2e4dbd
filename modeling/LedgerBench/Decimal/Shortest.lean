import LedgerBench.Decimal.Binary

/-! The shortest decimal that reads back as a given number.

A decimal reads back as a double `x` when it lies in the interval of reals that round to `x`.
`Shortest.ofBinary` tries the grids of decimals with one digit, two digits and so on, and takes the
first grid with a point in the interval. If a grid has such a point then one of the two neighbours
of `x` on it is one, so only these are looked at. -/

namespace LedgerBench.Decimal

/-- The decimal `digits · 10 ^ exponent`. -/
structure Scaled where
  digits : Nat
  exponent : Int
  deriving Repr, DecidableEq

inductive Tie where
  | up
  | toEven
  deriving Repr, DecidableEq

namespace Shortest

structure Fraction where
  num : Nat
  den : Nat

def Fraction.scale (f : Fraction) (base : Nat) : Int → Fraction
  | .ofNat k => ⟨f.num * Nat.pow base k, f.den⟩
  | .negSucc k => ⟨f.num, f.den * Nat.pow base (k + 1)⟩

/-- The interval of reals that round to a number, with the number itself, all in units of the same
fraction. The ends belong to it when the mantissa is even. -/
structure Interval where
  low : Nat
  value : Nat
  high : Nat
  closed : Bool

/-- The interval in quarters of the last place. Below a power of two the neighbour is half as far
away, except at the bottom of the range. -/
def Interval.ofBinary (b : Binary) : Interval :=
  let nearer := b.mantissa = Nat.pow 2 52 ∧ b.exponent ≠ -1074
  { low := 4 * b.mantissa - (if nearer then 1 else 2)
    value := 4 * b.mantissa
    high := 4 * b.mantissa + 2
    closed := b.mantissa % 2 == 0 }

/-- Whether the point `d` of a grid lies in the interval, `unit` being one quarter of the last
place in units of the grid. -/
def Interval.holds (i : Interval) (unit : Fraction) (d : Nat) : Bool :=
  let point := d * unit.den
  if i.closed then i.low * unit.num ≤ point && point ≤ i.high * unit.num
  else i.low * unit.num < point && point < i.high * unit.num

/-- One quarter of the last place in units of the grid of the multiples of `10 ^ exponent`. -/
def gridUnit (binaryExponent exponent : Int) : Fraction :=
  ((Fraction.mk 1 1).scale 2 (binaryExponent - 2)).scale 10 (-exponent)

/-- The point in the interval on the grid of the multiples of `10 ^ exponent`, if there is one: the
nearer neighbour of the value, or the one that `tie` takes. -/
def onGrid (tie : Tie) (i : Interval) (binaryExponent exponent : Int) : Option Scaled :=
  let unit := gridUnit binaryExponent exponent
  let below := i.value * unit.num / unit.den
  let above := below + 1
  let under := i.value * unit.num - below * unit.den
  let excess := above * unit.den - i.value * unit.num
  match i.holds unit below, i.holds unit above with
  | false, false => none
  | true, false => some ⟨below, exponent⟩
  | false, true => some ⟨above, exponent⟩
  | true, true =>
    let takeBelow := under < excess ∨ (under = excess ∧ tie = .toEven ∧ below % 2 = 0)
    some ⟨if takeBelow then below else above, exponent⟩

def leadingExponent (f : Fraction) : Int :=
  if f.den ≤ f.num then (Nat.toDigits 10 (f.num / f.den)).length - 1
  else
    let n := (Nat.toDigits 10 (f.den / f.num)).length
    if f.den ≤ f.num * Nat.pow 10 (n - 1) then -((n - 1 : Nat) : Int) else -(n : Int)

/-- The first grid with a point in the interval, from the exponent `top` down. -/
def search (tie : Tie) (i : Interval) (binaryExponent : Int) : Nat → Int → Scaled
  | 0, top => ⟨0, top⟩
  | n + 1, top =>
    match onGrid tie i binaryExponent top with
    | some found => if found.digits = 0 then search tie i binaryExponent n (top - 1) else found
    | none => search tie i binaryExponent n (top - 1)

def stripZeros : Nat → Scaled → Scaled
  | 0, s => s
  | n + 1, s =>
    if s.digits ≠ 0 ∧ s.digits % 10 = 0 then stripZeros n ⟨s.digits / 10, s.exponent + 1⟩ else s

/-- The shortest decimal that reads back as the magnitude of a number. Seventeen digits are always
enough. -/
def ofBinary (tie : Tie) (b : Binary) : Scaled :=
  if b.mantissa = 0 then ⟨0, 0⟩
  else
    let top := leadingExponent ((Fraction.mk b.mantissa 1).scale 2 b.exponent)
    stripZeros 20 (search tie (Interval.ofBinary b) b.exponent 18 (top + 1))

end Shortest
end LedgerBench.Decimal
