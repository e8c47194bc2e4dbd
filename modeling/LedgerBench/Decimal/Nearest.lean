/-! The double nearest to a fraction of whole numbers, a tie going to the even mantissa. All is done
in exact whole numbers: a finite double is `mantissa · 2 ^ (place - 1074)`, and its bits are
`place · 2 ^ 52 + mantissa`, where only the lowest place has mantissas below `2 ^ 52`. -/

namespace LedgerBench.Decimal

/-- The nearest whole number to a quotient, a tie going to the even one. -/
def roundDiv (num den : Nat) : Nat :=
  let q := num / den
  let twice := 2 * (num % den)
  if den < twice ∨ (twice = den ∧ q % 2 = 1) then q + 1 else q

theorem roundDiv_near (num den : Nat) (h : 0 < den) :
    2 * num ≤ (2 * roundDiv num den + 1) * den ∧ 2 * roundDiv num den * den ≤ 2 * num + den := by
  have hd := Nat.div_add_mod num den
  have hm := Nat.mod_lt num h
  have e1 : den * (num / den) = num / den * den := Nat.mul_comm ..
  unfold roundDiv
  dsimp only
  split <;> (simp only [Nat.add_mul, Nat.mul_add, Nat.mul_assoc]; omega)

theorem roundDiv_mul (n den : Nat) (h : 0 < den) : roundDiv (n * den) den = n := by
  simp [roundDiv, Nat.mul_div_cancel n h]
  omega

def placesInOne : Nat := Nat.pow 2 1074

/-- The place of the last binary digit that is kept of a fraction, so that it has 53 digits; place
zero is the lowest there is and stands for `2 ^ (-1074)`. -/
def lastPlace (num den : Nat) : Nat :=
  let guess := num.log2 + 1074 - (den.log2 + 53)
  if num * placesInOne < den * Nat.pow 2 (guess + 53) then guess else guess + 1

def infinityBits : Nat := 2047 * Nat.pow 2 52

/-- The bits of the double nearest to a fraction; those of infinity if it is too large. -/
def nearestBits (num den : Nat) : Nat :=
  if num = 0 then 0
  else
    let place := lastPlace num den
    let mantissa := roundDiv (num * placesInOne) (den * Nat.pow 2 place)
    min (place * Nat.pow 2 52 + mantissa) infinityBits

def floatOfBits (negative : Bool) (bits : Nat) : Float :=
  .ofBits (UInt64.ofNat ((if negative then Nat.pow 2 63 else 0) + bits))

def nearestFloat (num den : Nat) : Float :=
  floatOfBits false (nearestBits num den)

def floatOfNat (n : Nat) : Float :=
  nearestFloat n 1

end LedgerBench.Decimal
