import LedgerBench.Decimal.Binary
import LedgerBench.Decimal.Digits
import LedgerBench.Decimal.Nearest

/-! Numbers with a fixed count of places after the point. The exact value of the double is rounded
once, and a tie goes to the even neighbour. -/

namespace LedgerBench.Decimal

def Binary.scaled (b : Binary) (factor : Nat) : Nat :=
  match b.exponent with
  | .ofNat k => b.mantissa * factor * Nat.pow 2 k
  | .negSucc k => roundDiv (b.mantissa * factor) (Nat.pow 2 (k + 1))

def fixedText (places : Nat) (x : Float) : String :=
  if x.isNaN then "NaN"
  else
    let b := Binary.ofFloat x
    let sign := if b.negative then ['-'] else []
    if x.isInf then String.ofList (sign ++ "inf".toList)
    else
      let scaled := b.scaled (Nat.pow 10 places)
      let fraction := digits (scaled % Nat.pow 10 places)
      String.ofList (sign ++ digits (scaled / Nat.pow 10 places) ++
        '.' :: List.replicate (places - fraction.length) '0' ++ fraction)

end LedgerBench.Decimal
