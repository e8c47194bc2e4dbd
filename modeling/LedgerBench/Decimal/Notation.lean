import LedgerBench.Decimal.Digits
import LedgerBench.Decimal.Shortest

/-! How numbers are written. A `Layout` says where positional writing ends, whether a whole number
keeps a fraction and how an exponent looks; `plain` is the layout of amounts and estimates, `json`
the layout of numbers inside JSON. -/

namespace LedgerBench.Decimal

/-- The decisions of one way to write numbers: the exponents of the leading digit that are written
positionally, where `none` stands for all, whether a whole number gets `.0`, and the sign of a
positive exponent. -/
structure Layout where
  positional : Option (Int × Int)
  keepFraction : Bool
  plusSign : String
  tie : Tie

/-- Amounts and estimates: never an exponent, no fraction on whole numbers. -/
def plain : Layout := ⟨none, false, "", .up⟩

/-- Numbers inside JSON: positional from `0.00001` up to sixteen whole digits. -/
def json : Layout := ⟨some (-5, 15), true, "+", .toEven⟩

def zeros (n : Nat) : List Char :=
  List.replicate n '0'

/-- Positional writing of `digits · 10 ^ exponent`. -/
def positionalText (keepFraction : Bool) (digits : List Char) : Int → List Char
  | .ofNat k => digits ++ zeros k ++ (if keepFraction then ['.', '0'] else [])
  | .negSucc k =>
    let places := k + 1
    if places < digits.length then
      digits.take (digits.length - places) ++ '.' :: digits.drop (digits.length - places)
    else '0' :: '.' :: zeros (places - digits.length) ++ digits

/-- Writing with an exponent: one digit, the rest after a point, then the exponent of the first. -/
def exponentText (plusSign : String) (digits : List Char) (leading : Int) : List Char :=
  let mantissa := match digits with
    | d :: e :: rest => d :: '.' :: e :: rest
    | ds => ds
  let sign := if leading < 0 then ['-'] else plusSign.toList
  mantissa ++ 'e' :: sign ++ Decimal.digits leading.natAbs

def textOf (layout : Layout) (x : Float) : String :=
  if x.isNaN then "NaN"
  else
    let b := Binary.ofFloat x
    let sign := if b.negative then ['-'] else []
    if x.isInf then String.ofList (sign ++ "inf".toList)
    else
      let s := Shortest.ofBinary layout.tie b
      let ds := Decimal.digits s.digits
      let leading := s.exponent + ds.length - 1
      let positional := match layout.positional with
        | none => true
        | some (low, high) => s.digits == 0 || (low ≤ leading && leading ≤ high)
      let body :=
        if positional then positionalText layout.keepFraction ds s.exponent
        else exponentText layout.plusSign ds leading
      String.ofList (sign ++ body)

end LedgerBench.Decimal
