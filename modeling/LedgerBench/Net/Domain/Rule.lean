import LedgerBench.Text.Hex

/-! Tables that replace characters by others. A rule is written as the code point of the character,
the sign `>`, and the code points of what takes its place, with points between them. For a range,
such as `41-5A>61`, the replacements go up with the characters, and `100-12E/2>101` speaks of every
second character only. -/

namespace LedgerBench.Net.Domain

structure Rule where
  first : Nat
  last : Nat
  step : Nat
  images : List Nat
  deriving Repr, DecidableEq

namespace Rule

def appliesTo (rule : Rule) (c : Char) : Bool :=
  rule.first ≤ c.toNat && c.toNat ≤ rule.last && (c.toNat - rule.first) % rule.step == 0

def target (rule : Rule) (c : Char) : List Char :=
  rule.images.map fun image => Char.ofNat (image + (c.toNat - rule.first))

/-- What has been read of a table: its rules so far, the last one first, what is known of the rule at
this place, and the number at this place. -/
structure Scan where
  rules : List Rule
  first : Option Nat
  last : Option Nat
  step : Nat
  images : List Nat
  isTarget : Bool
  number : Nat

def Scan.start (rules : List Rule) : Scan := ⟨rules, none, none, 1, [], false, 0⟩

def Scan.separate (scan : Scan) (c : Char) : Scan :=
  let next := { scan with number := 0 }
  match c with
  | '-' => { next with first := some scan.number }
  | '/' => { next with last := some scan.number }
  | '>' =>
    match scan.first, scan.last with
    | some _, some _ => { next with step := scan.number, isTarget := true }
    | some _, none => { next with last := some scan.number, isTarget := true }
    | none, _ => { next with
        first := some scan.number, last := some scan.number, isTarget := true }
  | '.' => { next with images := scan.number :: scan.images }
  | _ =>
    match scan.isTarget, scan.first, scan.last with
    | true, some first, some last =>
      .start (⟨first, last, scan.step, (scan.number :: scan.images).reverse⟩ :: scan.rules)
    | _, _, _ => scan

def Scan.take (scan : Scan) (c : Char) : Scan :=
  match Text.hexValue c with
  | some d => { scan with number := 16 * scan.number + d }
  | none => scan.separate c

def ofText (text : String) : List Rule :=
  ((text.toList.foldl Scan.take (.start [])).separate ' ').rules.reverse

end Rule
end LedgerBench.Net.Domain
