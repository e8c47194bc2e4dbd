import LedgerBench.Text.Hex

/-! Sets of characters as ranges of code points. A set is written with its ranges in hexadecimal and
blanks between them, such as `2D 30-39 61-7A`. -/

namespace LedgerBench.Text

/-- The first and the last code point of each range. -/
abbrev Ranges := List (Nat × Nat)

namespace Ranges

def contains (ranges : Ranges) (c : Char) : Bool :=
  ranges.any fun (low, high) => low ≤ c.toNat && c.toNat ≤ high

theorem contains_iff {ranges : Ranges} {c : Char} :
    ranges.contains c = true ↔ ∃ r ∈ ranges, r.1 ≤ c.toNat ∧ c.toNat ≤ r.2 := by
  simp [contains]

/-- What has been read of the text of a set: its ranges so far, the last one first, the start of the
range at this place, and the number at this place. -/
structure Scan where
  ranges : Ranges
  low : Option Nat
  number : Option Nat

def Scan.finish (scan : Scan) : Scan :=
  match scan.number with
  | none => scan
  | some high => ⟨(scan.low.getD high, high) :: scan.ranges, none, none⟩

def Scan.take (scan : Scan) (c : Char) : Scan :=
  if c = '-' then ⟨scan.ranges, scan.number, none⟩
  else
    match hexValue c with
    | some d => { scan with number := some (16 * scan.number.getD 0 + d) }
    | none => scan.finish

def ofText (text : String) : Ranges :=
  (text.toList.foldl Scan.take ⟨[], none, none⟩).finish.ranges.reverse

end Ranges
end LedgerBench.Text
