import Mathlib.Algebra.BigOperators.Intervals
import Mathlib.Tactic.Ring
import LedgerBench.Sweep.Range

/-! The seconds of a sweep, computed in machine words. Every operation is done only where its
result fits; the bounds show that it always does, and that the total is the sum of all runs. -/

namespace LedgerBench.Sweep

/-- The product of two words, where it is a word. -/
def mulWords {w : Nat} (x y : BitVec w) : Option (BitVec w) :=
  if x.umulOverflow y then none else some (x * y)

def addWords {w : Nat} (x y : BitVec w) : Option (BitVec w) :=
  if x.uaddOverflow y then none else some (x + y)

def subWords {w : Nat} (x y : BitVec w) : Option (BitVec w) :=
  if x.usubOverflow y then none else some (x - y)

theorem mulWords_of_lt {w : Nat} {x y : BitVec w} (h : x.toNat * y.toNat < 2 ^ w) :
    ∃ z, mulWords x y = some z ∧ z.toNat = x.toNat * y.toNat := by
  have hfits : ¬ x.umulOverflow y = true := by
    simp only [BitVec.umulOverflow, decide_eq_true_eq]
    omega
  exact ⟨x * y, by simp [mulWords, hfits], BitVec.toNat_mul_of_not_umulOverflow hfits⟩

theorem addWords_of_lt {w : Nat} {x y : BitVec w} (h : x.toNat + y.toNat < 2 ^ w) :
    ∃ z, addWords x y = some z ∧ z.toNat = x.toNat + y.toNat := by
  have hfits : ¬ x.uaddOverflow y = true := by
    simp only [BitVec.uaddOverflow, decide_eq_true_eq]
    omega
  exact ⟨x + y, by simp [addWords, hfits], BitVec.toNat_add_of_not_uaddOverflow hfits⟩

theorem subWords_of_le {w : Nat} {x y : BitVec w} (h : y.toNat ≤ x.toNat) :
    ∃ z, subWords x y = some z ∧ z.toNat = x.toNat - y.toNat := by
  have hfits : ¬ x.usubOverflow y = true := by
    simp only [BitVec.usubOverflow, decide_eq_true_eq]
    omega
  exact ⟨x - y, by simp [subWords, hfits], BitVec.toNat_sub_of_not_usubOverflow hfits⟩

/-- The total of a number of runs, from the sum of its first and its last second. -/
def totalInWords (runs ends : BitVec 128) : Option (BitVec 128) :=
  if runs % 2 = 0 then mulWords (runs / 2) ends else mulWords runs (ends / 2)

def endsInWords (low high : BitVec 64) : Option (BitVec 128) := do
  let last ← subWords high 1#64
  addWords (low.setWidth 128) (last.setWidth 128)

/-- The words that an estimate is made of: how many runs there are, in 64 bits, and the total of
their seconds, in 128. -/
def Range.secondsInWords (range : Range) : Option (BitVec 64 × BitVec 128) := do
  let runs ← subWords range.high.toBitVec range.low.toBitVec
  let ends ← endsInWords range.low.toBitVec range.high.toBitVec
  let total ← totalInWords (runs.setWidth 128) ends
  some (runs, total)

theorem endsInWords_eq {low high : BitVec 64} (h : low.toNat < high.toNat) :
    ∃ ends, endsInWords low high = some ends ∧ ends.toNat = low.toNat + (high.toNat - 1) := by
  have hone : (1#64).toNat ≤ high.toNat := h.bot_lt
  obtain ⟨last, hlast, hlastNat⟩ := subWords_of_le hone
  have hlow : (low.setWidth 128).toNat = low.toNat := BitVec.toNat_setWidth_of_le (by omega)
  have hwide : (last.setWidth 128).toNat = high.toNat - 1 :=
    (BitVec.toNat_setWidth_of_le (by omega)).trans hlastNat
  have hbound : high.toNat < 2 ^ 64 := high.isLt
  obtain ⟨ends, hends, hendsNat⟩ :=
    addWords_of_lt (x := low.setWidth 128) (y := last.setWidth 128) (by rw [hlow, hwide]; omega)
  exact ⟨ends, by simp [endsInWords, hlast, hends], by rw [hendsNat, hlow, hwide]⟩

theorem two_mul_sum_Ico {low high : Nat} (h : low ≤ high) :
    2 * ∑ n ∈ Finset.Ico low high, n = (high - low) * (low + (high - 1)) := by
  induction high, h using Nat.le_induction with
  | base => simp
  | succ high h ih =>
    obtain ⟨runs, rfl⟩ := Nat.exists_eq_add_of_le h
    rw [Finset.sum_Ico_succ_top h, mul_add, ih]
    have hruns : low + runs - low = runs := by omega
    have hmore : low + runs + 1 - low = runs + 1 := by omega
    rw [hruns, hmore, Nat.add_sub_cancel]
    cases runs with
    | zero => ring
    | succ runs =>
      have hlast : low + (runs + 1) - 1 = low + runs := by omega
      rw [hlast]
      ring

/-- The runs and the ends add up to an odd number, so one of the two is even and its half is
exact. -/
theorem half_mul_eq {runs ends total : Nat} (hodd : (runs + ends) % 2 = 1)
    (htotal : 2 * total = runs * ends) :
    (if runs % 2 = 0 then runs / 2 * ends else runs * (ends / 2)) = total := by
  by_cases hruns : runs % 2 = 0
  · have hhalf : 2 * (runs / 2) = runs := by omega
    have htwice : 2 * (runs / 2 * ends) = 2 * total := by rw [← mul_assoc, hhalf, htotal]
    rw [if_pos hruns]
    omega
  · have hhalf : 2 * (ends / 2) = ends := by omega
    have htwice : 2 * (runs * (ends / 2)) = 2 * total := by
      rw [mul_left_comm, hhalf, htotal]
    rw [if_neg hruns]
    omega

/-- The halved factor leaves room in both cases: the product stays below `2 ^ 64` times
`2 ^ 64`. -/
theorem half_mul_lt {runs ends : Nat} (hruns : runs < 2 ^ 64) (hends : ends ≤ 2 * (2 ^ 64 - 1)) :
    runs / 2 * ends < 2 ^ 128 ∧ runs * (ends / 2) < 2 ^ 128 := by
  have hleft : runs / 2 * ends ≤ 2 ^ 63 * (2 * (2 ^ 64 - 1)) :=
    Nat.mul_le_mul (by omega) hends
  have hright : runs * (ends / 2) ≤ (2 ^ 64 - 1) * (2 ^ 64 - 1) :=
    Nat.mul_le_mul (by omega) (by omega)
  constructor
  · omega
  · omega

theorem totalInWords_eq {runs ends : BitVec 128} (hruns : runs.toNat < 2 ^ 64)
    (hends : ends.toNat ≤ 2 * (2 ^ 64 - 1)) :
    ∃ total, totalInWords runs ends = some total ∧
      total.toNat = if runs.toNat % 2 = 0 then runs.toNat / 2 * ends.toNat
        else runs.toNat * (ends.toNat / 2) := by
  have hfit := half_mul_lt hruns hends
  have heven : runs % 2 = 0 ↔ runs.toNat % 2 = 0 := by
    rw [← BitVec.toNat_inj]
    simp
  by_cases h : runs.toNat % 2 = 0
  · have hhalf : (runs / 2).toNat = runs.toNat / 2 := by simp
    rw [if_pos h, totalInWords, if_pos (heven.mpr h), ← hhalf]
    exact mulWords_of_lt (by rw [hhalf]; exact hfit.1)
  · have hhalf : (ends / 2).toNat = ends.toNat / 2 := by simp
    rw [if_neg h, totalInWords, if_neg (mt heven.mp h), ← hhalf]
    exact mulWords_of_lt (by rw [hhalf]; exact hfit.2)

namespace Range

theorem totalSeconds_eq_sum (range : Range) :
    range.totalSeconds = ∑ n ∈ Finset.Ico range.low.toNat range.high.toNat, n := by
  have hle : range.low.toNat ≤ range.high.toNat := UInt64.le_iff_toNat_le.mp range.low_le_high
  have htotal := two_mul_sum_Ico hle
  by_cases hzero : range.high.toNat = range.low.toNat
  · simp [totalSeconds, length, hzero]
  · exact half_mul_eq (by simp only [length]; omega) htotal

/-- No operation of the computation leaves its words. -/
theorem secondsInWords_eq (range : Range) (h : range.low < range.high) :
    ∃ runs total, range.secondsInWords = some (runs, total) ∧
      runs.toNat = range.length ∧ total.toNat = range.totalSeconds := by
  have hlt : range.low.toNat < range.high.toNat := UInt64.lt_iff_toNat_lt.mp h
  have hbound : range.high.toNat < 2 ^ 64 := range.high.toNat_lt
  obtain ⟨runs, hruns, hrunsNat⟩ :
      ∃ runs, subWords range.high.toBitVec range.low.toBitVec = some runs ∧
        runs.toNat = range.length := subWords_of_le hlt.le
  obtain ⟨ends, hends, hendsNat⟩ :
      ∃ ends, endsInWords range.low.toBitVec range.high.toBitVec = some ends ∧
        ends.toNat = range.low.toNat + (range.high.toNat - 1) := endsInWords_eq hlt
  have hwide : (runs.setWidth 128).toNat = range.length :=
    (BitVec.toNat_setWidth_of_le (by omega)).trans hrunsNat
  have hfew : (runs.setWidth 128).toNat < 2 ^ 64 := by
    rw [hwide, ← hrunsNat]
    exact runs.isLt
  obtain ⟨total, htotal, htotalNat⟩ := totalInWords_eq hfew (hendsNat.trans_le (by omega))
  refine ⟨runs, total, by simp [secondsInWords, hruns, hends, htotal], hrunsNat, ?_⟩
  rw [htotalNat, hwide, hendsNat]
  rfl

/-- The estimate is made of two exact whole numbers: the sum of all seconds, found without leaving
the words, and the number of runs. -/
theorem estimate_eq (range : Range) :
    (range.low = range.high → range.estimate = 0) ∧
    (range.low < range.high →
      ∃ runs total, range.secondsInWords = some (runs, total) ∧
        runs.toNat = range.high.toNat - range.low.toNat ∧
        total.toNat = ∑ n ∈ Finset.Ico range.low.toNat range.high.toNat, n ∧
        range.estimate = Decimal.floatOfNat total.toNat + 0.5 * Decimal.floatOfNat runs.toNat) := by
  constructor
  · intro h
    simp [estimate, isEmpty, h]
  · intro h
    obtain ⟨runs, total, hwords, hruns, htotal⟩ := secondsInWords_eq range h
    have hne : range.low ≠ range.high := UInt64.ne_of_lt h
    refine ⟨runs, total, hwords, hruns, htotal.trans range.totalSeconds_eq_sum, ?_⟩
    simp [estimate, isEmpty, hne, hruns, htotal]

/-- The longest range there is. -/
def whole : Range := ⟨0, 18446744073709551615, by decide⟩

theorem estimate_whole :
    whole.low < whole.high ∧
      whole.estimate = Decimal.floatOfNat (18446744073709551615 * 9223372036854775807) +
        0.5 * Decimal.floatOfNat 18446744073709551615 := by
  have hlt : whole.low < whole.high := by decide
  obtain ⟨runs, total, -, hruns, htotal, hestimate⟩ := (estimate_eq whole).2 hlt
  have hsum := two_mul_sum_Ico (Nat.zero_le 18446744073709551615)
  have htotal' : total.toNat = ∑ n ∈ Finset.Ico 0 18446744073709551615, n := htotal
  have hproduct : total.toNat = 18446744073709551615 * 9223372036854775807 := by omega
  have hruns' : runs.toNat = 18446744073709551615 := hruns
  exact ⟨hlt, by rw [hestimate, hproduct, hruns']⟩

end Range
end LedgerBench.Sweep
