import LedgerBench.Decimal.Shortest
import LedgerBench.Proofs.Decimal.Digits
import Mathlib.Algebra.Order.Field.Power
import Mathlib.Algebra.Order.Field.Rat
import Mathlib.Tactic.FieldSimp
import Mathlib.Tactic.NormNum
import Mathlib.Tactic.Positivity
import Mathlib.Tactic.Ring

/-! The shortest decimal of a number lies in the interval of the reals that round to it. -/

namespace LedgerBench.Decimal

def Scaled.value (s : Scaled) : ℚ :=
  s.digits * 10 ^ s.exponent

namespace Shortest

def Fraction.value (f : Fraction) : ℚ :=
  f.num / f.den

theorem Fraction.value_scale (f : Fraction) (base : Nat) (k : Int) :
    (f.scale base k).value = f.value * (base : ℚ) ^ k := by
  cases k with
  | ofNat k =>
    simp only [scale, value, Nat.pow_eq, Int.ofNat_eq_natCast, zpow_natCast]
    push_cast
    ring
  | negSucc k =>
    simp only [scale, value, Nat.pow_eq, zpow_negSucc]
    push_cast
    rw [← div_eq_mul_inv, div_div]

structure Fraction.Positive (f : Fraction) : Prop where
  num : 0 < f.num
  den : 0 < f.den

theorem Fraction.Positive.scale {f : Fraction} (h : f.Positive) {base : Nat} (hbase : 0 < base)
    (k : Int) : (f.scale base k).Positive := by
  cases k with
  | ofNat k => exact ⟨Nat.mul_pos h.num (Nat.pow_pos hbase), h.den⟩
  | negSucc k => exact ⟨h.num, Nat.mul_pos h.den (Nat.pow_pos hbase)⟩

def Interval.Contains (i : Interval) (q : ℚ) : Prop :=
  if i.closed then i.low ≤ q ∧ q ≤ i.high else i.low < q ∧ q < i.high

theorem Interval.holds_iff (i : Interval) {unit : Fraction} (h : unit.Positive) (d : Nat) :
    i.holds unit d = true ↔ i.Contains (d / unit.value) := by
  have hnum : (0 : ℚ) < unit.num := by exact_mod_cast h.num
  have hden : (0 : ℚ) < unit.den := by exact_mod_cast h.den
  have hq : (d : ℚ) / unit.value = d * unit.den / unit.num := by
    rw [Fraction.value, div_div_eq_mul_div]
  simp only [holds, Contains, hq]
  split
  · simp only [Bool.and_eq_true, decide_eq_true_eq, le_div_iff₀ hnum, div_le_iff₀ hnum]
    norm_cast
  · simp only [Bool.and_eq_true, decide_eq_true_eq, lt_div_iff₀ hnum, div_lt_iff₀ hnum]
    norm_cast

theorem gridUnit_positive (binaryExponent exponent : Int) :
    (gridUnit binaryExponent exponent).Positive :=
  (Fraction.Positive.scale ⟨Nat.one_pos, Nat.one_pos⟩ (by decide) _).scale (by decide) _

theorem value_gridUnit (binaryExponent exponent : Int) :
    (gridUnit binaryExponent exponent).value = 2 ^ (binaryExponent - 2) / 10 ^ exponent := by
  rw [gridUnit, Fraction.value_scale, Fraction.value_scale, zpow_neg, ← div_eq_mul_inv]
  simp [Fraction.value]

theorem contains_of_onGrid {tie : Tie} {i : Interval} {binaryExponent exponent : Int} {s : Scaled}
    (h : onGrid tie i binaryExponent exponent = some s) :
    i.Contains (s.value / 2 ^ (binaryExponent - 2)) := by
  have hunit := gridUnit_positive binaryExponent exponent
  have hpoint : ∀ d : Nat, i.holds (gridUnit binaryExponent exponent) d = true →
      i.Contains ((Scaled.mk d exponent).value / 2 ^ (binaryExponent - 2)) := by
    intro d hd
    have hc := (i.holds_iff hunit d).1 hd
    rw [value_gridUnit] at hc
    convert hc using 1
    rw [Scaled.value]
    field_simp
  simp only [onGrid] at h
  split at h
  · cases h
  · next hb _ => cases h; exact hpoint _ hb
  · next _ ha => cases h; exact hpoint _ ha
  · next hb ha =>
    cases h
    split
    · exact hpoint _ hb
    · exact hpoint _ ha

/-- On a grid that is finer than the interval, one of the neighbours of the value lies in it. -/
theorem onGrid_eq_some (tie : Tie) {i : Interval} {binaryExponent exponent : Int} {unit : Fraction}
    (hunit : gridUnit binaryExponent exponent = unit) (hlow : i.low < i.value)
    (hhigh : i.value < i.high) (hfine : i.low * unit.num + unit.den < i.high * unit.num) :
    ∃ s, onGrid tie i binaryExponent exponent = some s ∧
      i.value * unit.num / unit.den ≤ s.digits := by
  obtain ⟨hnum, hden⟩ := hunit ▸ gridUnit_positive binaryExponent exponent
  have hbelow := Nat.div_mul_le_self (i.value * unit.num) unit.den
  have habove : i.value * unit.num < (i.value * unit.num / unit.den + 1) * unit.den :=
    Nat.lt_mul_of_div_lt (Nat.lt_add_one _) hden
  have hlow' := Nat.mul_lt_mul_of_pos_right hlow hnum
  have hhigh' := Nat.mul_lt_mul_of_pos_right hhigh hnum
  simp only [onGrid, hunit]
  generalize i.value * unit.num / unit.den = below at *
  have hh : i.holds unit below = true ∨ i.holds unit (below + 1) = true := by
    have hsucc : (below + 1) * unit.den = below * unit.den + unit.den := Nat.succ_mul ..
    simp only [Interval.holds]
    split <;> (simp only [Bool.and_eq_true, decide_eq_true_eq]; omega)
  split
  · simp_all
  · exact ⟨_, rfl, le_refl _⟩
  · exact ⟨_, rfl, Nat.le_succ _⟩
  · refine ⟨_, rfl, ?_⟩
    dsimp only
    split
    · exact le_refl _
    · exact Nat.le_succ _

/-- A search ends at a point in the interval if one of its grids has one other than zero. -/
theorem search_spec {tie : Tie} {i : Interval} {binaryExponent : Int} {n : Nat} {top : Int}
    (h : ∃ k < n, ∃ s, onGrid tie i binaryExponent (top - k) = some s ∧ s.digits ≠ 0) :
    (search tie i binaryExponent n top).digits ≠ 0 ∧
      i.Contains ((search tie i binaryExponent n top).value / 2 ^ (binaryExponent - 2)) := by
  induction n generalizing top with
  | zero =>
    obtain ⟨k, hk, _⟩ := h
    omega
  | succ n ih =>
    have hnext : (∀ s, onGrid tie i binaryExponent top = some s → s.digits = 0) →
        ∃ k < n, ∃ s, onGrid tie i binaryExponent (top - 1 - k) = some s ∧ s.digits ≠ 0 := by
      intro hnone
      obtain ⟨k, hk, s, hs, hd⟩ := h
      cases k with
      | zero => exact absurd (hnone s (by simpa using hs)) hd
      | succ k =>
        refine ⟨k, by omega, s, ?_, hd⟩
        rwa [show top - 1 - (k : Int) = top - ((k + 1 : Nat) : Int) by omega]
    simp only [search]
    split
    · next found hfound =>
      split
      · next hzero => exact ih (hnext fun s hs => by rw [hfound] at hs; cases hs; exact hzero)
      · next hzero => exact ⟨hzero, contains_of_onGrid hfound⟩
    · next hnone => exact ih (hnext fun s hs => by rw [hnone] at hs; cases hs)

theorem stripZeros_spec (n : Nat) {s : Scaled} (h : s.digits ≠ 0) :
    (stripZeros n s).digits ≠ 0 ∧ (stripZeros n s).value = s.value := by
  induction n generalizing s with
  | zero => exact ⟨h, rfl⟩
  | succ n ih =>
    simp only [stripZeros]
    split
    · next hstrip =>
      obtain ⟨hd, hv⟩ := ih (s := ⟨s.digits / 10, s.exponent + 1⟩) (by dsimp only; omega)
      refine ⟨hd, hv.trans ?_⟩
      have hten : ((s.digits / 10 : Nat) : ℚ) * 10 = s.digits := by
        exact_mod_cast Nat.div_mul_cancel (Nat.dvd_of_mod_eq_zero hstrip.2)
      simp only [Scaled.value]
      rw [zpow_add_one₀ (by norm_num), ← hten]
      ring
    · exact ⟨h, rfl⟩

theorem neg_pow_le_value {f : Fraction} {k : Nat} (h : f.Positive)
    (hle : f.den ≤ f.num * 10 ^ k) : (10 : ℚ) ^ (-(k : Int)) ≤ f.value := by
  have hden : (0 : ℚ) < f.den := by exact_mod_cast h.den
  have hle' : (f.den : ℚ) ≤ f.num * 10 ^ k := by exact_mod_cast hle
  rw [Fraction.value, zpow_neg, zpow_natCast, le_div_iff₀ hden, inv_mul_le_iff₀ (by positivity),
    mul_comm]
  exact hle'

theorem pow_leadingExponent_le {f : Fraction} (h : f.Positive) :
    (10 : ℚ) ^ leadingExponent f ≤ f.value := by
  simp only [leadingExponent, Nat.pow_eq]
  split
  · next hle =>
    have hq : f.num / f.den ≠ 0 := Nat.div_ne_zero_iff.2 ⟨h.den.ne', hle⟩
    have hpow : 10 ^ ((digits (f.num / f.den)).length - 1) * f.den ≤ f.num :=
      (Nat.le_div_iff_mul_le h.den).1 (pow_length_digits_le hq)
    have hlen : 1 ≤ (digits (f.num / f.den)).length := Nat.length_toDigits_pos
    have hden : (0 : ℚ) < f.den := by exact_mod_cast h.den
    simp only [digits] at hpow hlen
    rw [Fraction.value, le_div_iff₀ hden, ← Nat.cast_one (R := Int), ← Nat.cast_sub hlen,
      zpow_natCast]
    exact_mod_cast hpow
  · split
    · next hle => exact neg_pow_le_value h hle
    · have hlt := (Nat.div_lt_iff_lt_mul h.num).1 (lt_pow_length_digits (f.den / f.num))
      exact neg_pow_le_value h (by rw [mul_comm]; exact hlt.le)

/-! ### The interval of a number -/

theorem Interval.low_lt_value {b : Binary} (hzero : b.mantissa ≠ 0) :
    (ofBinary b).low < (ofBinary b).value := by
  simp only [ofBinary]
  split <;> omega

theorem Interval.value_lt_high (b : Binary) : (ofBinary b).value < (ofBinary b).high :=
  Nat.lt_add_of_pos_right (by decide)

/-- The interval is four quarters wide, or three if it belongs to a power of two. -/
theorem Interval.width {b : Binary} (hzero : b.mantissa ≠ 0) :
    (ofBinary b).low + 4 ≤ (ofBinary b).high ∨
      b.mantissa = 2 ^ 52 ∧ (ofBinary b).low + 3 ≤ (ofBinary b).high := by
  simp only [ofBinary, Nat.pow_eq]
  split <;> omega

theorem Interval.le_low (b : Binary) : 4 * b.mantissa ≤ (ofBinary b).low + 2 := by
  simp only [ofBinary]
  split <;> omega

theorem Interval.low_of_odd {b : Binary} (hodd : b.mantissa % 2 = 1) :
    (ofBinary b).low + 2 = 4 * b.mantissa := by
  simp only [ofBinary, Nat.pow_eq]
  rw [if_neg] <;> omega

theorem Interval.low_of_power {b : Binary} (hpower : b.mantissa = 2 ^ 52)
    (hexponent : b.exponent ≠ -1074) : (ofBinary b).low = 2 ^ 54 - 1 := by
  simp only [ofBinary, Nat.pow_eq, hpower, true_and]
  rw [if_pos hexponent]
  rfl

theorem le_gridUnit {b : Binary} {leading : Int}
    (hlead : (10 : ℚ) ^ leading ≤ b.mantissa * 2 ^ b.exponent) :
    10 ^ 16 * (gridUnit b.exponent (leading - 16)).den ≤
      4 * (b.mantissa * (gridUnit b.exponent (leading - 16)).num) := by
  have hvalue := value_gridUnit b.exponent (leading - 16)
  have hden := (gridUnit_positive b.exponent (leading - 16)).den
  generalize gridUnit b.exponent (leading - 16) = unit at *
  have hdenQ : (0 : ℚ) < unit.den := by exact_mod_cast hden
  have hone : 1 ≤ b.mantissa * (2 : ℚ) ^ b.exponent / 10 ^ leading :=
    (one_le_div (by positivity)).2 hlead
  have hq : (10 : ℚ) ^ 16 ≤ 4 * b.mantissa * (unit.num / unit.den) := by
    calc (10 : ℚ) ^ 16 ≤ 10 ^ 16 * (b.mantissa * 2 ^ b.exponent / 10 ^ leading) :=
          le_mul_of_one_le_right (by positivity) hone
      _ = 4 * b.mantissa * unit.value := by
          rw [hvalue, zpow_sub₀ (by norm_num), zpow_sub₀ (by norm_num)]
          field_simp
          norm_num
      _ = 4 * b.mantissa * (unit.num / unit.den) := rfl
  rw [mul_div_assoc', le_div_iff₀ hdenQ, mul_assoc] at hq
  exact_mod_cast hq

/-- Seventeen digits are enough: the grid of the seventeenth digit is finer than the interval. -/
theorem onGrid_finest (tie : Tie) {b : Binary} {leading : Int} (hzero : b.mantissa ≠ 0)
    (hlt : b.mantissa < 2 ^ 53) (hlead : (10 : ℚ) ^ leading ≤ b.mantissa * 2 ^ b.exponent) :
    ∃ s, onGrid tie (Interval.ofBinary b) b.exponent (leading - 16) = some s ∧ s.digits ≠ 0 := by
  have hdigits := le_gridUnit hlead
  have hden := (gridUnit_positive b.exponent (leading - 16)).den
  generalize hu : gridUnit b.exponent (leading - 16) = unit at *
  have hm := Nat.mul_le_mul_right unit.num (Nat.le_of_lt_succ hlt)
  have hfine : (Interval.ofBinary b).low * unit.num + unit.den <
      (Interval.ofBinary b).high * unit.num := by
    rcases Interval.width hzero with hw | ⟨hpower, hw⟩
    · have hw' := Nat.mul_le_mul_right unit.num hw
      rw [Nat.add_mul] at hw'
      omega
    · have hw' := Nat.mul_le_mul_right unit.num hw
      rw [Nat.add_mul] at hw'
      rw [hpower] at hdigits
      omega
  obtain ⟨s, hs, hle⟩ :=
    onGrid_eq_some tie hu (Interval.low_lt_value hzero) (Interval.value_lt_high b) hfine
  refine ⟨s, hs, ?_⟩
  have hmany : 10 ^ 16 ≤ (Interval.ofBinary b).value * unit.num / unit.den := by
    rw [Nat.le_div_iff_mul_le hden]
    simpa only [Interval.ofBinary, Nat.mul_assoc] using hdigits
  omega

/-- The shortest decimal lies in the interval of the number it is written for. -/
theorem ofBinary_spec (tie : Tie) {b : Binary} (hzero : b.mantissa ≠ 0)
    (hlt : b.mantissa < 2 ^ 53) :
    (ofBinary tie b).digits ≠ 0 ∧
      (Interval.ofBinary b).Contains ((ofBinary tie b).value / 2 ^ (b.exponent - 2)) := by
  have hpos : ((Fraction.mk b.mantissa 1).scale 2 b.exponent).Positive :=
    Fraction.Positive.scale ⟨Nat.pos_of_ne_zero hzero, Nat.one_pos⟩ (by decide) _
  have hlead := pow_leadingExponent_le hpos
  rw [Fraction.value_scale] at hlead
  simp only [ofBinary, hzero, if_false]
  generalize leadingExponent ((Fraction.mk b.mantissa 1).scale 2 b.exponent) = leading at *
  obtain ⟨s, hs, hd⟩ := onGrid_finest tie hzero hlt (by simpa [Fraction.value] using hlead)
  have hgrid : leading + 1 - (17 : Nat) = leading - 16 := by omega
  obtain ⟨hd, hc⟩ := search_spec (n := 18) ⟨17, by decide, s, hgrid.symm ▸ hs, hd⟩
  obtain ⟨hd', hv⟩ := stripZeros_spec 20 hd
  exact ⟨hd', hv ▸ hc⟩

end Shortest
end LedgerBench.Decimal
