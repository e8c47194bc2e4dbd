import LedgerBench.Decimal.Nearest
import LedgerBench.Proofs.Decimal.Bits
import LedgerBench.Proofs.Decimal.Shortest

/-! Fractions are rounded to the double in whose interval they lie. -/

namespace LedgerBench.Decimal

/-- The only whole number within half a unit of a quotient is its rounding; at exactly half a unit
it has to be even. -/
theorem roundDiv_eq {num den m : Nat} (hden : 0 < den) (hlow : 2 * (m * den) ≤ 2 * num + den)
    (hhigh : 2 * num ≤ 2 * (m * den) + den)
    (hodd : m % 2 = 1 → 2 * (m * den) ≠ 2 * num + den ∧ 2 * num ≠ 2 * (m * den) + den) :
    roundDiv num den = m := by
  have hd := Nat.div_add_mod' num den
  have hr := Nat.mod_lt num hden
  have hq : num / den ≤ m := by
    by_contra hlt
    have hle : (m + 1) * den ≤ num / den * den := Nat.mul_le_mul_right den (by omega)
    rw [Nat.add_mul] at hle
    omega
  have hq' : m ≤ num / den + 1 := by
    by_contra hlt
    have hle : (num / den + 2) * den ≤ m * den := Nat.mul_le_mul_right den (by omega)
    rw [Nat.add_mul] at hle
    omega
  simp only [roundDiv]
  rcases Nat.eq_or_lt_of_le hq with he | hlt
  · rw [he] at hd ⊢
    rw [if_neg]
    omega
  · have he : m = num / den + 1 := by omega
    have hmul : m * den = num / den * den + den := by rw [he, Nat.add_mul, Nat.one_mul]
    rw [if_pos, he]
    omega

theorem placesInOne_eq : placesInOne = 2 ^ 1074 := by
  delta placesInOne
  -- so that nothing computes the power
  generalize 1074 = n
  rfl

theorem two_pow_eq_places : (2 : ℚ) ^ 1076 = 4 * placesInOne := by
  have hfour : (2 : ℚ) ^ 2 = 4 := by norm_num
  rw [placesInOne_eq, Nat.cast_pow, ← hfour]
  exact pow_add 2 2 1074

theorem lastPlace_spec {num den : Nat} (hnum : num ≠ 0) (hden : den ≠ 0) :
    num * placesInOne < den * 2 ^ (lastPlace num den + 53) ∧
      (lastPlace num den ≠ 0 → den * 2 ^ (lastPlace num den + 52) ≤ num * placesInOne) := by
  have h1 := Nat.log2_self_le hnum
  have h2 := Nat.lt_log2_self (n := num)
  have h3 := Nat.log2_self_le hden
  have h4 := Nat.lt_log2_self (n := den)
  have hsplit : ∀ k, 2 ^ (k + 1074) = 2 ^ k * placesInOne := fun k =>
    (pow_add 2 k 1074).trans (congrArg (2 ^ k * ·) placesInOne_eq.symm)
  simp only [lastPlace, Nat.pow_eq]
  generalize num.log2 = a at *
  generalize den.log2 = b at *
  have hupper : num * placesInOne < den * 2 ^ (a + 1074 - (b + 53) + 1 + 53) := by
    calc num * placesInOne < 2 ^ (a + 1) * placesInOne :=
          Nat.mul_lt_mul_of_pos_right h2 (by rw [placesInOne_eq]; positivity)
      _ = 2 ^ (a + 1 + 1074) := (hsplit _).symm
      _ ≤ 2 ^ (b + (a + 1074 - (b + 53) + 1 + 53)) := Nat.pow_le_pow_right (by decide) (by omega)
      _ = 2 ^ b * 2 ^ (a + 1074 - (b + 53) + 1 + 53) := pow_add ..
      _ ≤ den * 2 ^ (a + 1074 - (b + 53) + 1 + 53) := Nat.mul_le_mul_right _ h3
  have hlower : a + 1074 - (b + 53) ≠ 0 →
      den * 2 ^ (a + 1074 - (b + 53) + 52) ≤ num * placesInOne := by
    intro hguess
    calc den * 2 ^ (a + 1074 - (b + 53) + 52)
        ≤ 2 ^ (b + 1) * 2 ^ (a + 1074 - (b + 53) + 52) := Nat.mul_le_mul_right _ h4.le
      _ = 2 ^ (b + 1 + (a + 1074 - (b + 53) + 52)) := (pow_add ..).symm
      _ ≤ 2 ^ (a + 1074) := Nat.pow_le_pow_right (by decide) (by omega)
      _ = 2 ^ a * placesInOne := hsplit a
      _ ≤ num * placesInOne := Nat.mul_le_mul_right _ h1
  split
  · next h => exact ⟨h, hlower⟩
  · next h =>
    refine ⟨hupper, fun _ => ?_⟩
    rwa [add_assoc, add_comm 1, ← add_assoc, add_assoc, ← not_lt]

theorem lastPlace_eq {num den place : Nat} (hnum : num ≠ 0) (hden : den ≠ 0)
    (hlt : num * placesInOne < den * 2 ^ (place + 53))
    (hle : place ≠ 0 → den * 2 ^ (place + 52) ≤ num * placesInOne) : lastPlace num den = place := by
  obtain ⟨hlt', hle'⟩ := lastPlace_spec hnum hden
  have hmono : ∀ a b, a < b → den * 2 ^ (a + 53) ≤ den * 2 ^ (b + 52) := fun a b h =>
    Nat.mul_le_mul_left den (Nat.pow_le_pow_right (by decide) (by omega))
  rcases Nat.lt_trichotomy (lastPlace num den) place with h | h | h
  · have h1 := hmono _ _ h
    have h2 := hle (by omega)
    omega
  · exact h
  · have h1 := hmono _ _ h
    have h2 := hle' (by omega)
    omega

theorem nearestBits_of_round {num den place mantissa : Nat} (hnum : num ≠ 0)
    (hplace : lastPlace num den = place)
    (hround : roundDiv (num * placesInOne) (den * 2 ^ place) = mantissa)
    (hfits : place * 2 ^ 52 + mantissa ≤ 2047 * 2 ^ 52) :
    nearestBits num den = place * 2 ^ 52 + mantissa := by
  simp only [nearestBits, hnum, if_false, hplace, Nat.pow_eq, hround, infinityBits,
    -Nat.reducePow]
  exact Nat.min_eq_left hfits

section Interval

open Shortest

variable {b : Binary} {place num den : Nat}

/-- A fraction that is at least as large as the first number with its place is kept to the last
place of that number. -/
theorem nearestBits_at_place (hb : b.HasPlace place) (hnum : num ≠ 0) (hden : den ≠ 0)
    (hsize : place ≠ 0 → den * 2 ^ (place + 52) ≤ num * placesInOne)
    (hlow : (Interval.ofBinary b).low * (den * 2 ^ place) ≤ 4 * (num * placesInOne))
    (hhigh : 4 * (num * placesInOne) ≤ (Interval.ofBinary b).high * (den * 2 ^ place))
    (hopen : (Interval.ofBinary b).closed = false →
      (Interval.ofBinary b).low * (den * 2 ^ place) ≠ 4 * (num * placesInOne) ∧
        4 * (num * placesInOne) ≠ (Interval.ofBinary b).high * (den * 2 ^ place)) :
    nearestBits num den = place * 2 ^ 52 + b.mantissa := by
  obtain ⟨_, hplace, hlt, _⟩ := hb
  have hpos : 0 < den * 2 ^ place := by positivity
  have hpow : ∀ k, den * 2 ^ (place + k) = 2 ^ k * (den * 2 ^ place) := fun k => by ring
  have hh : (Interval.ofBinary b).high = 4 * b.mantissa + 2 := rfl
  rw [hh, add_mul, mul_assoc] at hhigh hopen
  have hlast : lastPlace num den = place := by
    have hm := Nat.mul_le_mul_right (den * 2 ^ place) (Nat.le_of_lt_succ hlt)
    refine lastPlace_eq hnum hden ?_ hsize
    rw [hpow]
    omega
  have hld := Nat.mul_le_mul_right (den * 2 ^ place) (Interval.le_low b)
  rw [add_mul, mul_assoc] at hld
  refine nearestBits_of_round hnum hlast (roundDiv_eq hpos (by omega) (by omega) ?_) (by omega)
  intro hodd
  obtain ⟨hne, hne'⟩ := hopen (by simpa [Interval.ofBinary] using hodd)
  have hld' := congrArg (· * (den * 2 ^ place)) (Interval.low_of_odd hodd)
  simp only [add_mul, mul_assoc] at hld'
  constructor <;> omega

/-- Just below a power of two a fraction has one more binary digit than the power itself, to which
it is rounded. -/
theorem nearestBits_below_power (hb : b.HasPlace place) (hnum : num ≠ 0) (hden : den ≠ 0)
    (hplace : place ≠ 0) (hbelow : num * placesInOne < den * 2 ^ (place + 52))
    (hlow : (Interval.ofBinary b).low * (den * 2 ^ place) ≤ 4 * (num * placesInOne)) :
    nearestBits num den = place * 2 ^ 52 + b.mantissa := by
  obtain ⟨he, hle, _, hfull⟩ := hb
  obtain ⟨below, rfl⟩ := Nat.exists_eq_succ_of_ne_zero hplace
  have hhalf : den * 2 ^ below.succ = 2 * (den * 2 ^ below) := by
    rw [Nat.succ_eq_add_one]
    ring
  have hpow : ∀ k, den * 2 ^ (below + k) = 2 ^ k * (den * 2 ^ below) := fun k => by ring
  rw [Nat.succ_eq_add_one, add_assoc, hpow] at hbelow
  rw [hhalf] at hlow
  have hpos : 0 < den * 2 ^ below := by positivity
  have hpower : b.mantissa = 2 ^ 52 := by
    have hmin := hfull hplace
    by_contra hne
    have hbig : 2 ^ 54 + 2 ≤ (Interval.ofBinary b).low := by
      have hl := Interval.le_low b
      omega
    have hbigd := Nat.mul_le_mul_right (2 * (den * 2 ^ below)) hbig
    omega
  rw [Interval.low_of_power hpower (by omega)] at hlow
  have hlast : lastPlace num den = below :=
    lastPlace_eq hnum hden (by rw [hpow]; omega) fun _ => by rw [hpow]; omega
  have hround : roundDiv (num * placesInOne) (den * 2 ^ below) = 2 ^ 53 :=
    roundDiv_eq hpos (by omega) (by omega) (by omega)
  rw [nearestBits_of_round hnum hlast hround (by omega), hpower]
  omega

/-- A fraction in the interval of a double, counted in quarters of the last place, is rounded to
that double. -/
theorem nearestBits_eq (hb : b.HasPlace place) (hnum : num ≠ 0) (hden : den ≠ 0)
    (hlow : (Interval.ofBinary b).low * (den * 2 ^ place) ≤ 4 * (num * placesInOne))
    (hhigh : 4 * (num * placesInOne) ≤ (Interval.ofBinary b).high * (den * 2 ^ place))
    (hopen : (Interval.ofBinary b).closed = false →
      (Interval.ofBinary b).low * (den * 2 ^ place) ≠ 4 * (num * placesInOne) ∧
        4 * (num * placesInOne) ≠ (Interval.ofBinary b).high * (den * 2 ^ place)) :
    nearestBits num den = place * 2 ^ 52 + b.mantissa := by
  by_cases hsize : place ≠ 0 → den * 2 ^ (place + 52) ≤ num * placesInOne
  · exact nearestBits_at_place hb hnum hden hsize hlow hhigh hopen
  · push Not at hsize
    exact nearestBits_below_power hb hnum hden hsize.1 hsize.2 hlow

theorem nearestBits_of_contains (hb : b.HasPlace place) (hnum : num ≠ 0)
    (hden : den ≠ 0)
    (h : (Interval.ofBinary b).Contains ((num / den : ℚ) / 2 ^ (b.exponent - 2))) :
    nearestBits num den = place * 2 ^ 52 + b.mantissa := by
  have hd : (0 : ℚ) < den * 2 ^ place := by positivity
  have hq : (num / den : ℚ) / 2 ^ (b.exponent - 2) =
      4 * (num * placesInOne) / (den * 2 ^ place) := by
    have hexp : b.exponent - 2 = (place : Int) - (1076 : Nat) := by
      rw [hb.exponent_eq]
      omega
    rw [hexp, zpow_sub₀ (by norm_num), zpow_natCast, zpow_natCast, two_pow_eq_places,
      div_div_eq_mul_div, div_mul_eq_mul_div, div_div, mul_left_comm]
  rw [hq, Interval.Contains] at h
  cases hc : (Interval.ofBinary b).closed with
  | true =>
    rw [hc, if_pos rfl, le_div_iff₀ hd, div_le_iff₀ hd] at h
    exact nearestBits_eq hb hnum hden (by exact_mod_cast h.1) (by exact_mod_cast h.2)
      fun hopen => by rw [hc] at hopen; cases hopen
  | false =>
    rw [hc, if_neg (by decide), lt_div_iff₀ hd, div_lt_iff₀ hd] at h
    have hlow : (Interval.ofBinary b).low * (den * 2 ^ place) < 4 * (num * placesInOne) := by
      exact_mod_cast h.1
    have hhigh : 4 * (num * placesInOne) < (Interval.ofBinary b).high * (den * 2 ^ place) := by
      exact_mod_cast h.2
    exact nearestBits_eq hb hnum hden hlow.le hhigh.le fun _ => ⟨hlow.ne, hhigh.ne⟩

end Interval

end LedgerBench.Decimal
