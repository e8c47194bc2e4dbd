import LedgerBench.Proofs.Decimal.Exact
import LedgerBench.Proofs.Decimal.RoundTrip

/-! How far a rounded number is from what was rounded. Fractions that are read and products are
rounded to the nearest number of 53 binary digits, which is at most half of the last place away. -/

open Float.Model (UnpackedFloat Format)
open Float.Model.UnpackedFloat

namespace LedgerBench.Decimal

theorem two_zpow_add (e : ℤ) (k : ℕ) : (2 : ℚ) ^ (e + k) = (2 ^ k : ℕ) * 2 ^ e := by
  rw [zpow_add₀ two_ne_zero, zpow_natCast]
  push_cast
  ring

theorem mul_zpow_lt {N k : ℕ} (e : ℤ) (h : N < 2 ^ k) : (N : ℚ) * 2 ^ e < 2 ^ (e + k) := by
  rw [two_zpow_add]
  exact mul_lt_mul_of_pos_right (by exact_mod_cast h) (by positivity)

theorem le_mul_zpow {N k : ℕ} (e : ℤ) (h : 2 ^ k ≤ N) : (2 : ℚ) ^ (e + k) ≤ N * 2 ^ e := by
  rw [two_zpow_add]
  exact mul_le_mul_of_nonneg_right (by exact_mod_cast h) (by positivity)

/-- What a number is rounded to: at most half of the last place away, and a multiple of it. A number
below `2 ^ (t + 53)` has its last place at `2 ^ t` or lower, one from `2 ^ (t + 52)` on there or
higher. -/
structure Near (z r : ℚ) : Prop where
  close : ∀ t : ℤ, -1074 ≤ t → z < 2 ^ (t + 53) → |r - z| ≤ 2 ^ (t - 1)
  grid : ∀ t : ℤ, 2 ^ (t + 52) ≤ z → ∃ n : ℕ, r = n * 2 ^ t

theorem Near.bounds {z r : ℚ} (h : Near z r) (t : ℤ) (ht : -1074 ≤ t) (hz : z < 2 ^ (t + 53)) :
    z - 2 ^ (t - 1) ≤ r ∧ r ≤ z + 2 ^ (t - 1) := by
  obtain ⟨hlow, hhigh⟩ := abs_le.1 (h.close t ht hz)
  exact ⟨by linarith, by linarith⟩

theorem near_of_place {z : ℚ} {k : ℤ} {R : ℕ} (hlt : z < 2 ^ (k + 53))
    (hle : k ≠ -1074 → 2 ^ (k + 52) ≤ z) (hround : |R * 2 ^ k - z| ≤ 2 ^ (k - 1)) :
    Near z (R * 2 ^ k) where
  close t ht hz := by
    have hkt : k ≤ t := by
      by_cases hk : k = -1074
      · omega
      · have hpower := (zpow_lt_zpow_iff_right₀ one_lt_two).1 ((hle hk).trans_lt hz)
        omega
    exact hround.trans (zpow_le_zpow_right₀ one_le_two (by omega))
  grid t hz := by
    have htk : t ≤ k := by
      have hpower := (zpow_lt_zpow_iff_right₀ one_lt_two).1 (hz.trans_lt hlt)
      omega
    obtain ⟨j, rfl⟩ := Int.le.dest htk
    refine ⟨R * 2 ^ j, ?_⟩
    rw [two_zpow_add, ← mul_assoc, Nat.cast_mul]

theorem eq_of_lt_succ {n m : ℕ} (hn : (n : ℚ) < m + 1) (hm : (m : ℚ) < n + 1) : n = m := by
  have hn' : n < m + 1 := by exact_mod_cast hn
  have hm' : m < n + 1 := by exact_mod_cast hm
  omega

/-- Two whole numbers that are at most half a unit apart are one. -/
theorem eq_of_near {n m : ℕ} {t : ℤ} (h : |(n : ℚ) * 2 ^ t - m * 2 ^ t| ≤ 2 ^ (t - 1)) :
    n = m := by
  have hpos : (0 : ℚ) < 2 ^ t := by positivity
  rw [← sub_mul, abs_mul, abs_of_pos hpos, zpow_sub_one₀ two_ne_zero, mul_comm (_ ^ _)] at h
  obtain ⟨hlow, hhigh⟩ := abs_le.1 (le_of_mul_le_mul_right h hpos)
  exact eq_of_lt_succ (by linarith) (by linarith)

theorem Near.eq_self {N : ℕ} {s : ℤ} {r : ℚ} (h : Near (N * 2 ^ s) r) (hN : N ≠ 0)
    (hlt : N < 2 ^ 53) (hs : -1022 ≤ s) : r = N * 2 ^ s := by
  have hlog := log2_le_of_lt hlt
  obtain ⟨j, hj⟩ := Nat.exists_eq_add_of_le hlog
  have hdigits : (N * 2 ^ j).log2 = 52 := by rw [log2_mul_two_pow hN, hj]
  obtain ⟨hlow, hhigh⟩ := (Nat.log2_eq_iff (by positivity)).1 hdigits
  have hvalue : (N : ℚ) * 2 ^ s = (N * 2 ^ j : ℕ) * 2 ^ (s - j) := by
    rw [zpow_sub₀ two_ne_zero, zpow_natCast]
    push_cast
    field_simp
  rw [hvalue] at h ⊢
  obtain ⟨n, rfl⟩ := h.grid (s - j) (le_mul_zpow _ hlow)
  rw [eq_of_near (h.close (s - j) (by omega) (mul_zpow_lt _ hhigh))]

theorem Near.half_le {z r : ℚ} (h : Near z r) (hz : 2 ^ (-1000 : ℤ) ≤ z) : z / 2 ≤ r := by
  have hmin : (0 : ℚ) < 2 ^ (-1000 : ℤ) := by positivity
  obtain ⟨k, hlow, hhigh⟩ := exists_mem_Ico_zpow (hmin.trans_le hz) one_lt_two
  have hk : -1000 < k + 1 := (zpow_lt_zpow_iff_right₀ one_lt_two).1 (hz.trans_lt hhigh)
  have hplace : z < 2 ^ (k - 52 + 53) := by rwa [show k - 52 + 53 = k + 1 by omega]
  have hclose := (h.bounds (k - 52) (by omega) hplace).1
  have hsmall : (2 : ℚ) ^ (k - 52 - 1) ≤ 2 ^ (k - 1) := zpow_le_zpow_right₀ one_le_two (by omega)
  rw [zpow_sub_one₀ two_ne_zero k] at hsmall
  linarith

/-! ### Rounding of a product -/

/-- What the two bits beside a shifted mantissa say about the digits that were dropped. -/
theorem shiftRight_dropped (N n : ℕ) : ∃ rest, rest < 2 ^ n ∧
    2 * (N % 2 ^ n) =
      (if ((⟨N, false, false⟩ : ExtendedMantissa) >>> n).roundBit then 2 ^ n else 0) + rest ∧
    (((⟨N, false, false⟩ : ExtendedMantissa) >>> n).stickyBit = true ↔ rest ≠ 0) := by
  induction n with
  | zero => exact ⟨0, by decide, by simp [Nat.mod_one]; rfl, by simp; rfl⟩
  | succ n ih =>
    obtain ⟨rest, hlt, htwice, hsticky⟩ := ih
    have hstep : (⟨N, false, false⟩ : ExtendedMantissa) >>> (n + 1) =
        ((⟨N, false, false⟩ : ExtendedMantissa) >>> n).shiftRightOne := rfl
    have hmantissa := (shiftRight_exact N n).1
    have hmod : N % 2 ^ (n + 1) = N % 2 ^ n + 2 ^ n * (N / 2 ^ n % 2) := by
      rw [pow_succ, Nat.mod_mul]
    have hbelow : N % 2 ^ n < 2 ^ n := Nat.mod_lt _ (by positivity)
    refine ⟨2 * (N % 2 ^ n), by rw [pow_succ]; omega, ?_, ?_⟩
    · rw [hstep, hmod]
      simp only [ExtendedMantissa.shiftRightOne, hmantissa, pow_succ]
      rcases Nat.mod_two_eq_zero_or_one (N / 2 ^ n) with hbit | hbit
      · simp [hbit]
      · simp only [hbit]
        simp
        omega
    · have hpos : 0 < 2 ^ n := by positivity
      rw [hstep]
      simp only [ExtendedMantissa.shiftRightOne, Bool.or_eq_true, hsticky]
      generalize N % 2 ^ n = dropped at *
      split at htwice
      · next hround =>
        have hne : 2 * dropped ≠ 0 := by omega
        simp [hround, hne]
      · next hround =>
        have heq : 2 * dropped = rest := by omega
        simp [hround, heq]

theorem roundedMantissa_shiftRight (N n : ℕ) :
    ((⟨N, false, false⟩ : ExtendedMantissa) >>> n).roundedMantissa = roundDiv N (2 ^ n) := by
  obtain ⟨rest, hlt, htwice, hsticky⟩ := shiftRight_dropped N n
  have hmantissa := (shiftRight_exact N n).1
  rw [roundDiv, ← hmantissa]
  generalize (⟨N, false, false⟩ : ExtendedMantissa) >>> n = em at *
  obtain ⟨mantissa, round, sticky⟩ := em
  -- the dropped digits are nothing, less than a half, a half, or more
  cases round <;> cases sticky <;>
    simp only [ExtendedMantissa.roundedMantissa, ExtendedMantissa.accuracy,
      Accuracy.roundToNearestEven, htwice, Bool.false_eq_true, if_false, if_true, false_iff,
      true_iff, not_not, ne_eq] at hsticky ⊢ <;>
    split <;> omega

theorem roundDiv_close (num : ℕ) {den : ℕ} (hden : 0 < den) :
    |(roundDiv num den : ℚ) * den - num| ≤ den / 2 := by
  obtain ⟨hlow, hhigh⟩ := roundDiv_near num den hden
  have hlow' : (2 * num : ℚ) ≤ (2 * roundDiv num den + 1) * den := by exact_mod_cast hlow
  have hhigh' : (2 * roundDiv num den * den : ℚ) ≤ 2 * num + den := by exact_mod_cast hhigh
  rw [abs_le]
  constructor <;> linarith

theorem roundDiv_shift_close (N n : ℕ) (e : ℤ) :
    |(roundDiv N (2 ^ n) : ℚ) * 2 ^ (e + n) - N * 2 ^ e| ≤ 2 ^ (e + n - 1) := by
  have hpos : (0 : ℚ) < 2 ^ e := by positivity
  have hdigits := roundDiv_close N (show 0 < 2 ^ n by positivity)
  have hscale : (roundDiv N (2 ^ n) : ℚ) * 2 ^ (e + n) - N * 2 ^ e =
      (roundDiv N (2 ^ n) * (2 ^ n : ℕ) - N) * 2 ^ e := by
    rw [two_zpow_add]
    ring
  rw [hscale, abs_mul, abs_of_pos hpos, zpow_sub_one₀ two_ne_zero, two_zpow_add, ← div_eq_mul_inv,
    mul_div_right_comm]
  exact mul_le_mul_of_nonneg_right hdigits hpos.le

theorem carry_value (k : ℤ) : ((2 ^ 52 : ℕ) : ℚ) * 2 ^ (k + 1) = (2 ^ 53 : ℕ) * 2 ^ k := by
  rw [zpow_add_one₀ two_ne_zero]
  push_cast
  ring

theorem near_roundWithAccuracy (sign : Sign) {N : ℕ} {e : ℤ} (hN : N ≠ 0) (he : -1074 ≤ e)
    (hexponent : e ≤ max (N.log2 + e - 52) (-1074)) :
    ∃ m k, Canonical m k ∧ roundWithAccuracy .binary64 sign N e .exact = signed sign m k ∧
      Near (N * 2 ^ e) (m * 2 ^ k) := by
  obtain ⟨n, hn⟩ := Int.le.dest hexponent
  have hlt : (N : ℚ) * 2 ^ e < 2 ^ (e + n + (53 : ℕ)) := by
    have hplaces := mul_zpow_lt e ((Nat.log2_lt hN).1 (show N.log2 < n + 53 by omega))
    rwa [Nat.cast_add, ← add_assoc] at hplaces
  have hle : e + n ≠ -1074 → (2 : ℚ) ^ (e + n + (52 : ℕ)) ≤ N * 2 ^ e := by
    intro hne
    have hplaces := le_mul_zpow e ((Nat.le_log2 hN).1 (show n + 52 ≤ N.log2 by omega))
    rwa [Nat.cast_add, ← add_assoc] at hplaces
  have hnear := near_of_place hlt hle (roundDiv_shift_close N n e)
  obtain ⟨R, hR, ⟨hr, heq⟩ | ⟨hcarry, hr, heq⟩⟩ := roundWithAccuracy_shift sign hN he hn
  · rw [roundedMantissa_shiftRight] at hR
    exact ⟨R, e + n, hr.canonical, heq, by rwa [hR]⟩
  · rw [roundedMantissa_shiftRight] at hR
    refine ⟨2 ^ 52, e + n + 1, hr.canonical, heq, ?_⟩
    rwa [← hR, hcarry, ← carry_value] at hnear

/-- A positive number that is not tiny has its mantissa filled. -/
theorem exists_positive {x : Float} {q : ℚ} (h : rational? x = some q) (hq : 2 ^ (-200 : ℤ) ≤ q) :
    ∃ m e, ∃ hpos : 0 < m, x.toModel.unpack = .finite .positive m e hpos ∧ 2 ^ 52 ≤ m ∧
      q = m * 2 ^ e ∧ q < 2 ^ (e + 53) := by
  obtain ⟨sign, m, e, hcanonical, -, hx, rfl⟩ := exists_signed h
  have hmin : (0 : ℚ) < 2 ^ (-200 : ℤ) := by positivity
  have hlow := hmin.trans_le hq
  have hlt : (m : ℚ) * 2 ^ e < 2 ^ (e + 53) := mul_zpow_lt e hcanonical.mantissa_lt
  cases sign with
  | negative =>
    have hneg : (0 : ℚ) ≤ m * 2 ^ e := by positivity
    simp only [Sign.apply, Int.cast_neg, Int.cast_natCast, neg_mul] at hlow
    linarith
  | positive =>
    simp only [Sign.apply, Int.cast_natCast] at hlow hq ⊢
    have hpos : 0 < m := by
      rw [Nat.pos_iff_ne_zero]
      rintro rfl
      simp at hlow
    have hplace : -200 < e + 53 :=
      (zpow_lt_zpow_iff_right₀ one_lt_two).1 (hq.trans_lt hlt)
    exact ⟨m, e, hpos, by rw [hx, signed_of_pos hpos], hcanonical.le_mantissa (by omega), rfl, hlt⟩

theorem rational?_mul_near {x y : Float} {p q : ℚ} (hx : rational? x = some p)
    (hy : rational? y = some q) (hp : 2 ^ (-200 : ℤ) ≤ p) (hq : 1 ≤ q)
    (hpq : p * q < 2 ^ (200 : ℤ)) : ∃ r, rational? (x * y) = some r ∧ Near (p * q) r := by
  have hmul : (x * y).toModel =
      Float.Model.pack (mul .binary64 x.toModel.unpack y.toModel.unpack) := rfl
  have hone : (2 : ℚ) ^ (-200 : ℤ) ≤ 1 := zpow_le_one_of_nonpos₀ one_le_two (by norm_num)
  obtain ⟨m, e, hm, hu, hfull, rfl, hlt⟩ := exists_positive hx hp
  obtain ⟨m', e', hm', hw, hfull', rfl, hlt'⟩ := exists_positive hy (hone.trans hq)
  have he : -200 < e + 53 := (zpow_lt_zpow_iff_right₀ one_lt_two).1 (hp.trans_lt hlt)
  have he' : 0 < e' + 53 := by
    refine (zpow_lt_zpow_iff_right₀ (one_lt_two (α := ℚ))).1 ?_
    rw [zpow_zero]
    exact hq.trans_lt hlt'
  have hproduct : 2 ^ 52 ≤ m * m' := hfull.trans (Nat.le_mul_of_pos_right m hm')
  have hlog := (Nat.le_log2 (by positivity)).2 hproduct
  obtain ⟨M, k, hcanonical, heq, hnear⟩ := near_roundWithAccuracy (.positive * .positive)
    (N := m * m') (e := e + e') (by positivity) (by omega) (by omega)
  have hvalue : ((m * m' : ℕ) : ℚ) * 2 ^ (e + e') = m * 2 ^ e * (m' * 2 ^ e') := by
    rw [zpow_add₀ two_ne_zero]
    push_cast
    ring
  rw [hvalue] at hnear
  have hfits : k ≤ 971 := by
    by_contra! hlarge
    have hclose := (hnear.bounds 147 (by norm_num) hpq).2
    have hbig : (2 : ℚ) ^ 52 ≤ M := by exact_mod_cast hcanonical.le_mantissa (by omega)
    have hpower : (2 : ℚ) ^ (200 : ℤ) ≤ 2 ^ k := zpow_le_zpow_right₀ one_le_two (by omega)
    have hfar : (2 : ℚ) ^ 52 * 2 ^ (200 : ℤ) ≤ M * 2 ^ k := by gcongr
    norm_num at hclose hpq hfar
    linarith
  refine ⟨M * 2 ^ k, ?_, hnear⟩
  have hround : mul .binary64 x.toModel.unpack y.toModel.unpack = signed .positive M k := by
    rw [hu, hw]
    exact heq
  rw [rational?, hmul, hround, rational_pack_signed _ hcanonical hfits]
  simp [Sign.apply]

/-! ### Rounding of a fraction -/

theorem unpack_floatOfBits {place mantissa : ℕ} (hplace : place ≤ 2045) (hlt : mantissa < 2 ^ 53)
    (hfull : place ≠ 0 → 2 ^ 52 ≤ mantissa) :
    unpack .binary64 (UInt64.ofNat (place * 2 ^ 52 + mantissa)).toBitVec =
      signed .positive mantissa ((place : ℤ) - 1074) := by
  have hbits : (UInt64.ofNat (place * 2 ^ 52 + mantissa)).toBitVec.toNat =
      place * 2 ^ 52 + mantissa := by
    rw [UInt64.toNat_toBitVec, UInt64.toNat_ofNat_of_lt']
    exact lt_of_lt_of_le (by omega) (Nat.le_refl (2 ^ 63)) |>.trans (by decide)
  have hsign : Sign.ofBitVec (@unpackSign .binary64
      (UInt64.ofNat (place * 2 ^ 52 + mantissa)).toBitVec) = .positive := by
    have hzero :
        @unpackSign .binary64 (UInt64.ofNat (place * 2 ^ 52 + mantissa)).toBitVec = 0#1 := by
      apply BitVec.eq_of_toNat_eq
      rw [toNat_unpackSign, hbits]
      show _ = 0
      omega
    rw [hzero]
    rfl
  rw [unpack_eq, hsign, toNat_unpackExponent, toNat_unpackMantissa, hbits]
  by_cases hsmall : mantissa < 2 ^ 52
  · obtain rfl : place = 0 := by
      by_contra hne
      have hle := hfull hne
      omega
    have hexponent : (0 * 2 ^ 52 + mantissa) / 2 ^ 52 % 2 ^ 11 = 0 := by omega
    have hdigits : (0 * 2 ^ 52 + mantissa) % 2 ^ 52 = mantissa := by omega
    rw [hexponent, hdigits]
    rfl
  · have hexponent : (place * 2 ^ 52 + mantissa) / 2 ^ 52 % 2 ^ 11 = place + 1 := by omega
    have hdigits : 2 ^ 52 + (place * 2 ^ 52 + mantissa) % 2 ^ 52 = mantissa := by omega
    rw [hexponent, hdigits, if_neg (by omega), if_neg (by omega)]
    congr 1
    omega

theorem rational?_floatOfBits {place mantissa : ℕ} (hplace : place ≤ 2045)
    (hlt : mantissa < 2 ^ 53) (hfull : place ≠ 0 → 2 ^ 52 ≤ mantissa) :
    rational? (floatOfBits false (place * 2 ^ 52 + mantissa)) =
      some ((mantissa : ℚ) * 2 ^ ((place : ℤ) - 1074)) := by
  have hcanonical : Canonical mantissa ((place : ℤ) - 1074) :=
    ⟨by omega, hlt, fun hne => hfull (by omega)⟩
  have hmodel : (floatOfBits false (place * 2 ^ 52 + mantissa)).toModel =
      Float.Model.pack (unpack .binary64
        (UInt64.ofNat (0 + (place * 2 ^ 52 + mantissa))).toBitVec) := rfl
  rw [rational?, hmodel, Nat.zero_add, unpack_floatOfBits hplace hlt hfull,
    rational_pack_signed _ hcanonical (by omega)]
  simp [Sign.apply]

theorem two_zpow_places (k : ℤ) : (2 : ℚ) ^ (k - 1074) * placesInOne = 2 ^ k := by
  have hfour : (2 : ℚ) ^ (k - 1074) * 2 ^ 1076 = 4 * 2 ^ k := by
    rw [← zpow_natCast, ← zpow_add₀ two_ne_zero]
    have hexponent : k - 1074 + ((1076 : ℕ) : ℤ) = 2 + k := by omega
    rw [hexponent, zpow_add₀ two_ne_zero]
    norm_num
  rw [two_pow_eq_places] at hfour
  linarith

section Place

variable {num den place : ℕ}

theorem place_bounds (hden : den ≠ 0) (hlt : num * placesInOne < den * 2 ^ (place + 53))
    (hle : place ≠ 0 → den * 2 ^ (place + 52) ≤ num * placesInOne) :
    (num / den : ℚ) < 2 ^ ((place : ℤ) - 1074 + (53 : ℕ)) ∧
      (place ≠ 0 → (2 : ℚ) ^ ((place : ℤ) - 1074 + (52 : ℕ)) ≤ num / den) := by
  have hd : (0 : ℚ) < den := by positivity
  have hone : (0 : ℚ) < placesInOne := by rw [placesInOne_eq]; positivity
  have hpower (k : ℕ) : (2 : ℚ) ^ ((place : ℤ) - 1074 + k) * placesInOne = 2 ^ (place + k) := by
    rw [sub_add_eq_add_sub, two_zpow_places]
    exact_mod_cast rfl
  constructor
  · have hcast : (num * placesInOne : ℚ) < den * 2 ^ (place + 53) := by exact_mod_cast hlt
    refine lt_of_mul_lt_mul_right ?_ hone.le
    rw [hpower, div_mul_eq_mul_div, div_lt_iff₀ hd]
    linarith
  · intro hne
    have hcast : (den * 2 ^ (place + 52) : ℚ) ≤ num * placesInOne := by exact_mod_cast hle hne
    refine le_of_mul_le_mul_right ?_ hone
    rw [hpower, div_mul_eq_mul_div, le_div_iff₀ hd]
    linarith

theorem roundDiv_place_bounds (hden : den ≠ 0)
    (hlt : num * placesInOne < den * 2 ^ (place + 53))
    (hle : place ≠ 0 → den * 2 ^ (place + 52) ≤ num * placesInOne) :
    roundDiv (num * placesInOne) (den * 2 ^ place) ≤ 2 ^ 53 ∧
      (place ≠ 0 → 2 ^ 52 ≤ roundDiv (num * placesInOne) (den * 2 ^ place)) := by
  have hpos : 0 < den * 2 ^ place := by positivity
  have hraise (k : ℕ) : den * 2 ^ (place + k) = 2 ^ k * (den * 2 ^ place) := by ring
  obtain ⟨hlow, hhigh⟩ := roundDiv_near (num * placesInOne) (den * 2 ^ place) hpos
  rw [add_mul, mul_assoc] at hlow
  rw [mul_assoc] at hhigh
  constructor
  · by_contra! hmore
    have hproduct := Nat.mul_le_mul_right (den * 2 ^ place) hmore
    rw [hraise] at hlt
    omega
  · intro hne
    by_contra! hless
    have hproduct := Nat.mul_le_mul_right (den * 2 ^ place) (Nat.le_of_lt_succ hless)
    have hstart := hle hne
    rw [hraise] at hstart
    omega

end Place

/-- An error in units of the last place, without the places that were put below it. -/
theorem abs_sub_le_of_scaled {m x d u p : ℚ} (hd : 0 < d) (hp : 0 < p)
    (h : |m * (d * (u * p)) - x * p| ≤ d * (u * p) / 2) : |m * u - x / d| ≤ u / 2 := by
  have hscale : m * (d * (u * p)) - x * p = (m * u - x / d) * (d * p) := by
    field_simp
  have hhalf : d * (u * p) / 2 = u / 2 * (d * p) := by ring
  rw [hscale, abs_mul, abs_of_pos (mul_pos hd hp), hhalf] at h
  exact le_of_mul_le_mul_right h (mul_pos hd hp)

theorem roundDiv_place_close (num : ℕ) {den : ℕ} (hden : den ≠ 0) (place : ℕ) :
    |(roundDiv (num * placesInOne) (den * 2 ^ place) : ℚ) * 2 ^ ((place : ℤ) - 1074) - num / den| ≤
      2 ^ ((place : ℤ) - 1074 - 1) := by
  have hd : (0 : ℚ) < den := by positivity
  have hone : (0 : ℚ) < placesInOne := by rw [placesInOne_eq]; positivity
  have hdigits := roundDiv_close (num * placesInOne) (show 0 < den * 2 ^ place by positivity)
  have hunit : ((den * 2 ^ place : ℕ) : ℚ) = den * (2 ^ ((place : ℤ) - 1074) * placesInOne) := by
    rw [two_zpow_places, zpow_natCast, Nat.cast_mul, Nat.cast_pow, Nat.cast_two]
  rw [hunit, Nat.cast_mul] at hdigits
  rw [zpow_sub_one₀ two_ne_zero, ← div_eq_mul_inv]
  exact abs_sub_le_of_scaled hd hone hdigits

theorem near_nearestBits {num den : ℕ} (hnum : num ≠ 0) (hden : den ≠ 0)
    (hsmall : (num / den : ℚ) < 2 ^ (200 : ℤ)) :
    ∃ r, rational? (floatOfBits false (nearestBits num den)) = some r ∧ Near (num / den) r := by
  obtain ⟨hlt, hle⟩ := lastPlace_spec hnum hden
  generalize hplace : lastPlace num den = place at hlt hle
  obtain ⟨hhigh, hlow⟩ := place_bounds hden hlt hle
  obtain ⟨hmost, hleast⟩ := roundDiv_place_bounds hden hlt hle
  have hfew : place ≤ 1300 := by
    by_contra! hmany
    have hpower := (zpow_lt_zpow_iff_right₀ one_lt_two).1 ((hlow (by omega)).trans_lt hsmall)
    omega
  have hnear := near_of_place hhigh (fun hne => hlow (by omega))
    (roundDiv_place_close num hden place)
  have hbits : nearestBits num den =
      place * 2 ^ 52 + roundDiv (num * placesInOne) (den * 2 ^ place) :=
    nearestBits_of_round hnum hplace rfl (by omega)
  generalize roundDiv (num * placesInOne) (den * 2 ^ place) = m at *
  refine ⟨_, ?_, hnear⟩
  rw [hbits]
  by_cases hcarry : m = 2 ^ 53
  · have hnext : place * 2 ^ 52 + m = (place + 1) * 2 ^ 52 + 2 ^ 52 := by omega
    rw [hnext, rational?_floatOfBits (by omega) (by norm_num) (fun _ => le_rfl), hcarry]
    have hexponent : ((place + 1 : ℕ) : ℤ) - 1074 = (place : ℤ) - 1074 + 1 := by omega
    rw [hexponent, carry_value]
  · exact rational?_floatOfBits (by omega) (by omega) hleast

theorem near_nearestReal {mantissa k : ℕ} (hzero : mantissa ≠ 0) (hmantissa : mantissa < 10 ^ 50)
    (hk : k ≤ 300) :
    ∃ r, rational? (nearestReal false mantissa (-(k : ℤ))) = some r ∧
      Near (mantissa / 10 ^ k) r := by
  have hlength : (digits mantissa).length - 1 < 50 :=
    (Nat.pow_lt_pow_iff_right (by decide)).1 ((pow_length_digits_le hzero).trans_lt hmantissa)
  have hvalue : (mantissa / 10 ^ k : ℚ) < 2 ^ (200 : ℤ) := by
    have hone : (1 : ℚ) ≤ 10 ^ k := one_le_pow₀ (by norm_num)
    have hless : (mantissa : ℚ) < 10 ^ 50 := by exact_mod_cast hmantissa
    refine (div_le_self (by positivity) hone).trans_lt (hless.trans ?_)
    norm_num
  have hread : nearestReal false mantissa (-(k : ℤ)) =
      floatOfBits false (nearestBits mantissa (10 ^ k)) := by
    simp only [nearestReal, hzero, false_or]
    rw [if_neg (by omega), if_neg (by omega)]
    cases k with
    | zero => simp
    | succ k => rfl
  rw [hread]
  have hden : (10 ^ k : ℕ) ≠ 0 := by positivity
  have hnear := near_nearestBits hzero hden
  push_cast at hnear
  exact hnear hvalue

/-! ### The nearest whole number -/

/-- The parts of a finite double are those of its unpacked form. -/
theorem unpack_ofFloat {x : Float} (hn : x.isNaN = false) (hi : x.isInf = false) :
    x.toModel.unpack = signed (if (Binary.ofFloat x).negative then .negative else .positive)
      (Binary.ofFloat x).mantissa (Binary.ofFloat x).exponent := by
  have hexponent : (@unpackExponent .binary64 x.toModel.toBits.toBitVec).toNat =
      exponentField x := toNat_unpackExponent _
  have hdigits : (@unpackMantissa .binary64 x.toModel.toBits.toBitVec).toNat =
      x.toBits.toNat % 2 ^ 52 := toNat_unpackMantissa _
  have hsign : Sign.ofBitVec (@unpackSign .binary64 x.toModel.toBits.toBitVec) =
      if (Binary.ofFloat x).negative then .negative else .positive := by
    have hbit : (@unpackSign .binary64 x.toModel.toBits.toBitVec).toNat =
        x.toBits.toNat / 2 ^ 63 := toNat_unpackSign _
    have hnegative : (Binary.ofFloat x).negative = (x.toBits.toNat / 2 ^ 63 == 1) := rfl
    rw [hnegative, ← hbit]
    rcases BitVec.eq_zero_or_eq_one (@unpackSign .binary64 x.toModel.toBits.toBitVec) with hz | ho
    · rw [hz]
      rfl
    · rw [ho]
      rfl
  have hfinite := exponentField_ne hn hi
  have hfield : x.toBits.toNat / Nat.pow 2 52 % Nat.pow 2 11 = exponentField x := rfl
  rw [Float.Model.unpack, unpack_eq, hexponent, hdigits, hsign, if_neg hfinite]
  simp only [Binary.ofFloat, hfield, Nat.pow_eq]
  split
  · rfl
  · rw [add_comm]

theorem finite_of_rational {x : Float} {q : ℚ} (h : rational? x = some q) :
    x.isFinite = true ∧ x.isNaN = false ∧ x.isInf = false := by
  obtain ⟨sign, m, e, -, -, hx, -⟩ := exists_signed h
  have hsigned : (signed sign m e).isFinite = true ∧ (signed sign m e).isNaN = false ∧
      (signed sign m e).isInf = false := by
    unfold signed
    split <;> exact ⟨rfl, rfl, rfl⟩
  rw [← hx] at hsigned
  exact hsigned

theorem nearestNat_eq {b : Binary} {n : ℕ} (hlow : (n : ℚ) - 1 / 2 ≤ b.mantissa * 2 ^ b.exponent)
    (hhigh : (b.mantissa : ℚ) * 2 ^ b.exponent < n + 1 / 2) : b.nearestNat = n := by
  unfold Binary.nearestNat
  cases he : b.exponent with
  | ofNat k =>
    rw [he, Int.ofNat_eq_natCast, zpow_natCast] at hlow hhigh
    have hlow' : 2 * n ≤ 2 * (b.mantissa * 2 ^ k) + 1 := by
      have hcast : (2 * n : ℚ) ≤ 2 * (b.mantissa * 2 ^ k) + 1 := by linarith
      exact_mod_cast hcast
    have hhigh' : 2 * (b.mantissa * 2 ^ k) < 2 * n + 1 := by
      have hcast : (2 * (b.mantissa * 2 ^ k) : ℚ) < 2 * n + 1 := by linarith
      exact_mod_cast hcast
    simp only [Nat.pow_eq]
    omega
  | negSucc k =>
    have hpos : (0 : ℚ) < 2 ^ (k + 1) := by positivity
    rw [he, zpow_negSucc, ← div_eq_mul_inv] at hlow hhigh
    rw [le_div_iff₀ hpos, pow_succ] at hlow
    rw [div_lt_iff₀ hpos, pow_succ] at hhigh
    have hlow' : n * 2 ^ (k + 1) ≤ b.mantissa + 2 ^ k := by
      have hcast : (n * (2 ^ k * 2) : ℚ) ≤ b.mantissa + 2 ^ k := by linarith
      rw [pow_succ]
      exact_mod_cast hcast
    have hhigh' : b.mantissa + 2 ^ k < (n + 1) * 2 ^ (k + 1) := by
      have hcast : (b.mantissa + 2 ^ k : ℚ) < (n + 1) * (2 ^ k * 2) := by linarith
      rw [pow_succ]
      exact_mod_cast hcast
    simp only [Nat.pow_eq]
    exact Nat.div_eq_of_lt_le hlow' hhigh'

/-- A double within half a unit of a whole number gives that number; at exactly half a unit only if
it lies below it. -/
theorem nearestWord_eq {x : Float} {r : ℚ} {n : ℕ} (h : rational? x = some r)
    (hlow : (n : ℚ) - 1 / 2 ≤ r) (hhigh : r < n + 1 / 2) (hn : n < UInt64.size) :
    nearestWord x = UInt64.ofNat n := by
  obtain ⟨-, hnan, hinf⟩ := finite_of_rational h
  have hvalue : rational? x = some ((((if (Binary.ofFloat x).negative then Sign.negative
      else .positive).apply (Binary.ofFloat x).mantissa : ℤ) : ℚ) *
        2 ^ (Binary.ofFloat x).exponent) := by
    rw [rational?, unpack_ofFloat hnan hinf, rationalOf_signed]
  rw [h, Option.some.injEq] at hvalue
  simp only [nearestWord, hnan, hinf, Bool.false_eq_true, if_false]
  cases hnegative : (Binary.ofFloat x).negative with
  | true =>
    -- only a zero is negative here
    have hmagnitude : (0 : ℚ) ≤ (Binary.ofFloat x).mantissa * 2 ^ (Binary.ofFloat x).exponent := by
      positivity
    simp only [hnegative, if_true, Sign.apply, Int.cast_neg, Int.cast_natCast, neg_mul] at hvalue
    have hless : (n : ℚ) < 1 := by linarith
    obtain rfl : n = 0 := Nat.lt_one_iff.1 (by exact_mod_cast hless)
    rfl
  | false =>
    simp only [hnegative, Bool.false_eq_true, if_false, Sign.apply, Int.cast_natCast] at hvalue
    rw [hvalue] at hlow hhigh
    rw [nearestNat_eq hlow hhigh, Nat.min_eq_left (by omega)]
    rfl

end LedgerBench.Decimal
