import LedgerBench.Proofs.Decimal.Value

/-! Sums that are not rounded. A number that a double can hold is kept by rounding, so that a sum or
a difference is exact when its result fits; whole numbers up to `2 ^ 53` do. -/

open Float.Model (UnpackedFloat Format totalExponent)
open Float.Model.UnpackedFloat

namespace LedgerBench.Decimal

theorem Canonical.target {m : ℕ} {k : ℤ} (h : Canonical m k) (hpos : 0 < m) :
    max (m.log2 + k - 52) (-1074) = k := by
  have hlog := log2_le_of_lt h.mantissa_lt
  have hlow := h.le_exponent
  by_cases hk : k = -1074
  · omega
  · have hbig := (Nat.le_log2 hpos.ne').2 (h.le_mantissa hk)
    omega

theorem Canonical.roundWithAccuracy {m : ℕ} {k : ℤ} (h : Canonical m k) (sign : Sign) :
    roundWithAccuracy .binary64 sign m k .exact = signed sign m k := by
  have hrounded : (⟨m, false, false⟩ : ExtendedMantissa).roundedMantissa = m := rfl
  rw [roundWithAccuracy_eq]
  simp only [h.shift_eq, hrounded]

theorem Canonical.round_raised {N j : ℕ} {k : ℤ} (h : Canonical (N * 2 ^ j) k) (hN : N ≠ 0)
    (sign : Sign) : UnpackedFloat.round .binary64 sign N (k + j) = signed sign (N * 2 ^ j) k := by
  have htarget := h.target (by positivity)
  rw [log2_mul_two_pow hN] at htarget
  have hshift : (k + j - max (N.log2 + (k + j) - 52) (-1074)).toNat = j := by omega
  simp only [UnpackedFloat.round, decreaseExponent, targetExponent_eq, hshift, Nat.shiftLeft_eq,
    add_sub_cancel_right, h.roundWithAccuracy]

theorem Canonical.round_lowered {m : ℕ} {e : ℤ} {j : ℕ} (h : Canonical m (e + j)) (hpos : 0 < m)
    (sign : Sign) : UnpackedFloat.round .binary64 sign (m * 2 ^ j) e = signed sign m (e + j) := by
  have htarget := h.target hpos
  have hlog := log2_mul_two_pow hpos.ne' j
  have hnone : (e - max ((m * 2 ^ j).log2 + e - 52) (-1074)).toNat = 0 := by omega
  have hshift : (Format.binary64.targetExponent (totalExponent (m * 2 ^ j) e) - e).toNat = j := by
    rw [targetExponent_eq]
    omega
  obtain ⟨hmantissa, hbits⟩ := shiftRight_exact (m * 2 ^ j) j
  obtain ⟨hround, hsticky⟩ := hbits (Nat.mul_mod_left ..)
  have hrounded : ((⟨m * 2 ^ j, false, false⟩ : ExtendedMantissa) >>> j).roundedMantissa = m := by
    rcases roundedMantissa_cases ((⟨m * 2 ^ j, false, false⟩ : ExtendedMantissa) >>> j)
      with heq | ⟨-, hlost⟩
    · rw [heq, hmantissa, Nat.mul_div_cancel m (by positivity)]
    · exact absurd ⟨hround, hsticky⟩ hlost
  have hfirst : shiftToTargetExponent .binary64 (m * 2 ^ j) e .exact =
      ((⟨m * 2 ^ j, false, false⟩ : ExtendedMantissa) >>> j, e + j) := by
    simp only [shiftToTargetExponent, shiftToExponent, hshift]
    rfl
  simp only [UnpackedFloat.round, decreaseExponent, targetExponent_eq, hnone, Nat.shiftLeft_eq,
    pow_zero, mul_one, Nat.cast_zero, sub_zero, roundWithAccuracy_eq, hfirst, hrounded, h.shift_eq]

theorem Canonical.round_exact {N m : ℕ} {e k : ℤ} (h : Canonical m k) (hpos : 0 < m)
    (hvalue : (N : ℚ) * 2 ^ e = m * 2 ^ k) (sign : Sign) :
    UnpackedFloat.round .binary64 sign N e = signed sign m k := by
  have htwo : (2 : ℚ) ≠ 0 := two_ne_zero
  rcases le_total k e with hle | hle
  · obtain ⟨j, rfl⟩ := Int.le.dest hle
    obtain rfl : N * 2 ^ j = m := by
      rw [zpow_add₀ htwo, mul_left_comm, mul_comm] at hvalue
      exact_mod_cast mul_right_cancel₀ (zpow_ne_zero k htwo) hvalue
    exact h.round_raised (by rintro rfl; simp at hpos) sign
  · obtain ⟨j, rfl⟩ := Int.le.dest hle
    obtain rfl : N = m * 2 ^ j := by
      rw [zpow_add₀ htwo, ← mul_assoc, mul_right_comm] at hvalue
      exact_mod_cast mul_right_cancel₀ (zpow_ne_zero e htwo) hvalue
    exact h.round_lowered hpos sign

/-- A rational that is the number of a double. -/
def Fits (q : ℚ) : Prop :=
  ∃ (sign : Sign) (m : ℕ) (e : ℤ), Canonical m e ∧ e ≤ 971 ∧ q = (sign.apply m : ℚ) * 2 ^ e

theorem rational_pack_signed (sign : Sign) {m : ℕ} {e : ℤ} (h : Canonical m e) (hfits : e ≤ 971) :
    rationalOf (Float.Model.pack (signed sign m e)).unpack = some ((sign.apply m : ℚ) * 2 ^ e) := by
  rw [unpack_pack_signed sign h, if_pos hfits, rationalOf_signed]

theorem exists_apply {n : ℤ} {sign : Sign} {m : ℕ} {e k : ℤ}
    (h : (n : ℚ) * 2 ^ e = (sign.apply m : ℚ) * 2 ^ k) :
    ∃ N : ℕ, n = sign.apply N ∧ (N : ℚ) * 2 ^ e = m * 2 ^ k := by
  have hback : sign.apply (sign.apply n) = n := by cases sign <;> simp [Sign.apply]
  have hvalue : ((sign.apply n : ℤ) : ℚ) * 2 ^ e = m * 2 ^ k := by
    cases sign <;> simp_all [Sign.apply]
  have hpower : (0 : ℚ) < 2 ^ e := by positivity
  have hnonneg : (0 : ℚ) ≤ (sign.apply n : ℤ) := by
    refine nonneg_of_mul_nonneg_left ?_ hpower
    rw [hvalue]
    positivity
  obtain ⟨N, hN⟩ := Int.eq_ofNat_of_zero_le (by exact_mod_cast hnonneg : 0 ≤ sign.apply n)
  exact ⟨N, by rw [← hN, hback], by rw [← hvalue, hN, Int.cast_natCast]⟩

theorem normalize_exact {n e : ℤ} (h : Fits (n * 2 ^ e)) :
    rationalOf (Float.Model.pack (UnpackedFloat.normalize .binary64 n e .positive)).unpack =
      some ((n : ℚ) * 2 ^ e) := by
  by_cases hn : n = 0
  · have hzero : UnpackedFloat.normalize .binary64 0 e .positive = .zero .positive := rfl
    rw [hn, hzero, Int.cast_zero, zero_mul]
    rfl
  · obtain ⟨sign, m, k, hcanonical, hfits, hq⟩ := h
    obtain ⟨N, rfl, hN⟩ := exists_apply hq
    have hpos : N ≠ 0 := by
      rintro rfl
      exact hn (by cases sign <;> rfl)
    have hm : 0 < m := by
      rw [Nat.pos_iff_ne_zero]
      rintro rfl
      simp [hpos, zpow_ne_zero] at hN
    rw [normalize_apply sign _ hpos, hcanonical.round_exact hm hN, hq,
      rational_pack_signed sign hcanonical hfits]

theorem add_finite_exact {s₁ s₂ : Sign} {m₁ m₂ : ℕ} {e₁ e₂ : ℤ} (h₁ : 0 < m₁) (h₂ : 0 < m₂)
    (hsum : Fits ((s₁.apply m₁ : ℚ) * 2 ^ e₁ + (s₂.apply m₂ : ℚ) * 2 ^ e₂)) :
    rationalOf (Float.Model.pack
        (add .binary64 (.finite s₁ m₁ e₁ h₁) (.finite s₂ m₂ e₂ h₂))).unpack =
      some ((s₁.apply m₁ : ℚ) * 2 ^ e₁ + (s₂.apply m₂ : ℚ) * 2 ^ e₂) := by
  obtain ⟨e, j₁, j₂, rfl, rfl, -, hadd⟩ := add_finite s₁ s₂ e₁ e₂ h₁ h₂
  have hvalue : (s₁.apply m₁ : ℚ) * 2 ^ (e + j₁) + (s₂.apply m₂ : ℚ) * 2 ^ (e + j₂) =
      ((s₁.apply (m₁ * 2 ^ j₁ : ℕ) + s₂.apply (m₂ * 2 ^ j₂ : ℕ) : ℤ) : ℚ) * 2 ^ e := by
    simp only [zpow_add₀ (two_ne_zero : (2 : ℚ) ≠ 0), zpow_natCast]
    cases s₁ <;> cases s₂ <;> simp only [Sign.apply] <;> push_cast <;> ring
  rw [hvalue] at hsum
  rw [hadd, hvalue, normalize_exact hsum]

/-- Zero added to a number gives the number, though not always the sign of a zero. -/
theorem add_zero_signed (s s' : Sign) (m : ℕ) (e : ℤ) :
    ∃ sign : Sign, (sign.apply m : ℚ) = s'.apply m ∧
      add .binary64 (.zero s) (signed s' m e) = signed sign m e ∧
      add .binary64 (signed s' m e) (.zero s) = signed sign m e := by
  by_cases hm : m = 0
  · subst hm
    cases s <;> cases s'
    · exact ⟨.negative, rfl, rfl, rfl⟩
    all_goals exact ⟨.positive, rfl, rfl, rfl⟩
  · rw [signed_of_pos (Nat.pos_of_ne_zero hm)]
    exact ⟨s', rfl, (signed_of_pos ..).symm, (signed_of_pos ..).symm⟩

theorem rational?_add {x y : Float} {p q : ℚ} (hx : rational? x = some p)
    (hy : rational? y = some q) (hsum : Fits (p + q)) : rational? (x + y) = some (p + q) := by
  have hadd : (x + y).toModel =
      Float.Model.pack (add .binary64 x.toModel.unpack y.toModel.unpack) := rfl
  obtain ⟨s, m, e, h, hfits, hu, rfl⟩ := exists_signed hx
  obtain ⟨s', m', e', h', hfits', hw, rfl⟩ := exists_signed hy
  rw [rational?, hadd, hu, hw]
  by_cases hm : m = 0
  · obtain ⟨sign, hsign, hleft, -⟩ := add_zero_signed s s' m' e'
    have hzero : signed s m e = .zero s := dif_pos hm
    rw [hzero, hleft, rational_pack_signed sign h' hfits', hsign, hm]
    cases s <;> simp [Sign.apply]
  by_cases hm' : m' = 0
  · obtain ⟨sign, hsign, -, hright⟩ := add_zero_signed s' s m e
    have hzero : signed s' m' e' = .zero s' := dif_pos hm'
    rw [hzero, hright, rational_pack_signed sign h hfits, hsign, hm']
    cases s' <;> simp [Sign.apply]
  · rw [signed_of_pos (Nat.pos_of_ne_zero hm), signed_of_pos (Nat.pos_of_ne_zero hm')]
    exact add_finite_exact _ _ hsum

theorem rational?_sub_eq (x y : Float) : rational? (x - y) = rational? (x + -y) := by
  have hsub : (x - y).toModel =
      Float.Model.pack (sub .binary64 x.toModel.unpack y.toModel.unpack) := rfl
  have hadd : (x + -y).toModel =
      Float.Model.pack (add .binary64 x.toModel.unpack (-y).toModel.unpack) := rfl
  rw [rational?, rational?, hsub, hadd, sub_eq_add_neg, unpack_neg]

theorem rational?_sub {x y : Float} {p q : ℚ} (hx : rational? x = some p)
    (hy : rational? y = some q) (hdifference : Fits (p - q)) :
    rational? (x - y) = some (p - q) := by
  have hneg : rational? (-y) = some (-q) := by rw [rational?_neg, hy, Option.map_some]
  have hsum : p - q = p + -q := by ring
  rw [hsum] at hdifference ⊢
  rw [rational?_sub_eq, rational?_add hx hneg hdifference]

theorem Fits.neg {q : ℚ} (h : Fits q) : Fits (-q) := by
  obtain ⟨sign, m, e, hcanonical, hfits, rfl⟩ := h
  refine ⟨-sign, m, e, hcanonical, hfits, ?_⟩
  cases sign <;> simp [Sign.apply]

theorem fits_natCast {n : ℕ} (h : n ≤ 2 ^ 53) : Fits n := by
  by_cases hzero : n = 0
  · exact ⟨.positive, 0, -1074, ⟨le_rfl, by norm_num, by simp⟩, by norm_num,
      by simp [hzero, Sign.apply]⟩
  by_cases hlarge : n = 2 ^ 53
  · refine ⟨.positive, 2 ^ 52, 1, ⟨by norm_num, by norm_num, fun _ => le_rfl⟩, by norm_num, ?_⟩
    norm_num [hlarge, Sign.apply]
  · have hlog := log2_le_of_lt (show n < 2 ^ 53 by omega)
    obtain ⟨j, hj⟩ := Nat.exists_eq_add_of_le hlog
    have hdigits : (n * 2 ^ j).log2 = 52 := by rw [log2_mul_two_pow hzero, hj]
    obtain ⟨hlow, hlt⟩ := (Nat.log2_eq_iff (by positivity)).1 hdigits
    refine ⟨.positive, n * 2 ^ j, -j, ⟨by omega, hlt, fun _ => hlow⟩, by omega, ?_⟩
    simp [Sign.apply]

theorem fits_intCast {n : ℤ} (h : |n| ≤ 2 ^ 53) : Fits n := by
  obtain ⟨k, rfl | rfl⟩ := n.eq_nat_or_neg
  · exact fits_natCast (by simpa using h)
  · rw [Int.cast_neg]
    exact (fits_natCast (by simpa using h)).neg

/-! ### Exact sums and differences -/

variable {x y : Float}

/-- A sum that is not rounded; an infinity counts as a number. -/
def AddExact (x y : Float) : Prop :=
  ∃ a b, extended? x = some a ∧ extended? y = some b ∧ extended? (x + y) = some (a + b)

/-- A difference that is not rounded; an infinity counts as a number. -/
def SubExact (x y : Float) : Prop :=
  ∃ a b, extended? x = some a ∧ extended? y = some b ∧ extended? (x - y) = some (a - b)

/-- A whole number of which a double keeps all digits, and those of twice the number. -/
def Whole (x : Float) : Prop :=
  ∃ n : ℤ, |n| ≤ 2 ^ 52 ∧ rational? x = some (n : ℚ)

theorem Whole.neg (hx : Whole x) : Whole (-x) := by
  obtain ⟨n, hn, hvalue⟩ := hx
  refine ⟨-n, by rwa [abs_neg], ?_⟩
  rw [rational?_neg, hvalue, Option.map_some, Int.cast_neg]

theorem Whole.add_exact (hx : Whole x) (hy : Whole y) : AddExact x y := by
  obtain ⟨n, hn, hx⟩ := hx
  obtain ⟨k, hk, hy⟩ := hy
  have hfits : Fits ((n : ℚ) + k) := by
    rw [← Int.cast_add]
    exact fits_intCast ((abs_add_le n k).trans (by omega))
  have hsum := extended?_of_rational (rational?_add hx hy hfits)
  exact ⟨_, _, extended?_of_rational hx, extended?_of_rational hy, by simpa using hsum⟩

theorem Whole.sub_exact (hx : Whole x) (hy : Whole y) : SubExact x y := by
  obtain ⟨n, hn, hx⟩ := hx
  obtain ⟨k, hk, hy⟩ := hy
  have hfits : Fits ((n : ℚ) - k) := by
    rw [← Int.cast_sub]
    exact fits_intCast ((abs_sub n k).trans (by omega))
  have hdifference := extended?_of_rational (rational?_sub hx hy hfits)
  exact ⟨_, _, extended?_of_rational hx, extended?_of_rational hy, by simpa using hdifference⟩

theorem extended?_top_sub_top (hx : extended? x = some ⊤) (hy : extended? y = some ⊤) :
    extended? (x - y) = none := by
  have hsub : (x - y).toModel =
      Float.Model.pack (sub .binary64 x.toModel.unpack y.toModel.unpack) := rfl
  have hinfinity {z : Float} (hz : extended? z = some ⊤) :
      z.toModel.unpack = .infinity .positive := by
    cases kind z with
    | top h => exact h
    | undefined _ value | bottom _ value | rational _ value => simp [value] at hz
  have hundefined : sub .binary64 (.infinity .positive) (.infinity .positive) = .notANumber := rfl
  rw [extended?, hsub, hinfinity hx, hinfinity hy, hundefined, unpack_pack_notANumber]
  rfl

end LedgerBench.Decimal
