import LedgerBench.Proofs.Decimal.Bits

/-! Rounding to 53 binary digits. It passes no double on its way: a number that lies above a double,
or below it, is not rounded to the other side. What it gives is kept by the bits of a double, unless
it is too large. -/

open Float.Model (Format UnpackedFloat totalExponent)
open Float.Model.UnpackedFloat

namespace LedgerBench.Decimal

/-! ### Mantissas in order -/

/-- A mantissa and its exponent as a double has them, but for a bound on the exponent. -/
structure Canonical (mantissa : Nat) (exponent : Int) : Prop where
  le_exponent : -1074 ≤ exponent
  mantissa_lt : mantissa < 2 ^ 53
  le_mantissa : exponent ≠ -1074 → 2 ^ 52 ≤ mantissa

/-- The order of canonical forms: the exponents first, then the mantissas. -/
def Below (m : Nat) (e : Int) (m' : Nat) (e' : Int) : Prop :=
  e < e' ∨ e = e' ∧ m ≤ m'

theorem Below.refl (m : Nat) (e : Int) : Below m e m e :=
  .inr ⟨rfl, le_rfl⟩

theorem Canonical.below_floor {m N j n : Nat} {e : Int} (hm : Canonical m (e + j))
    (hN : Canonical (N / 2 ^ n) (e + n)) (hle : m * 2 ^ j ≤ N) :
    Below m (e + j) (N / 2 ^ n) (e + n) := by
  rcases Nat.lt_trichotomy j n with hlt | rfl | hlt
  · exact .inl (by omega)
  · exact .inr ⟨rfl, (Nat.le_div_iff_mul_le (by positivity)).2 hle⟩
  · exfalso
    have hbig := hm.le_mantissa (by have := hN.le_exponent; omega)
    have hdrop : m * 2 ^ (j - n) ≤ N / 2 ^ n := by
      rw [Nat.le_div_iff_mul_le (by positivity), mul_assoc, ← pow_add,
        Nat.sub_add_cancel hlt.le]
      exact hle
    have htwo : 2 ^ 1 ≤ 2 ^ (j - n) := Nat.pow_le_pow_right (by decide) (by omega)
    have hprod := Nat.mul_le_mul hbig htwo
    have hlt := hN.mantissa_lt
    omega

theorem Canonical.floor_below {m N j n : Nat} {e : Int} (hm : Canonical m (e + j))
    (hN : Canonical (N / 2 ^ n) (e + n)) (hle : N ≤ m * 2 ^ j) : n ≤ j := by
  by_contra! hlt
  have hbig := hN.le_mantissa (by have := hm.le_exponent; omega)
  have hrise : N / 2 ^ n * 2 ^ (n - j) ≤ m := by
    refine Nat.le_of_mul_le_mul_right ?_ (show 0 < 2 ^ j by positivity)
    rw [mul_assoc, ← pow_add, Nat.sub_add_cancel hlt.le]
    exact (Nat.div_mul_le_self N (2 ^ n)).trans hle
  have htwo : 2 ^ 1 ≤ 2 ^ (n - j) := Nat.pow_le_pow_right (by decide) (by omega)
  have hprod := Nat.mul_le_mul hbig htwo
  have hlt := hm.mantissa_lt
  omega

/-! ### Rounding -/

theorem shiftRight_exact (N n : Nat) :
    ((⟨N, false, false⟩ : ExtendedMantissa) >>> n).mantissa = N / 2 ^ n ∧
      (N % 2 ^ n = 0 → ((⟨N, false, false⟩ : ExtendedMantissa) >>> n).roundBit = false ∧
        ((⟨N, false, false⟩ : ExtendedMantissa) >>> n).stickyBit = false) := by
  induction n with
  | zero => exact ⟨(Nat.div_one N).symm, fun _ => ⟨rfl, rfl⟩⟩
  | succ n ih =>
    obtain ⟨hmantissa, hbits⟩ := ih
    have hstep : (⟨N, false, false⟩ : ExtendedMantissa) >>> (n + 1) =
        ((⟨N, false, false⟩ : ExtendedMantissa) >>> n).shiftRightOne := rfl
    rw [hstep]
    simp only [ExtendedMantissa.shiftRightOne, hmantissa]
    refine ⟨by rw [Nat.div_div_eq_div_mul, ← pow_succ], fun hzero => ?_⟩
    rw [pow_succ, Nat.mod_mul] at hzero
    have hlow : N % 2 ^ n = 0 := by omega
    have hnext : N / 2 ^ n % 2 = 0 := by
      have : 0 < 2 ^ n := by positivity
      rcases Nat.mod_two_eq_zero_or_one (N / 2 ^ n) with h | h
      · exact h
      · rw [h] at hzero
        omega
    simp [hnext, hbits hlow]

theorem roundedMantissa_cases (em : ExtendedMantissa) :
    em.roundedMantissa = em.mantissa ∨
      em.roundedMantissa = em.mantissa + 1 ∧ ¬(em.roundBit = false ∧ em.stickyBit = false) := by
  obtain ⟨m, round, sticky⟩ := em
  cases round <;> cases sticky <;>
    simp [ExtendedMantissa.roundedMantissa, ExtendedMantissa.accuracy,
      Accuracy.roundToNearestEven]
  omega

theorem targetExponent_eq (m : Nat) (e : Int) :
    Format.binary64.targetExponent (totalExponent m e) = max (m.log2 + e - 52) (-1074) := by
  have hbits : ((Format.binary64.mantissaBits : Nat) : Int) = 53 := rfl
  have hmin : Format.binary64.minExponent = -1074 := by decide
  simp only [Format.targetExponent, totalExponent, hbits, hmin]
  omega

theorem log2_le_of_lt {m : Nat} (h : m < 2 ^ 53) : m.log2 ≤ 52 := by
  by_cases hm : m = 0
  · simp [hm]
  · exact Nat.le_of_lt_succ ((Nat.log2_lt hm).2 h)

theorem log2_mul_two_pow {N : Nat} (hN : N ≠ 0) (j : Nat) : (N * 2 ^ j).log2 = N.log2 + j := by
  rw [Nat.log2_eq_iff (by positivity), pow_add, show N.log2 + j + 1 = N.log2 + 1 + j by omega,
    pow_add]
  exact ⟨Nat.mul_le_mul_right _ (Nat.log2_self_le hN),
    Nat.mul_lt_mul_of_pos_right Nat.lt_log2_self (by positivity)⟩

theorem Canonical.shift_eq {m : Nat} {e : Int} (h : Canonical m e) :
    shiftToTargetExponent .binary64 m e .exact = (⟨m, false, false⟩, e) := by
  have hlog := log2_le_of_lt h.mantissa_lt
  have hnone : (Format.binary64.targetExponent (totalExponent m e) - e).toNat = 0 := by
    rw [targetExponent_eq]
    have := h.le_exponent
    omega
  simp only [shiftToTargetExponent, shiftToExponent, hnone]
  exact Prod.ext rfl (add_zero e)

theorem shift_carry {e : Int} (h : -1074 ≤ e) :
    shiftToTargetExponent .binary64 (2 ^ 53) e .exact = (⟨2 ^ 52, false, false⟩, e + 1) := by
  have hone : (Format.binary64.targetExponent (totalExponent (2 ^ 53) e) - e).toNat = 1 := by
    rw [targetExponent_eq, Nat.log2_two_pow]
    omega
  simp only [shiftToTargetExponent, shiftToExponent, hone]
  rfl

theorem floor_canonical {N n : Nat} {e : Int} (hN : N ≠ 0) (he : -1074 ≤ e)
    (hshift : e + n = max (N.log2 + e - 52) (-1074)) : Canonical (N / 2 ^ n) (e + n) := by
  have hlog : N.log2 ≤ 52 + n := by omega
  refine ⟨by omega, ?_, fun hne => ?_⟩
  · rw [Nat.div_lt_iff_lt_mul (by positivity), ← pow_add]
    exact (Nat.log2_lt hN).1 (by omega)
  · rw [Nat.le_div_iff_mul_le (by positivity), ← pow_add, show 52 + n = N.log2 by omega]
    exact Nat.log2_self_le hN

/-- What a number is rounded to: a canonical form between the same canonical forms as the number. -/
structure Rounded (N : Nat) (e : Int) (m : Nat) (k : Int) : Prop where
  canonical : Canonical m k
  above : ∀ m' j, Canonical m' (e + (j : Nat)) → m' * 2 ^ j ≤ N → Below m' (e + j) m k
  below : ∀ m' j, Canonical m' (e + (j : Nat)) → N ≤ m' * 2 ^ j → Below m k m' (e + j)

/-- The digits kept, or one more at their last place if some digit is dropped. -/
theorem rounded_of_floor {N n R : Nat} {e : Int} (hfloor : Canonical (N / 2 ^ n) (e + n))
    (hR : R = N / 2 ^ n ∨ R = N / 2 ^ n + 1 ∧ N % 2 ^ n ≠ 0) :
    (R < 2 ^ 53 → Rounded N e R (e + n)) ∧
      (¬R < 2 ^ 53 → R = 2 ^ 53 ∧ Rounded N e (2 ^ 52) (e + n + 1)) := by
  have hlt := hfloor.mantissa_lt
  have habove : ∀ m' j, Canonical m' (e + (j : Nat)) → m' * 2 ^ j ≤ N →
      Below m' (e + j) (N / 2 ^ n) (e + n) := fun m' j hm => hm.below_floor hfloor
  have hbelow : ∀ m' j, Canonical m' (e + (j : Nat)) → N ≤ m' * 2 ^ j →
      n < j ∨ n = j ∧ R ≤ m' := by
    intro m' j hm hle
    rcases Nat.eq_or_lt_of_le (hm.floor_below hfloor hle) with rfl | hj
    · have hq : N / 2 ^ n ≤ m' := by
        rw [← Nat.mul_div_cancel m' (show 0 < 2 ^ n by positivity)]
        exact Nat.div_le_div_right hle
      rcases hR with rfl | ⟨rfl, hdropped⟩
      · exact .inr ⟨rfl, hq⟩
      · refine .inr ⟨rfl, Nat.lt_of_le_of_ne hq ?_⟩
        rintro rfl
        have hsum := Nat.div_add_mod' N (2 ^ n)
        omega
    · exact .inl hj
  constructor
  · intro hsmall
    refine ⟨⟨hfloor.le_exponent, hsmall, fun hne => ?_⟩, fun m' j hm hle => ?_,
      fun m' j hm hle => ?_⟩
    · have := hfloor.le_mantissa hne
      omega
    · have := habove m' j hm hle
      unfold Below at this ⊢
      omega
    · have := hbelow m' j hm hle
      unfold Below
      omega
  · intro hcarry
    refine ⟨by omega, ⟨by have := hfloor.le_exponent; omega, by decide, fun _ => le_rfl⟩,
      fun m' j hm hle => ?_, fun m' j hm hle => ?_⟩
    · have := habove m' j hm hle
      unfold Below at this ⊢
      omega
    · have hlarge := hm.mantissa_lt
      have hnormal := hm.le_mantissa
      have hfirst := hfloor.le_exponent
      have := hbelow m' j hm hle
      unfold Below
      omega

/-- A double of a sign, a mantissa that may be zero, and an exponent. -/
def signed (sign : Sign) (m : Nat) (k : Int) : UnpackedFloat :=
  if h : m = 0 then .zero sign else .finite sign m k (Nat.pos_of_ne_zero h)

theorem signed_of_pos {m : Nat} (h : 0 < m) (sign : Sign) (e : Int) :
    signed sign m e = .finite sign m e h := by
  rw [signed, dif_neg (by omega)]

theorem roundWithAccuracy_eq (sign : Sign) (N : Nat) (e : Int) (accuracy : Accuracy) :
    roundWithAccuracy .binary64 sign N e accuracy =
      let first := shiftToTargetExponent .binary64 N e accuracy
      let last := shiftToTargetExponent .binary64 first.1.roundedMantissa first.2 .exact
      signed sign last.1.mantissa last.2 :=
  rfl

/-- The mantissa that is rounded to may carry into one more digit, and is then a power of two. -/
theorem roundWithAccuracy_shift (sign : Sign) {N n : Nat} {e : Int} (hN : N ≠ 0) (he : -1074 ≤ e)
    (hn : e + n = max (N.log2 + e - 52) (-1074)) :
    ∃ R, R = ((⟨N, false, false⟩ : ExtendedMantissa) >>> n).roundedMantissa ∧
      (Rounded N e R (e + n) ∧
          roundWithAccuracy .binary64 sign N e .exact = signed sign R (e + n) ∨
        R = 2 ^ 53 ∧ Rounded N e (2 ^ 52) (e + n + 1) ∧
          roundWithAccuracy .binary64 sign N e .exact = signed sign (2 ^ 52) (e + n + 1)) := by
  have hfirst : shiftToTargetExponent .binary64 N e .exact =
      ((⟨N, false, false⟩ : ExtendedMantissa) >>> n, e + n) := by
    have hshift : (Format.binary64.targetExponent (totalExponent N e) - e).toNat = n := by
      rw [targetExponent_eq]
      omega
    simp only [shiftToTargetExponent, shiftToExponent, hshift]
    rfl
  obtain ⟨hmantissa, hbits⟩ := shiftRight_exact N n
  have hfloor := floor_canonical hN he hn
  have hrounded := rounded_of_floor
    (R := ((⟨N, false, false⟩ : ExtendedMantissa) >>> n).roundedMantissa) hfloor <| by
      rcases roundedMantissa_cases ((⟨N, false, false⟩ : ExtendedMantissa) >>> n) with h | ⟨h, hd⟩
      · exact .inl (h.trans hmantissa)
      · exact .inr ⟨by rw [h, hmantissa], mt hbits hd⟩
  refine ⟨_, rfl, ?_⟩
  rw [roundWithAccuracy_eq, hfirst]
  dsimp only
  generalize ((⟨N, false, false⟩ : ExtendedMantissa) >>> n).roundedMantissa = R at hrounded ⊢
  by_cases hsmall : R < 2 ^ 53
  · have hr := hrounded.1 hsmall
    exact .inl ⟨hr, by rw [hr.canonical.shift_eq]⟩
  · obtain ⟨rfl, hr⟩ := hrounded.2 hsmall
    exact .inr ⟨rfl, hr, by rw [shift_carry hfloor.le_exponent]⟩

theorem roundWithAccuracy_rounded (sign : Sign) {N : Nat} {e : Int} (hN : N ≠ 0) (he : -1074 ≤ e)
    (hexponent : e ≤ max (N.log2 + e - 52) (-1074)) :
    ∃ m k, Rounded N e m k ∧ roundWithAccuracy .binary64 sign N e .exact = signed sign m k := by
  obtain ⟨n, hn⟩ := Int.le.dest hexponent
  obtain ⟨R, -, ⟨hr, heq⟩ | ⟨-, hr, heq⟩⟩ := roundWithAccuracy_shift sign hN he hn
  · exact ⟨R, e + n, hr, heq⟩
  · exact ⟨2 ^ 52, e + n + 1, hr, heq⟩

/-- Rounding a number: trailing zeros that are added to it first change nothing. -/
theorem round_rounded (sign : Sign) {N : Nat} {e : Int} (hN : N ≠ 0) (he : -1074 ≤ e) :
    ∃ m k, Rounded N e m k ∧ UnpackedFloat.round .binary64 sign N e = signed sign m k := by
  have hlow : ∃ a : Nat, (e - max (N.log2 + e - 52) (-1074)).toNat = a := ⟨_, rfl⟩
  obtain ⟨a, ha⟩ := hlow
  have hpad : N * 2 ^ a ≠ 0 := by positivity
  have hlog := log2_mul_two_pow hN a
  obtain ⟨m, k, hr, heq⟩ := roundWithAccuracy_rounded sign (N := N * 2 ^ a) (e := e - a) hpad
    (by omega) (by rw [hlog]; push_cast; omega)
  have hback : ∀ j : Nat, e - a + ((a + j : Nat) : Int) = e + j := fun j => by push_cast; omega
  refine ⟨m, k, ⟨hr.canonical, fun m' j hm hle => ?_, fun m' j hm hle => ?_⟩, ?_⟩
  · have := hr.above m' (a + j) (by rwa [hback]) (by
      rw [pow_add, mul_left_comm, mul_comm N]
      exact Nat.mul_le_mul_left _ hle)
    rwa [hback] at this
  · have := hr.below m' (a + j) (by rwa [hback]) (by
      rw [pow_add, mul_left_comm, mul_comm N]
      exact Nat.mul_le_mul_left _ hle)
    rwa [hback] at this
  · simp only [UnpackedFloat.round, decreaseExponent, targetExponent_eq, ha, Nat.shiftLeft_eq]
    exact heq

/-! ### Packing -/

theorem toNat_withImplicit (mantissa : BitVec 52) :
    (1#1 ++ mantissa).toNat = 2 ^ 52 + mantissa.toNat := by
  have hor := Nat.shiftLeft_add_eq_or_of_lt mantissa.isLt 1
  rw [BitVec.toNat_append]
  exact hor.symm

/-- A double read from the numbers that its bits hold. -/
theorem unpack_eq (b : BitVec Format.binary64.numBits) :
    unpack .binary64 b =
      if (unpackExponent b).toNat = 2047 then
        if (unpackMantissa b).toNat = 0 then .infinity (Sign.ofBitVec (unpackSign b))
        else .notANumber
      else if (unpackExponent b).toNat = 0 then
        signed (Sign.ofBitVec (unpackSign b)) (unpackMantissa b).toNat (-1074)
      else
        signed (Sign.ofBitVec (unpackSign b)) (2 ^ 52 + (unpackMantissa b).toNat)
          ((unpackExponent b).toNat - 1075) := by
  have hbias : ((Format.binary64.exponentBias : Nat) : Int) = 1023 := by decide
  have hones : unpackExponent b = -1#11 ↔ (unpackExponent b).toNat = 2047 := by
    rw [← BitVec.toNat_inj]
    rfl
  have hnone : unpackExponent b = 0#11 ↔ (unpackExponent b).toNat = 0 := by
    rw [← BitVec.toNat_inj]
    rfl
  have hzero : unpackMantissa b = 0#52 ↔ (unpackMantissa b).toNat = 0 := by
    rw [← BitVec.toNat_inj]
    rfl
  simp only [unpack, hones, hnone, hzero, hbias]
  split
  · rfl
  · split
    · next hsub =>
      simp only [hsub, signed]
      rfl
    · have hpos : 2 ^ 52 + (unpackMantissa b).toNat ≠ 0 := by omega
      simp only [signed, dif_neg hpos, toNat_withImplicit]
      rfl

theorem canonical_of_unpack {x : Float} {sign : Sign} {m : Nat} {e : Int} {hpos : 0 < m}
    (h : x.toModel.unpack = .finite sign m e hpos) : Canonical m e ∧ e ≤ 971 := by
  have hm : (@unpackMantissa .binary64 x.toModel.toBits.toBitVec).toNat < 2 ^ 52 :=
    (unpackMantissa _).isLt
  have he : (@unpackExponent .binary64 x.toModel.toBits.toBitVec).toNat < 2 ^ 11 :=
    (unpackExponent _).isLt
  rw [Float.Model.unpack, unpack_eq] at h
  split at h
  · split at h <;> cases h
  · split at h
    · rw [signed] at h
      split at h
      · cases h
      · injection h with _ hm' he'
        exact ⟨⟨by omega, by omega, by omega⟩, by omega⟩
    · rw [signed, dif_neg (by omega)] at h
      injection h with _ hm' he'
      exact ⟨⟨by omega, by omega, by omega⟩, by omega⟩

theorem ofBitVec_unpackSign (sign : Sign) (exponent : BitVec 11) (mantissa : BitVec 52) :
    Sign.ofBitVec (unpackSign (packComponents .binary64 sign exponent mantissa)) = sign := by
  have hs : unpackSign (packComponents .binary64 sign exponent mantissa) = sign.toBitVec := by
    apply BitVec.eq_of_toNat_eq
    have he : exponent.toNat < 2 ^ 11 := exponent.isLt
    have hm : mantissa.toNat < 2 ^ 52 := mantissa.isLt
    rw [toNat_unpackSign, toNat_packComponents]
    omega
  rw [hs]
  cases sign <;> rfl

theorem unpack_pack_notANumber : (Float.Model.pack .notANumber).unpack = .notANumber :=
  rfl

theorem unpack_pack_infinity (sign : Sign) :
    (Float.Model.pack (.infinity sign)).unpack = .infinity sign := by
  cases sign <;> rfl

theorem unpack_pack_signed (sign : Sign) {m : Nat} {e : Int} (h : Canonical m e) :
    (Float.Model.pack (signed sign m e)).unpack =
      if e ≤ 971 then signed sign m e else .infinity sign := by
  show unpack .binary64 (pack .binary64 (signed sign m e)) = _
  obtain ⟨hlow, hlt, hnormal⟩ := h
  by_cases hm : m = 0
  · obtain rfl : e = -1074 := by omega
    subst hm
    cases sign <;> rfl
  have hsigned : signed sign m e = .finite sign m e (Nat.pos_of_ne_zero hm) := by
    rw [signed, dif_neg hm]
  by_cases hsub : m < 2 ^ 52
  · obtain rfl : e = -1074 := by omega
    have hdigits : (BitVec.ofNat 52 m).toNat = m := Nat.mod_eq_of_lt hsub
    rw [hsigned, pack_subnormal sign (Nat.pos_of_ne_zero hm) hsub, unpack_eq,
      unpackExponent_packComponents, unpackMantissa_packComponents, ofBitVec_unpackSign, hdigits,
      hsigned]
    rfl
  by_cases hfits : e ≤ 971
  · obtain ⟨k, rfl⟩ : ∃ k : Nat, e = (k : Int) - 1075 := ⟨(e + 1075).toNat, by omega⟩
    have hk : (BitVec.ofNat 11 k).toNat = k := by
      rw [BitVec.toNat_ofNat]
      omega
    have hdigits : 2 ^ 52 + (BitVec.ofNat 52 m).toNat = m := by
      rw [BitVec.toNat_ofNat]
      omega
    rw [hsigned, pack_normal sign (Nat.pos_of_ne_zero hm) (by omega) hlt (by omega), unpack_eq,
      unpackExponent_packComponents, unpackMantissa_packComponents, ofBitVec_unpackSign, hk,
      hdigits, if_neg (by omega), if_neg (by omega), if_pos hfits, hsigned]
  · have hbias : ((Format.binary64.exponentBias : Nat) : Int) = 1023 := by decide
    have hover : 2 ^ Format.binary64.exponentBits ≤
        (e + Format.binary64.exponentBias +
          Format.binary64.mantissaBitsWithoutImplicit).toNat + 1 := by
      show 2 ^ 11 ≤ (e + Format.binary64.exponentBias + (52 : Nat)).toNat + 1
      omega
    rw [hsigned, if_neg hfits]
    simp only [pack, hover, if_true, packedInfinity, unpack_eq, unpackExponent_packComponents,
      unpackMantissa_packComponents, ofBitVec_unpackSign]
    rfl

end LedgerBench.Decimal
