import LedgerBench.Proofs.Decimal.Sum
import Mathlib.Data.EReal.Operations
import Mathlib.Tactic.Ring

/-! The numbers that doubles stand for, in whose order the doubles are. With the infinities counted
as numbers, only the undefined double stands for none. -/

open Float.Model (UnpackedFloat)
open Float.Model.UnpackedFloat

namespace LedgerBench.Decimal

def rationalOf : UnpackedFloat → Option ℚ
  | .zero _ => some 0
  | .finite sign mantissa exponent _ => some (sign.apply mantissa * 2 ^ exponent)
  | .infinity _ | .notANumber => none

def rational? (x : Float) : Option ℚ :=
  rationalOf x.toModel.unpack

theorem rational?_neg (x : Float) : rational? (-x) = (rational? x).map (-·) := by
  rw [rational?, unpack_neg, rational?]
  cases x.toModel.unpack with
  | notANumber | infinity => rfl
  | zero => simp [UnpackedFloat.neg, rationalOf]
  | finite sign mantissa exponent hpos =>
    have hsign : (-sign).apply mantissa = -sign.apply mantissa := by
      cases sign
      · exact (neg_neg _).symm
      · rfl
    simp [UnpackedFloat.neg, rationalOf, hsign]

theorem rationalOf_signed (sign : Sign) (m : ℕ) (e : ℤ) :
    rationalOf (signed sign m e) = some ((sign.apply m : ℚ) * 2 ^ e) := by
  by_cases hm : m = 0
  · subst hm
    cases sign <;> simp [signed, rationalOf, Sign.apply]
  · rw [signed_of_pos (Nat.pos_of_ne_zero hm)]
    rfl

theorem exists_signed {x : Float} {q : ℚ} (h : rational? x = some q) :
    ∃ sign m e, Canonical m e ∧ e ≤ 971 ∧ x.toModel.unpack = signed sign m e ∧
      q = (sign.apply m : ℚ) * 2 ^ e := by
  rw [rational?] at h
  cases hx : x.toModel.unpack with
  | notANumber | infinity => simp [hx, rationalOf] at h
  | zero sign =>
    rw [hx] at h
    cases h
    exact ⟨sign, 0, -1074, ⟨by norm_num, by norm_num, by simp⟩, by norm_num, rfl,
      by cases sign <;> simp [Sign.apply]⟩
  | finite sign m e hpos =>
    obtain ⟨hcanonical, hfits⟩ := canonical_of_unpack hx
    rw [hx] at h
    cases h
    exact ⟨sign, m, e, hcanonical, hfits, (signed_of_pos hpos sign e).symm, rfl⟩

/-! ### Order -/

theorem value_lt {m m' : ℕ} {e e' : ℤ} (h : Canonical m e) (h' : Canonical m' e') (hlt : e < e') :
    (m : ℚ) * 2 ^ e < m' * 2 ^ e' := by
  have hsmall : (m : ℚ) < 2 ^ 53 := by exact_mod_cast h.mantissa_lt
  have hbig : (2 : ℚ) ^ 52 ≤ m' := by
    exact_mod_cast h'.le_mantissa (by have := h.le_exponent; omega)
  have hpower : (2 : ℚ) ^ (e + 1) ≤ 2 ^ e' := zpow_le_zpow_right₀ (by norm_num) hlt
  calc (m : ℚ) * 2 ^ e < 2 ^ 53 * 2 ^ e := by gcongr
    _ = 2 ^ 52 * 2 ^ (e + 1) := by rw [zpow_add_one₀ (by norm_num)]; ring
    _ ≤ m' * 2 ^ e' := by gcongr

theorem isLE_compare_iff {m m' : ℕ} {e e' : ℤ} (h : Canonical m e) (h' : Canonical m' e') :
    ((compare e e').then (compare m m')).isLE = true ↔ (m : ℚ) * 2 ^ e ≤ m' * 2 ^ e' := by
  rcases lt_trichotomy e e' with hlt | rfl | hlt
  · rw [Int.compare_eq_lt.2 hlt]
    simpa using (value_lt h h' hlt).le
  · rw [Std.ReflOrd.compare_self, Ordering.eq_then, mul_le_mul_iff_left₀ (by positivity),
      Nat.cast_le, Nat.isLE_compare]
  · rw [Int.compare_eq_gt.2 hlt]
    simpa using value_lt h' h hlt

theorem signed_le_iff (s s' : Sign) {m m' : ℕ} {e e' : ℤ} (h : Canonical m e)
    (h' : Canonical m' e') :
    (signed s m e).le (signed s' m' e') = true ↔
      (s.apply m : ℚ) * 2 ^ e ≤ (s'.apply m' : ℚ) * 2 ^ e' := by
  have hle := isLE_compare_iff h h'
  have hge := isLE_compare_iff h' h
  by_cases hm : m = 0 <;> by_cases hm' : m' = 0
  · subst hm hm'
    cases s <;> cases s' <;> simp [signed, Sign.apply, UnpackedFloat.le, UnpackedFloat.compare]
  · have hpos' : (0 : ℚ) < m' * 2 ^ e' := by positivity
    subst hm
    cases s <;> cases s' <;>
      simp [signed, hm', Sign.apply, UnpackedFloat.le, UnpackedFloat.compare, hpos', hpos'.le]
  · have hpos : (0 : ℚ) < m * 2 ^ e := by positivity
    subst hm'
    cases s <;> cases s' <;>
      simp [signed, hm, Sign.apply, UnpackedFloat.le, UnpackedFloat.compare, hpos, hpos.le]
  · have hpos : (0 : ℚ) < m * 2 ^ e := by positivity
    have hpos' : (0 : ℚ) < m' * 2 ^ e' := by positivity
    rw [signed_of_pos (Nat.pos_of_ne_zero hm), signed_of_pos (Nat.pos_of_ne_zero hm')]
    cases s <;> cases s' <;>
      simp only [UnpackedFloat.le, UnpackedFloat.compare, Sign.apply, Option.any_some,
        compare_swap, Int.cast_neg, Int.cast_natCast, neg_mul, neg_le_neg_iff]
    · exact hge
    · simpa using (neg_neg_of_pos hpos).le.trans hpos'.le
    · simpa using (neg_neg_of_pos hpos').trans hpos
    · exact hle

theorem le_iff_rational {x y : Float} {p q : ℚ} (hp : rational? x = some p)
    (hq : rational? y = some q) : x ≤ y ↔ p ≤ q := by
  obtain ⟨s, m, e, h, -, hx, rfl⟩ := exists_signed hp
  obtain ⟨s', m', e', h', -, hy, rfl⟩ := exists_signed hq
  rw [le_iff_unpack, hx, hy, signed_le_iff s s' h h']

theorem rational?_zero : rational? 0 = some 0 := by
  rw [rational?, unpack_zero]
  rfl

theorem zero_le_of_rational {x : Float} {q : ℚ} (h : rational? x = some q) (hq : 0 ≤ q) : 0 ≤ x :=
  (le_iff_rational rational?_zero h).2 hq

/-! ### Infinities -/

/-- The number that a double stands for, among the real numbers and the two infinities. -/
noncomputable def extended? (x : Float) : Option EReal :=
  match x.toModel.unpack with
  | .infinity .positive => some ⊤
  | .infinity .negative => some ⊥
  | u => (rationalOf u).map fun q => ((q : ℝ) : EReal)

theorem extended?_of_rational {x : Float} {q : ℚ} (h : rational? x = some q) :
    extended? x = some ((q : ℝ) : EReal) := by
  rw [rational?] at h
  cases hx : x.toModel.unpack with
  | notANumber | infinity => simp [hx, rationalOf] at h
  | zero | finite =>
    rw [hx] at h
    simp [extended?, hx, h]

/-- What a double may be, and what it stands for. -/
inductive Kind (x : Float) : Prop where
  | undefined (h : x.toModel.unpack = .notANumber) (value : extended? x = none)
  | top (h : x.toModel.unpack = .infinity .positive) (value : extended? x = some ⊤)
  | bottom (h : x.toModel.unpack = .infinity .negative) (value : extended? x = some ⊥)
  | rational {q : ℚ} (h : rational? x = some q) (value : extended? x = some ((q : ℝ) : EReal))

theorem kind (x : Float) : Kind x := by
  cases hx : x.toModel.unpack with
  | notANumber => exact .undefined hx (by simp [extended?, hx, rationalOf])
  | infinity sign =>
    cases sign with
    | negative => exact .bottom hx (by simp [extended?, hx])
    | positive => exact .top hx (by simp [extended?, hx])
  | zero | finite =>
    have h : rational? x = some _ := congrArg rationalOf hx
    exact .rational h (extended?_of_rational h)

theorem extended?_neg (x : Float) : extended? (-x) = (extended? x).map (-·) := by
  cases kind x with
  | undefined h value => simp [extended?, unpack_neg, h, UnpackedFloat.neg, rationalOf]
  | top h value => simp [extended?, unpack_neg, h, UnpackedFloat.neg]
  | bottom h value => simp [extended?, unpack_neg, h, UnpackedFloat.neg]
  | @rational q h value =>
    have hneg : rational? (-x) = some (-q) := by rw [rational?_neg, h, Option.map_some]
    rw [value, extended?_of_rational hneg]
    simp

theorem extended?_ne_bot {x : Float} (hpos : 0 < x) : extended? x ≠ some ⊥ := by
  intro hx
  cases kind x with
  | bottom h =>
    rw [lt_iff_unpack, unpack_zero, h] at hpos
    cases hpos
  | undefined _ value | top _ value | rational _ value => simp [value] at hx

theorem le_notANumber (u : UnpackedFloat) :
    u.le .notANumber = false ∧ UnpackedFloat.le .notANumber u = false := by
  cases u <;> exact ⟨rfl, rfl⟩

theorem infinity_le_infinity (s s' : Sign) :
    (UnpackedFloat.infinity s).le (.infinity s') = true ↔ s = .negative ∨ s' = .positive := by
  cases s <;> cases s' <;> simp [UnpackedFloat.le, UnpackedFloat.compare] <;> decide

theorem signed_le_infinity (s sign : Sign) (m : ℕ) (e : ℤ) :
    ((signed s m e).le (.infinity sign) = true ↔ sign = .positive) ∧
      ((UnpackedFloat.infinity sign).le (signed s m e) = true ↔ sign = .negative) := by
  unfold signed
  cases sign <;> split <;> simp [UnpackedFloat.le, UnpackedFloat.compare]

/-- The order of doubles is that of the numbers they stand for, and the undefined one has no place
in it. -/
theorem le_iff_extended (x y : Float) :
    x ≤ y ↔ ∃ a b, extended? x = some a ∧ extended? y = some b ∧ a ≤ b := by
  cases kind x with
  | undefined hx value => simp [le_iff_unpack, hx, value, le_notANumber]
  | top hx value | bottom hx value =>
    cases kind y with
    | undefined hy value' => simp [le_iff_unpack, hy, value', le_notANumber]
    | top hy value' | bottom hy value' =>
      simp [le_iff_unpack, hx, hy, value, value', infinity_le_infinity]
    | rational hrational value' =>
      obtain ⟨s, m, e, -, -, hy, -⟩ := exists_signed hrational
      simp [le_iff_unpack, hx, hy, value, value', signed_le_infinity]
  | rational hrational value =>
    cases kind y with
    | undefined hy value' => simp [le_iff_unpack, hy, value', le_notANumber]
    | top hy value' | bottom hy value' =>
      obtain ⟨s, m, e, -, -, hx, -⟩ := exists_signed hrational
      simp [le_iff_unpack, hx, hy, value, value', signed_le_infinity]
    | rational hrational' value' => simp [le_iff_rational hrational hrational', value, value']

theorem le_trans {x y z : Float} (h : x ≤ y) (h' : y ≤ z) : x ≤ z := by
  obtain ⟨a, b, hx, hy, hab⟩ := (le_iff_extended x y).1 h
  obtain ⟨b', c, hy', hz, hbc⟩ := (le_iff_extended y z).1 h'
  obtain rfl := Option.some.inj (hy.symm.trans hy')
  exact (le_iff_extended x z).2 ⟨a, c, hx, hz, hab.trans hbc⟩

theorem compare_comm (u w : UnpackedFloat) : w.compare u = (u.compare w).map Ordering.swap := by
  cases u with
  | notANumber => cases w <;> rfl
  | infinity s =>
    cases s <;> cases w with
    | infinity s' => cases s' <;> rfl
    | _ => rfl
  | zero s =>
    cases w with
    | infinity s' | finite s' => cases s' <;> rfl
    | _ => rfl
  | finite s m e hpos =>
    cases s <;> cases w with
    | infinity s' => cases s' <;> rfl
    | finite s' m' e' hpos' =>
      cases s'
      all_goals first
        | rfl
        | exact congrArg some (compare_swap ..).symm
        | exact congrArg some (congrArg Ordering.swap (compare_swap ..).symm)
    | _ => rfl

/-- One double is less than another if it is at most as much, and not the other way round. -/
theorem lt_iff_le_not_ge (x y : Float) : x < y ↔ x ≤ y ∧ ¬y ≤ x := by
  rw [lt_iff_unpack, le_iff_unpack, le_iff_unpack, UnpackedFloat.lt, UnpackedFloat.le,
    UnpackedFloat.le, compare_comm x.toModel.unpack]
  cases x.toModel.unpack.compare y.toModel.unpack with
  | none => simp
  | some order => cases order <;> simp

theorem lt_iff_extended (x y : Float) :
    x < y ↔ ∃ a b, extended? x = some a ∧ extended? y = some b ∧ a < b := by
  rw [lt_iff_le_not_ge, le_iff_extended, le_iff_extended]
  constructor
  · rintro ⟨⟨a, b, hx, hy, -⟩, hnot⟩
    exact ⟨a, b, hx, hy, not_le.1 fun hle => hnot ⟨b, a, hy, hx, hle⟩⟩
  · rintro ⟨a, b, hx, hy, hlt⟩
    refine ⟨⟨a, b, hx, hy, hlt.le⟩, ?_⟩
    rintro ⟨b', a', hy', hx', hle⟩
    rw [hx, Option.some.injEq] at hx'
    rw [hy, Option.some.injEq] at hy'
    exact hle.not_gt (hx' ▸ hy' ▸ hlt)

theorem extended?_zero : extended? 0 = some 0 := by
  simp [extended?, unpack_zero, rationalOf]

theorem zero_le_neg {v : Float} (h : v ≤ 0) : 0 ≤ -v := by
  obtain ⟨a, b, hv, hzero, hle⟩ := (le_iff_extended v 0).1 h
  rw [extended?_zero] at hzero
  cases hzero
  refine (le_iff_extended 0 (-v)).2 ⟨0, -a, extended?_zero, ?_, ?_⟩
  · rw [extended?_neg, hv, Option.map_some]
  · simpa using hle

theorem not_sub_lt {v : Float} (h : v ≤ 0) (x : Float) : ¬x - v < x := by
  have hsub : (x - v).toModel =
      Float.Model.pack (sub .binary64 x.toModel.unpack v.toModel.unpack) := rfl
  have htoward := (toward_of_nonneg (zero_le_neg h)).1
  rw [unpack_neg] at htoward
  rw [lt_iff_unpack, Bool.not_eq_true, hsub, sub_eq_add_neg]
  exact add_past x htoward

theorem extended?_sub_undefined {x y : Float} (h : extended? x = none ∨ extended? y = none) :
    extended? (x - y) = none := by
  have hsub : (x - y).toModel =
      Float.Model.pack (sub .binary64 x.toModel.unpack y.toModel.unpack) := rfl
  have hnone {z : Float} (hz : extended? z = none) : z.toModel.unpack = .notANumber := by
    cases kind z with
    | undefined h => exact h
    | top _ value | bottom _ value | rational _ value => simp [hz] at value
  have hundefined : sub .binary64 x.toModel.unpack y.toModel.unpack = .notANumber := by
    rcases h with h | h
    · rw [hnone h]
      rfl
    · rw [hnone h]
      cases x.toModel.unpack <;> rfl
  rw [extended?, hsub, hundefined, unpack_pack_notANumber]
  rfl

theorem not_sub_neg {x v : Float} (hx : ¬x < 0) (hv : v ≤ 0) : ¬x - v < 0 := by
  intro hlt
  obtain ⟨a, b, ha, hzero, hab⟩ := (lt_iff_extended (x - v) 0).1 hlt
  cases hvalue : extended? x with
  | none =>
    rw [extended?_sub_undefined (.inl hvalue)] at ha
    cases ha
  | some c =>
    have hc : ¬c < b := fun hcb => hx ((lt_iff_extended x 0).2 ⟨c, b, hvalue, hzero, hcb⟩)
    exact not_sub_lt hv x ((lt_iff_extended (x - v) x).2
      ⟨a, c, ha, hvalue, hab.trans_le (not_lt.1 hc)⟩)

theorem not_pos_zero_sub {x : Float} (hx : ¬x < 0) : ¬0 < 0 - x := by
  cases hvalue : extended? x with
  | none =>
    intro hlt
    obtain ⟨-, b, -, hb, -⟩ := (lt_iff_extended 0 (0 - x)).1 hlt
    rw [extended?_sub_undefined (.inr hvalue)] at hb
    cases hb
  | some c =>
    have hc : ¬c < 0 := fun hneg =>
      hx ((lt_iff_extended x 0).2 ⟨c, 0, hvalue, extended?_zero, hneg⟩)
    exact not_lt_sub ((le_iff_extended 0 x).2 ⟨0, c, extended?_zero, hvalue, not_lt.1 hc⟩) 0

end LedgerBench.Decimal
