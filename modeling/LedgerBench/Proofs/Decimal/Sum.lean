import LedgerBench.Proofs.Decimal.Canonical
import LedgerBench.Proofs.Decimal.Order

/-! Sums of doubles. A sum is the exact one rounded, so that a sum with something that is not
negative is not less than before, and a difference is not more. -/

open Float.Model (Format UnpackedFloat)
open Float.Model.UnpackedFloat

namespace LedgerBench.Decimal

/-- A number that is not short of another one in the direction of a sign. -/
def Past : Sign → UnpackedFloat → UnpackedFloat → Prop
  | .positive, u, w => u.lt w = false
  | .negative, u, w => w.lt u = false

theorem Past.refl (sign : Sign) (u : UnpackedFloat) : Past sign u u := by
  have hself : u.lt u = false := by
    cases u with
    | infinity s => cases s <;> rfl
    | notANumber => rfl
    | zero s => rfl
    | finite s m e hpos => cases s <;> simp [UnpackedFloat.lt, UnpackedFloat.compare]
  cases sign <;> exact hself

theorem compare_swap (m m' : Nat) (e e' : Int) :
    ((compare e e').then (compare m m')).swap = (compare e' e).then (compare m' m) := by
  rw [Ordering.swap_then, ← Std.OrientedOrd.eq_swap, ← Std.OrientedOrd.eq_swap]

theorem signed_past {m m' : Nat} {e e' : Int} (sign : Sign) (hm : Canonical m e)
    (hm' : Canonical m' e') (h : Below m e m' e') :
    Past sign (signed sign m' e') (signed sign m e) ∧
      Past sign (signed (-sign) m e) (signed (-sign) m' e') := by
  have hlt := hm'.mantissa_lt
  have hlow := hm.le_exponent
  have hnormal := hm'.le_mantissa
  have hup : (compare e' e).then (compare m' m) ≠ .lt := by
    rcases h with h | ⟨rfl, h⟩
    · rw [Int.compare_eq_gt.2 h]
      simp
    · rw [Std.ReflOrd.compare_self]
      simpa using Nat.compare_ne_lt.2 h
  have hdown : ((compare e e').then (compare m m')).swap ≠ .lt := by
    rwa [compare_swap]
  by_cases hz' : m' = 0
  · have hz : m = 0 := by
      unfold Below at h
      omega
    subst hz hz'
    cases sign <;> exact ⟨rfl, rfl⟩
  · by_cases hz : m = 0
    · cases sign <;> simp only [signed, hz, hz', dite_true, dite_false] <;> exact ⟨rfl, rfl⟩
    · have hle : (UnpackedFloat.finite .positive m' e' (Nat.pos_of_ne_zero hz')).lt
          (.finite .positive m e (Nat.pos_of_ne_zero hz)) = false := by
        simpa [UnpackedFloat.lt, UnpackedFloat.compare] using hup
      have hge : (UnpackedFloat.finite .negative m e (Nat.pos_of_ne_zero hz)).lt
          (.finite .negative m' e' (Nat.pos_of_ne_zero hz')) = false := by
        simpa [UnpackedFloat.lt, UnpackedFloat.compare] using hdown
      cases sign <;> simp only [signed, hz, hz', dite_false]
      · exact ⟨hge, hle⟩
      · exact ⟨hle, hge⟩

theorem past_across (sign : Sign) (m m' : Nat) (e e' : Int) :
    Past sign (signed sign m e) (signed (-sign) m' e') := by
  cases sign <;> simp only [signed] <;> split <;> split <;> rfl

theorem past_infinity (sign s : Sign) (m : Nat) (e : Int) :
    Past sign (.infinity sign) (signed s m e) := by
  cases sign <;> simp only [signed] <;> split <;> rfl

theorem Past.packed {sign s : Sign} {m m' : Nat} {e e' : Int} (hm' : Canonical m' e')
    (h : Past sign (signed sign m' e') (signed s m e)) :
    Past sign (Float.Model.pack (signed sign m' e')).unpack (signed s m e) := by
  rw [unpack_pack_signed sign hm']
  split
  · exact h
  · exact past_infinity ..

theorem normalize_apply (sign zero : Sign) {N : Nat} (hN : N ≠ 0) (e : Int) :
    UnpackedFloat.normalize .binary64 (sign.apply N) e zero = UnpackedFloat.round .binary64 sign N e := by
  cases sign with
  | negative =>
    have hneg : compare (-(N : Int)) 0 = .lt := Int.compare_eq_lt.2 (by omega)
    simp only [UnpackedFloat.normalize, Sign.apply, hneg, neg_neg, Int.toNat_natCast]
  | positive =>
    have hpos : compare (N : Int) 0 = .gt := Int.compare_eq_gt.2 (by omega)
    simp only [UnpackedFloat.normalize, Sign.apply, hpos, Int.toNat_natCast]

/-- Two finite numbers added, as a sum of two numbers of the smaller one of their last places. -/
theorem add_finite (s₁ s₂ : Sign) {m₁ m₂ : Nat} (e₁ e₂ : Int) (h₁ : 0 < m₁) (h₂ : 0 < m₂) :
    ∃ e, ∃ j₁ j₂ : Nat, e₁ = e + j₁ ∧ e₂ = e + j₂ ∧ (e = e₁ ∨ e = e₂) ∧
      add .binary64 (.finite s₁ m₁ e₁ h₁) (.finite s₂ m₂ e₂ h₂) =
        UnpackedFloat.normalize .binary64 (s₁.apply (m₁ * 2 ^ j₁ : Nat) + s₂.apply (m₂ * 2 ^ j₂ : Nat)) e
          .positive := by
  refine ⟨min e₁ e₂, (e₁ - min e₁ e₂).toNat, (e₂ - min e₁ e₂).toNat, by omega, by omega, by omega,
    ?_⟩
  simp only [add, decreaseExponent, Nat.shiftLeft_eq]

/-- A sum of finite numbers lies on the side of the second one, seen from the first one. -/
theorem add_finite_past (s sign : Sign) {m₁ m₂ : Nat} {e₁ e₂ : Int} (h₁ : 0 < m₁) (h₂ : 0 < m₂)
    (hc₁ : Canonical m₁ e₁) (hc₂ : Canonical m₂ e₂) (hfits : e₁ ≤ 971) :
    Past sign (Float.Model.pack
      (add .binary64 (.finite s m₁ e₁ h₁) (.finite sign m₂ e₂ h₂))).unpack (signed s m₁ e₁) := by
  obtain ⟨e, j₁, j₂, rfl, rfl, hmin, hadd⟩ := add_finite s sign e₁ e₂ h₁ h₂
  have he : -1074 ≤ e := by
    have := hc₁.le_exponent
    have := hc₂.le_exponent
    omega
  have hA : 0 < m₁ * 2 ^ j₁ := by positivity
  have hB : 0 < m₂ * 2 ^ j₂ := by positivity
  rw [hadd]
  generalize hAeq : m₁ * 2 ^ j₁ = A at hA ⊢
  generalize m₂ * 2 ^ j₂ = B at hB ⊢
  by_cases hs : s = sign
  · subst hs
    have hsum : s.apply (A : Nat) + s.apply (B : Nat) = s.apply ((A + B : Nat) : Int) := by
      cases s <;> simp only [Sign.apply] <;> omega
    obtain ⟨m, k, hr, hround⟩ := round_rounded s (N := A + B) (by omega) he
    rw [hsum, normalize_apply s _ (by omega), hround]
    have hbelow := hr.above m₁ j₁ hc₁ (by omega)
    exact (signed_past s hc₁ hr.canonical hbelow).1.packed hr.canonical
  · obtain rfl : s = -sign := by cases s <;> cases sign <;> first | rfl | exact absurd rfl hs
    rcases Nat.lt_trichotomy A B with hlt | rfl | hlt
    · have hsum : (-sign).apply (A : Nat) + sign.apply (B : Nat) =
          sign.apply ((B - A : Nat) : Int) := by
        cases sign <;> simp only [Sign.apply] <;> omega
      obtain ⟨m, k, hr, hround⟩ := round_rounded sign (N := B - A) (by omega) he
      rw [hsum, normalize_apply sign _ (by omega), hround]
      exact (past_across ..).packed hr.canonical
    · have hsum : (-sign).apply (A : Nat) + sign.apply (A : Nat) = 0 := by
        cases sign <;> simp only [Sign.apply] <;> omega
      have hzero : UnpackedFloat.normalize .binary64 0 e .positive = .zero .positive := rfl
      rw [hsum, hzero, signed_of_pos h₁]
      cases sign <;> rfl
    · have hsum : (-sign).apply (A : Nat) + sign.apply (B : Nat) =
          (-sign).apply ((A - B : Nat) : Int) := by
        cases sign <;> simp only [Sign.apply] <;> omega
      obtain ⟨m, k, hr, hround⟩ := round_rounded (-sign) (N := A - B) (by omega) he
      have hbelow := hr.below m₁ j₁ hc₁ (by omega)
      have hk : k ≤ 971 := by
        unfold Below at hbelow
        omega
      rw [hsum, normalize_apply (-sign) _ (by omega), hround, unpack_pack_signed _ hr.canonical,
        if_pos hk]
      exact (signed_past sign hr.canonical hc₁ hbelow).2

/-- A number that is zero or has a sign. -/
inductive Toward (sign : Sign) : UnpackedFloat → Prop where
  | zero (s : Sign) : Toward sign (.zero s)
  | infinity : Toward sign (.infinity sign)
  | finite {m : Nat} {e : Int} (hpos : 0 < m) (h : Canonical m e) :
      Toward sign (.finite sign m e hpos)

theorem add_past (x : Float) {sign : Sign} {w : UnpackedFloat} (hw : Toward sign w) :
    Past sign (Float.Model.pack (add .binary64 x.toModel.unpack w)).unpack x.toModel.unpack := by
  cases hu : x.toModel.unpack with
  | notANumber =>
    have hadd : add .binary64 .notANumber w = .notANumber := by cases hw <;> rfl
    rw [hadd, unpack_pack_notANumber]
    exact Past.refl ..
  | infinity s =>
    have hadd : add .binary64 (.infinity s) w = .infinity s ∨
        add .binary64 (.infinity s) w = .notANumber := by
      cases hw with
      | zero _ => exact .inl rfl
      | infinity => cases s <;> cases sign <;> first | exact .inl rfl | exact .inr rfl
      | finite _ _ => exact .inl rfl
    rcases hadd with hadd | hadd
    · rw [hadd, unpack_pack_infinity]
      exact Past.refl ..
    · rw [hadd, unpack_pack_notANumber]
      cases sign <;> cases s <;> rfl
  | zero s =>
    have hzero : UnpackedFloat.zero s = signed s 0 (-1074) := rfl
    cases hw with
    | zero s' => cases sign <;> cases s <;> cases s' <;> rfl
    | infinity =>
      rw [show add .binary64 (.zero s) (.infinity sign) = .infinity sign from rfl,
        unpack_pack_infinity, hzero]
      exact past_infinity ..
    | @finite m e hpos h =>
      have hadd : add .binary64 (.zero s) (.finite sign m e hpos) = signed sign m e := by
        rw [signed_of_pos hpos]
        rfl
      rw [hadd, hzero]
      refine Past.packed h ?_
      cases sign <;> rw [signed_of_pos hpos] <;> rfl
  | finite s m e hpos =>
    obtain ⟨hc, hfits⟩ := canonical_of_unpack hu
    cases hw with
    | zero s' =>
      have hadd : add .binary64 (.finite s m e hpos) (.zero s') = signed s m e :=
        (signed_of_pos hpos ..).symm
      rw [hadd, unpack_pack_signed s hc, if_pos hfits, ← signed_of_pos hpos]
      exact Past.refl ..
    | infinity =>
      have hadd : add .binary64 (.finite s m e hpos) (.infinity sign) = .infinity sign := rfl
      rw [hadd, unpack_pack_infinity, ← signed_of_pos hpos]
      exact past_infinity ..
    | finite hpos' h =>
      have hpast := add_finite_past s sign hpos hpos' hc h hfits
      rwa [signed_of_pos hpos] at hpast

theorem toward_of_nonneg {v : Float} (h : 0 ≤ v) :
    Toward .positive v.toModel.unpack ∧ Toward .negative v.toModel.unpack.neg := by
  rw [le_iff_unpack, unpack_zero] at h
  cases hu : v.toModel.unpack with
  | notANumber =>
    rw [hu] at h
    cases h
  | infinity s =>
    cases s with
    | negative =>
      rw [hu] at h
      cases h
    | positive => exact ⟨.infinity, .infinity⟩
  | zero s => exact ⟨.zero s, .zero (-s)⟩
  | finite s m e hpos =>
    have hc := (canonical_of_unpack hu).1
    cases s with
    | negative =>
      rw [hu] at h
      cases h
    | positive => exact ⟨.finite hpos hc, .finite hpos hc⟩

theorem sub_eq_add_neg (u w : UnpackedFloat) :
    sub .binary64 u w = add .binary64 u w.neg := by
  cases u with
  | notANumber => cases w <;> rfl
  | infinity s => cases w <;> rfl
  | zero s => cases w <;> rfl
  | finite s m e hpos =>
    cases w with
    | notANumber => rfl
    | infinity s' => rfl
    | zero s' => rfl
    | finite s' m' e' hpos' =>
      have hsign : ∀ n : Int, (-s').apply n = -s'.apply n := by
        intro n
        cases s'
        · exact (neg_neg n).symm
        · rfl
      simp only [sub, neg, add, decreaseExponent, hsign, Int.sub_eq_add_neg]

theorem not_add_lt {v : Float} (h : 0 ≤ v) (x : Float) : ¬x + v < x := by
  rw [lt_iff_unpack, Bool.not_eq_true]
  exact add_past x (toward_of_nonneg h).1

theorem not_lt_sub {v : Float} (h : 0 ≤ v) (x : Float) : ¬x < x - v := by
  have hsub : (x - v).toModel =
      Float.Model.pack (sub .binary64 x.toModel.unpack v.toModel.unpack) := rfl
  rw [lt_iff_unpack, Bool.not_eq_true, hsub, sub_eq_add_neg]
  exact add_past x (toward_of_nonneg h).2

theorem unpack_neg (x : Float) : (-x).toModel.unpack = x.toModel.unpack.neg := by
  have hneg : (-x).toModel = Float.Model.pack x.toModel.unpack.neg := rfl
  rw [hneg]
  cases hu : x.toModel.unpack with
  | notANumber => rfl
  | infinity s => exact unpack_pack_infinity (-s)
  | zero s => cases s <;> rfl
  | finite s m e hpos =>
    obtain ⟨hc, hfits⟩ := canonical_of_unpack hu
    have hkeep := unpack_pack_signed (-s) hc
    rwa [if_pos hfits, signed_of_pos hpos] at hkeep

theorem lt_neg_neg (u w : UnpackedFloat) : u.neg.lt w.neg = w.lt u := by
  have hswap : u.neg.compare w.neg = w.compare u := by
    cases u with
    | notANumber => cases w <;> rfl
    | infinity s => cases s <;> cases w with
      | infinity s' => cases s' <;> rfl
      | finite s' => cases s' <;> rfl
      | _ => rfl
    | zero s => cases w with
      | infinity s' => cases s' <;> rfl
      | finite s' => cases s' <;> rfl
      | _ => rfl
    | finite s m e hpos => cases s <;> cases w with
      | infinity s' => cases s' <;> rfl
      | finite s' m' e' hpos' =>
        cases s'
        all_goals first
          | rfl
          | exact congrArg some (compare_swap ..)
          | exact congrArg some (compare_swap ..).symm
      | _ => rfl
  rw [UnpackedFloat.lt, hswap, UnpackedFloat.lt]

theorem neg_lt_neg_iff (x y : Float) : -x < -y ↔ y < x := by
  rw [lt_iff_unpack, lt_iff_unpack, unpack_neg, unpack_neg, lt_neg_neg]

end LedgerBench.Decimal
