import LedgerBench.Decimal.Binary

/-! The order of doubles. It is that of the numbers that their bits stand for, so it can be read off
the unpacked forms. -/

open Float.Model (UnpackedFloat)

namespace LedgerBench.Decimal

theorem lt_iff_unpack (x y : Float) :
    x < y ↔ x.toModel.unpack.lt y.toModel.unpack = true := by
  show x.lt y = true ↔ _
  rw [Float.lt, decide_eq_true_iff]
  rfl

theorem le_iff_unpack (x y : Float) :
    x ≤ y ↔ x.toModel.unpack.le y.toModel.unpack = true := by
  show x.le y = true ↔ _
  rw [Float.le, decide_eq_true_iff]
  rfl

theorem unpack_zero : (0 : Float).toModel.unpack = .zero .positive := by
  have hbits : (0 : Float).toModel.toBits = 0 := by decide +kernel
  rw [Float.Model.unpack, hbits]
  rfl

theorem not_le_zero_of_pos {x : Float} (h : 0 < x) : ¬x ≤ 0 := by
  rw [lt_iff_unpack, unpack_zero] at h
  rw [le_iff_unpack, unpack_zero]
  generalize x.toModel.unpack = u at h ⊢
  have hcompare : u.compare (.zero .positive) = some .gt := by
    cases u with
    | infinity sign =>
      cases sign with
      | positive => rfl
      | negative => cases h
    | notANumber => cases h
    | zero sign => cases h
    | finite sign mantissa exponent hpos =>
      cases sign with
      | positive => rfl
      | negative => cases h
  simp [UnpackedFloat.le, hcompare]

end LedgerBench.Decimal
