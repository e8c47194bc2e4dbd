import LedgerBench.Decimal.Binary
import LedgerBench.Decimal.Nearest
import Mathlib

/-! Doubles and their bits. A double is its bits, and the bits of a finite one say its sign, its
mantissa and the place of the last binary digit. -/

open Float.Model (Format)
open Float.Model.UnpackedFloat

namespace LedgerBench.Decimal

theorem toNat_unpackMantissa (b : BitVec Format.binary64.numBits) :
    (unpackMantissa b).toNat = b.toNat % 2 ^ 52 := by
  simp only [unpackMantissa, BitVec.toNat_cast, BitVec.extractLsb_toNat, Nat.shiftRight_zero]

theorem toNat_unpackExponent (b : BitVec Format.binary64.numBits) :
    (unpackExponent b).toNat = b.toNat / 2 ^ 52 % 2 ^ 11 := by
  simp only [unpackExponent, BitVec.toNat_cast, BitVec.extractLsb_toNat, Nat.shiftRight_eq_div_pow]

theorem toNat_unpackSign (b : BitVec Format.binary64.numBits) :
    (unpackSign b).toNat = b.toNat / 2 ^ 63 := by
  have hb : b.toNat < 2 ^ 64 := b.isLt
  simp only [unpackSign, BitVec.toNat_cast, BitVec.extractLsb_toNat, Nat.shiftRight_eq_div_pow]
  omega

theorem toNat_packComponents (sign : Sign) (exponent : BitVec 11) (mantissa : BitVec 52) :
    (packComponents Format.binary64 sign exponent mantissa).toNat =
      sign.toBitVec.toNat * 2 ^ 63 + exponent.toNat * 2 ^ 52 + mantissa.toNat := by
  have he : exponent.toNat < 2 ^ 11 := exponent.isLt
  have hm : mantissa.toNat < 2 ^ 52 := mantissa.isLt
  have h1 := Nat.shiftLeft_add_eq_or_of_lt he sign.toBitVec.toNat
  have h2 := Nat.shiftLeft_add_eq_or_of_lt hm (sign.toBitVec.toNat <<< 11 + exponent.toNat)
  simp only [packComponents]
  rw [BitVec.toNat_append, BitVec.toNat_append, ← h1, ← h2]
  simp only [Nat.shiftLeft_eq]
  ring

theorem packComponents_unpack (b : BitVec Format.binary64.numBits) :
    packComponents Format.binary64 (Sign.ofBitVec (unpackSign b)) (unpackExponent b)
      (unpackMantissa b) = b := by
  have hs : (Sign.ofBitVec (unpackSign b)).toBitVec = unpackSign b := by
    generalize unpackSign b = s
    revert s
    decide
  have hb : b.toNat < 2 ^ 64 := b.isLt
  apply BitVec.eq_of_toNat_eq
  rw [toNat_packComponents, hs, toNat_unpackSign, toNat_unpackExponent, toNat_unpackMantissa]
  omega

theorem pack_subnormal (sign : Sign) {m : Nat} (hpos : 0 < m) (hm : m < 2 ^ 52) :
    pack Format.binary64 (.finite sign m (-1074) hpos) =
      packComponents Format.binary64 sign 0#11 (BitVec.ofNat 52 m) := by
  have hlog : m.log2 < 52 := (Nat.log2_lt (by omega)).2 hm
  have hbits : m.log2 + 1 ≠ Format.binary64.mantissaBits := by
    simp only [Format.mantissaBits]
    omega
  simp only [pack, hbits, if_false]
  rfl

theorem pack_normal (sign : Sign) {m k : Nat} (hpos : 0 < m) (hlow : 2 ^ 52 ≤ m) (hm : m < 2 ^ 53)
    (hk : k < 2047) :
    pack Format.binary64 (.finite sign m ((k : Int) - 1075) hpos) =
      packComponents Format.binary64 sign (BitVec.ofNat 11 k) (BitVec.ofNat 52 m) := by
  have hlog : m.log2 = 52 := (Nat.log2_eq_iff (by omega)).2 ⟨hlow, hm⟩
  have hbias : ((k : Int) - 1075 + Format.binary64.exponentBias +
      Format.binary64.mantissaBitsWithoutImplicit).toNat = k := by
    simp only [Format.exponentBias]
    omega
  simp only [pack, hlog, hbias]
  rw [if_neg (by show ¬ 2 ^ 11 ≤ k + 1; omega)]
  rfl

theorem pack_unpack {b : BitVec Format.binary64.numBits} (h : Format.binary64.Valid b) :
    pack Format.binary64 (unpack Format.binary64 b) = b := by
  have hh := packComponents_unpack b
  have hbias : ((Format.binary64.exponentBias : Nat) : Int) = 1023 := by decide
  have hman : (unpackMantissa b).toNat < 2 ^ 52 := (unpackMantissa b).isLt
  have hexp : (unpackExponent b).toNat < 2 ^ 11 := (unpackExponent b).isLt
  simp only [unpack]
  split
  · next hones =>
    split
    · next hzero => rwa [hones, hzero] at hh
    · next hzero => exact (h.eq_packedNaN hones hzero).symm
  · next hones =>
    split
    · next hsub =>
      split
      · next hzero => rwa [hsub, hzero] at hh
      · next hzero =>
        have hpos : 0 < (unpackMantissa b).toNat := by
          simpa [BitVec.toNat_pos, BitVec.pos_iff_ne_zero] using hzero
        have he := pack_subnormal (Sign.ofBitVec (unpackSign b)) hpos hman
        rw [BitVec.ofNat_toNat, BitVec.setWidth_eq, ← hsub, hh] at he
        have hexponent : ((unpackExponent b).toNat : Int) - (Format.binary64.exponentBias +
            Format.binary64.mantissaBitsWithoutImplicit) + 1 = -1074 := by
          rw [hsub, hbias]
          rfl
        simpa only [hexponent] using he
    · next hsub =>
      have hk : (unpackExponent b).toNat ≠ 2047 := fun hk =>
        hones (BitVec.eq_of_toNat_eq hk)
      have hm : (1#1 ++ unpackMantissa b).toNat = 2 ^ 52 + (unpackMantissa b).toNat := by
        have h1 := Nat.shiftLeft_add_eq_or_of_lt hman 1
        rw [BitVec.toNat_append]
        exact h1.symm
      have he := pack_normal (Sign.ofBitVec (unpackSign b))
        (m := (1#1 ++ unpackMantissa b).toNat) (k := (unpackExponent b).toNat)
        (by omega) (by omega) (by omega) (by omega)
      have hlow : BitVec.ofNat 52 (1#1 ++ unpackMantissa b).toNat = unpackMantissa b := by
        apply BitVec.eq_of_toNat_eq
        rw [BitVec.toNat_ofNat, hm]
        omega
      rw [hlow, BitVec.ofNat_toNat, BitVec.setWidth_eq, hh] at he
      have hexponent : ((unpackExponent b).toNat : Int) - (Format.binary64.exponentBias +
          Format.binary64.mantissaBitsWithoutImplicit) = (unpackExponent b).toNat - 1075 := by
        rw [hbias]
        rfl
      simpa only [hexponent] using he

theorem ofBits_toBits (x : Float) : Float.ofBits x.toBits = x := by
  obtain ⟨⟨bits, hvalid⟩⟩ := x
  have hh := pack_unpack hvalid
  simp only [Float.ofBits, Float.toBits, Float.Model.ofBits, Float.Model.pack, hh]

/-! ### The bits of a double -/

def exponentField (x : Float) : Nat :=
  x.toBits.toNat / 2 ^ 52 % 2 ^ 11

theorem unpackExponent_eq_ones (x : Float) :
    @unpackExponent .binary64 x.toBits.toBitVec = -1 ↔ exponentField x = 2047 := by
  rw [← BitVec.toNat_inj, toNat_unpackExponent]
  rfl

theorem unpackMantissa_eq_zero (x : Float) :
    @unpackMantissa .binary64 x.toBits.toBitVec = 0 ↔ x.toBits.toNat % 2 ^ 52 = 0 := by
  rw [← BitVec.toNat_inj, toNat_unpackMantissa]
  rfl

theorem isNaN_iff (x : Float) :
    x.isNaN = true ↔ exponentField x = 2047 ∧ ¬x.toBits.toNat % 2 ^ 52 = 0 := by
  rw [← unpackExponent_eq_ones, ← unpackMantissa_eq_zero]
  show (unpack .binary64 x.toBits.toBitVec).isNaN = true ↔ _
  simp only [unpack]
  split
  · next hones => split <;> simp_all [isNaN]
  · next hones =>
    split
    · split <;> simp_all [isNaN]
    · simp_all [isNaN]

theorem isInf_iff (x : Float) :
    x.isInf = true ↔ exponentField x = 2047 ∧ x.toBits.toNat % 2 ^ 52 = 0 := by
  rw [← unpackExponent_eq_ones, ← unpackMantissa_eq_zero]
  show (unpack .binary64 x.toBits.toBitVec).isInf = true ↔ _
  simp only [unpack]
  split
  · next hones => split <;> simp_all [isInf]
  · next hones =>
    split
    · split <;> simp_all [isInf]
    · simp_all [isInf]

theorem eq_of_isNaN {x y : Float} (hx : x.isNaN = true) (hy : y.isNaN = true) : x = y := by
  have hbits : ∀ z : Float, z.isNaN = true → z.toBits.toBitVec = packedNaN .binary64 := by
    intro z hz
    obtain ⟨hones, hzero⟩ := (isNaN_iff z).1 hz
    exact z.toModel.valid.eq_packedNaN ((unpackExponent_eq_ones z).2 hones)
      fun h => hzero ((unpackMantissa_eq_zero z).1 h)
  have hxy : x.toBits = y.toBits := by
    rw [← UInt64.toBitVec_inj, hbits x hx, hbits y hy]
  rw [← ofBits_toBits x, hxy, ofBits_toBits]

theorem floatOfBits_ofFloat {x : Float} {bits : Nat} (h : bits = x.toBits.toNat % 2 ^ 63) :
    floatOfBits (Binary.ofFloat x).negative bits = x := by
  have hb : x.toBits.toNat < 2 ^ 64 := x.toBits.toNat_lt
  have hsign : (if (Binary.ofFloat x).negative then Nat.pow 2 63 else 0) + bits =
      x.toBits.toNat := by
    simp only [Binary.ofFloat, Nat.pow_eq, beq_iff_eq]
    split <;> omega
  rw [floatOfBits, hsign, UInt64.ofNat_toNat, ofBits_toBits]

theorem floatOfBits_infinity {x : Float} (h : x.isInf = true) :
    floatOfBits (Binary.ofFloat x).negative infinityBits = x := by
  obtain ⟨hones, hzero⟩ := (isInf_iff x).1 h
  refine floatOfBits_ofFloat ?_
  simp only [exponentField] at hones
  simp only [infinityBits, Nat.pow_eq]
  omega

/-- A finite number as a double holds it: 53 binary digits, fewer only at the lowest place. -/
structure Binary.HasPlace (b : Binary) (place : Nat) : Prop where
  exponent_eq : b.exponent = (place : Int) - 1074
  place_le : place ≤ 2045
  mantissa_lt : b.mantissa < 2 ^ 53
  le_mantissa : place ≠ 0 → 2 ^ 52 ≤ b.mantissa

theorem exponentField_ne {x : Float} (hn : x.isNaN = false) (hi : x.isInf = false) :
    exponentField x ≠ 2047 := by
  intro hones
  by_cases hzero : x.toBits.toNat % 2 ^ 52 = 0
  · exact Bool.eq_false_iff.1 hi ((isInf_iff x).2 ⟨hones, hzero⟩)
  · exact Bool.eq_false_iff.1 hn ((isNaN_iff x).2 ⟨hones, hzero⟩)

theorem hasPlace_ofFloat {x : Float} (hn : x.isNaN = false) (hi : x.isInf = false) :
    ∃ place, (Binary.ofFloat x).HasPlace place ∧
      floatOfBits (Binary.ofFloat x).negative
        (place * 2 ^ 52 + (Binary.ofFloat x).mantissa) = x := by
  have hfinite := exponentField_ne hn hi
  have hlt : exponentField x < 2 ^ 11 := Nat.mod_lt _ (by decide)
  have he : x.toBits.toNat / Nat.pow 2 52 % Nat.pow 2 11 = exponentField x := rfl
  refine ⟨exponentField x - 1, ⟨?_, by omega, ?_, ?_⟩, floatOfBits_ofFloat ?_⟩
  · simp only [Binary.ofFloat, he]
    split <;> omega
  · simp only [Binary.ofFloat, he, Nat.pow_eq]
    split <;> omega
  · intro hplace
    simp only [Binary.ofFloat, he, Nat.pow_eq]
    split <;> omega
  · have hdef : exponentField x = x.toBits.toNat / 2 ^ 52 % 2 ^ 11 := rfl
    simp only [Binary.ofFloat, he, Nat.pow_eq]
    split <;> omega

end LedgerBench.Decimal
