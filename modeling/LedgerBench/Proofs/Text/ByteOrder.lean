import LedgerBench.Text.Utf8
import Mathlib.Data.String.Basic

/-! The order of texts is that of their bytes: the bytes of a smaller character are smaller at the
first place where they differ, and no character's bytes begin those of another one. -/

namespace LedgerBench.Text

@[simp] theorem utf8_cons (c : Char) (s : List Char) :
    utf8 (c :: s) = String.utf8EncodeChar c ++ utf8 s :=
  List.flatMap_cons

theorem toNat_lt (c : Char) : c.val.toNat < 0x110000 := by
  have hvalid := c.valid
  simp only [UInt32.isValidChar, Nat.isValidChar] at hvalid
  omega

/-- Numbers compare as their digits to the base of 64 do. -/
theorem digits_lt {m n : Nat} (h : m < n) :
    m / 262144 < n / 262144 ∨ m / 262144 = n / 262144 ∧
      (m / 4096 % 64 < n / 4096 % 64 ∨ m / 4096 % 64 = n / 4096 % 64 ∧
        (m / 64 % 64 < n / 64 % 64 ∨ m / 64 % 64 = n / 64 % 64 ∧ m % 64 < n % 64)) := by
  by_cases hfirst : m / 262144 = n / 262144
  · by_cases hsecond : m / 4096 = n / 4096
    · by_cases hthird : m / 64 = n / 64 <;> omega
    · omega
  · omega

theorem toNat_ofNat {n : Nat} (h : n < 256) : (UInt8.ofNat n).toNat = n := by
  rw [UInt8.toNat_ofNat', Nat.mod_eq_of_lt h]

theorem utf8EncodeChar_lt {c d : Char} (h : c < d) (xs ys : List UInt8) :
    String.utf8EncodeChar c ++ xs < String.utf8EncodeChar d ++ ys := by
  have hlt : c.val.toNat < d.val.toNat := h
  have hc := toNat_lt c
  have hd := toNat_lt d
  have hdigits := digits_lt hlt
  simp only [String.utf8EncodeChar]
  generalize c.val.toNat = m at *
  generalize d.val.toNat = n at *
  have hm : m / 262144 < 8 := by omega
  have hn : n / 262144 < 8 := by omega
  -- a longer code has a greater first byte, and codes of one length are compared digit by digit
  split_ifs <;>
    simp (disch := omega) only [List.cons_append, List.nil_append, List.cons_lt_cons_iff,
      UInt8.lt_iff_toNat_lt, ← UInt8.toNat_inj, toNat_ofNat, Nat.mod_eq_of_lt hm,
      Nat.mod_eq_of_lt hn] <;> omega

theorem utf8_lt_of_lt {a b : List Char} (h : a < b) : utf8 a < utf8 b := by
  induction a generalizing b with
  | nil =>
    cases b with
    | nil => cases h
    | cons d b =>
      obtain ⟨byte, bytes, hbytes⟩ :=
        List.exists_cons_of_ne_nil (String.utf8EncodeChar_ne_nil (c := d))
      rw [utf8_cons, hbytes]
      exact List.nil_lt_cons _ _
  | cons c a ih =>
    cases b with
    | nil => cases h
    | cons d b =>
      rcases List.cons_lt_cons_iff.1 h with hlt | ⟨rfl, hrest⟩
      · simpa using utf8EncodeChar_lt hlt (utf8 a) (utf8 b)
      · simpa using List.append_left_lt (ih hrest)

theorem utf8_lt_iff {a b : String} : utf8 a.toList < utf8 b.toList ↔ a < b := by
  refine ⟨fun h => ?_, utf8_lt_of_lt⟩
  rcases lt_trichotomy a b with hlt | rfl | hgt
  · exact hlt
  · exact absurd h (List.lt_irrefl _)
  · exact absurd h (List.lt_asymm (utf8_lt_of_lt hgt))

theorem utf8_le_iff {a b : String} : utf8 a.toList ≤ utf8 b.toList ↔ a ≤ b := by
  rw [← List.not_lt, utf8_lt_iff, not_lt]

end LedgerBench.Text
