import LedgerBench.Decimal.Digits
import Mathlib.Algebra.Group.Nat.Defs
import Mathlib.Tactic.Common

/-! The digits of a number and what is read from them. -/

namespace LedgerBench.Decimal

theorem isDigit_iff (c : Char) : isDigit c = true ↔ '0' ≤ c ∧ c ≤ '9' := by
  by_cases h : '0' ≤ c ∧ c ≤ '9' <;> simp [isDigit, digitValue, h]

theorem digitValue_of_isDigit {c : Char} (h : isDigit c = true) :
    digitValue c = some (c.toNat - '0'.toNat) :=
  if_pos ((isDigit_iff c).1 h)

theorem isDigit_of_mem_digits {n : Nat} {c : Char} (h : c ∈ digits n) : isDigit c = true := by
  have hc := Nat.isDigit_of_mem_toDigits (by decide) (by decide) h
  rw [isDigit_iff]
  simpa [Char.isDigit, Char.le_def] using hc

theorem digits_ne_nil (n : Nat) : digits n ≠ [] :=
  Nat.toDigits_ne_nil

theorem lt_pow_length_digits (n : Nat) : n < 10 ^ (digits n).length :=
  (Nat.length_toDigits_le_iff (by decide) Nat.length_toDigits_pos).1 (Nat.le_refl _)

theorem pow_length_digits_le {n : Nat} (h : n ≠ 0) : 10 ^ ((digits n).length - 1) ≤ n := by
  by_cases hone : (digits n).length = 1
  · rw [hone]
    exact Nat.pos_of_ne_zero h
  · have hpos : 0 < (digits n).length := Nat.length_toDigits_pos
    have hh := Nat.length_toDigits_le_iff (b := 10) (n := n) (k := (digits n).length - 1)
      (by decide) (by omega)
    have hlt : ¬(Nat.toDigits 10 n).length ≤ (digits n).length - 1 := by
      simp only [digits]
      simp only [digits] at hpos
      omega
    exact Nat.not_lt.1 fun hn => hlt (hh.2 hn)

theorem readDigits_eq {s : List Char} (h : ∀ c ∈ s, isDigit c = true) (start : Nat) :
    readDigits start s = some (Nat.ofDigitChars 10 s start) := by
  induction s generalizing start with
  | nil => rfl
  | cons c rest ih =>
    obtain ⟨hc, hrest⟩ := List.forall_mem_cons.1 h
    simp only [readDigits, digitValue_of_isDigit hc, ih hrest, Nat.ofDigitChars_cons]

theorem readDigits_digits (n : Nat) : readDigits 0 (digits n) = some n := by
  rw [readDigits_eq fun _ => isDigit_of_mem_digits, digits, Nat.ofDigitChars_ten_toDigits]

theorem digits_eq_cons (n : Nat) : ∃ c rest, digits n = c :: rest ∧ isDigit c = true := by
  obtain ⟨c, rest, he⟩ := List.exists_cons_of_ne_nil (digits_ne_nil n)
  exact ⟨c, rest, he, isDigit_of_mem_digits (he ▸ List.mem_cons_self)⟩

theorem readBelow_digits {bound n : Nat} (h : n < bound) : readBelow bound (digits n) = some n := by
  obtain ⟨c, rest, he, hc⟩ := digits_eq_cons n
  have hplus : c ≠ '+' := by
    rintro rfl
    exact absurd hc (by decide)
  have hread := readDigits_digits n
  rw [he] at hread ⊢
  simp only [readBelow]
  split
  · next rest' hcons =>
    exact absurd (List.cons.inj hcons).1 hplus
  · simp [hread, h]

theorem readWord_toString (n : UInt64) : readWord (toString n.toNat).toList = some n := by
  have htext : (toString n.toNat).toList = digits n.toNat := Nat.toList_repr
  rw [htext, readWord, readBelow_digits n.toNat_lt, Option.map_some, UInt64.ofNat_toNat]

/-- The texts of a whole number: at least one digit, after an optional plus sign. -/
inductive Numeral : List Char → Nat → Prop where
  | plain {digits : List Char} (hne : digits ≠ []) (hdigits : ∀ c ∈ digits, c.isDigit = true) :
      Numeral digits (Nat.ofDigitChars 10 digits 0)
  | signed {digits : List Char} (hne : digits ≠ []) (hdigits : ∀ c ∈ digits, c.isDigit = true) :
      Numeral ('+' :: digits) (Nat.ofDigitChars 10 digits 0)

theorem Numeral.isDigit_or_plus {s : List Char} {n : Nat} (h : Numeral s n) :
    ∀ c ∈ s, c.isDigit = true ∨ c = '+' := by
  cases h with
  | plain hne hdigits => exact fun c hc => .inl (hdigits c hc)
  | signed hne hdigits =>
    exact List.forall_mem_cons.2 ⟨.inr rfl, fun c hc => .inl (hdigits c hc)⟩

theorem isDigit_eq (c : Char) : isDigit c = c.isDigit := by
  rw [Bool.eq_iff_iff, isDigit_iff]
  simp [Char.isDigit, Char.le_def]

theorem isDigit_of_readDigits {s : List Char} {start n : Nat} (h : readDigits start s = some n) :
    ∀ c ∈ s, isDigit c = true := by
  induction s generalizing start with
  | nil => exact fun c hc => absurd hc List.not_mem_nil
  | cons c s ih =>
    cases hvalue : digitValue c with
    | none => simp [readDigits, hvalue] at h
    | some d =>
      simp only [readDigits, hvalue] at h
      exact List.forall_mem_cons.2 ⟨by simp [isDigit, hvalue], ih h⟩

theorem readDigits_eq_some_iff {s : List Char} {n : Nat} :
    readDigits 0 s = some n ↔ (∀ c ∈ s, c.isDigit = true) ∧ Nat.ofDigitChars 10 s 0 = n := by
  simp only [← isDigit_eq]
  constructor
  · intro h
    have hdigits := isDigit_of_readDigits h
    rw [readDigits_eq hdigits] at h
    exact ⟨hdigits, Option.some.inj h⟩
  · rintro ⟨hdigits, rfl⟩
    exact readDigits_eq hdigits 0

theorem readBelow_eq_some_iff {bound n : Nat} {s : List Char} :
    readBelow bound s = some n ↔ Numeral s n ∧ n < bound := by
  have hread (digits : List Char) :
      (if digits.isEmpty then none else (readDigits 0 digits).filter (· < bound)) = some n ↔
        digits ≠ [] ∧ (∀ c ∈ digits, c.isDigit = true) ∧ Nat.ofDigitChars 10 digits 0 = n ∧
          n < bound := by
    cases digits with
    | nil => simp
    | cons c digits =>
      simp [Option.filter_eq_some_iff, readDigits_eq_some_iff, and_assoc]
  constructor
  · intro h
    unfold readBelow at h
    split at h
    · obtain ⟨hne, hdigits, rfl, hlt⟩ := (hread _).1 h
      exact ⟨.signed hne hdigits, hlt⟩
    · obtain ⟨hne, hdigits, rfl, hlt⟩ := (hread _).1 h
      exact ⟨.plain hne hdigits, hlt⟩
  · rintro ⟨hnumeral, hlt⟩
    cases hnumeral with
    | signed hne hdigits => exact (hread _).2 ⟨hne, hdigits, rfl, hlt⟩
    | plain hne hdigits =>
      unfold readBelow
      split
      · exact absurd (hdigits '+' List.mem_cons_self) (by decide)
      · exact (hread _).2 ⟨hne, hdigits, rfl, hlt⟩

theorem readWord_eq_some_iff {s : List Char} {word : UInt64} :
    readWord s = some word ↔ Numeral s word.toNat := by
  rw [readWord, Option.map_eq_some_iff]
  constructor
  · rintro ⟨n, hn, rfl⟩
    obtain ⟨hnumeral, hlt⟩ := readBelow_eq_some_iff.1 hn
    rwa [UInt64.toNat_ofNat_of_lt' hlt]
  · intro h
    exact ⟨word.toNat, readBelow_eq_some_iff.2 ⟨h, word.toNat_lt⟩, UInt64.ofNat_toNat⟩

theorem numeral_toString (n : Nat) : Numeral (toString n).toList n := by
  have htext : (toString n).toList = digits n := Nat.toList_repr
  have hvalue : Nat.ofDigitChars 10 (digits n) 0 = n := Nat.ofDigitChars_ten_toDigits
  have hnumeral := Numeral.plain (digits_ne_nil n) fun c hc => by
    rw [← isDigit_eq]
    exact isDigit_of_mem_digits hc
  rwa [hvalue, ← htext] at hnumeral

end LedgerBench.Decimal
