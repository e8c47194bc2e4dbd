import LedgerBench.Decimal.Notation
import LedgerBench.Decimal.Reading
import LedgerBench.Proofs.Decimal.Nearest
import Mathlib.Data.List.TakeWhile
import Mathlib.Tactic.Linarith

/-! A double is read back from the text that it is written as. -/

namespace LedgerBench.Decimal

theorem readFinite_whole (negative : Bool) {whole : List Char} (hne : whole ≠ [])
    (h : ∀ c ∈ whole, isDigit c = true) :
    readFinite negative whole = some (nearestReal negative (Nat.ofDigitChars 10 whole 0) 0) := by
  have htake : whole.takeWhile isDigit = whole := List.takeWhile_eq_self_iff.2 h
  have hdrop : whole.dropWhile isDigit = [] := List.dropWhile_eq_nil_iff.2 h
  have hempty : whole.isEmpty = false := List.isEmpty_eq_false_iff.2 hne
  simp [readFinite, htake, hdrop, hempty, readDigits_eq h, readExponent]

theorem readFinite_point (negative : Bool) (whole fraction : List Char)
    (hne : whole ++ fraction ≠ []) (hw : ∀ c ∈ whole, isDigit c = true) (hf : ∀ c ∈ fraction, isDigit c = true) :
    readFinite negative (whole ++ '.' :: fraction) =
      some (nearestReal negative (Nat.ofDigitChars 10 (whole ++ fraction) 0)
        (-(fraction.length : Int))) := by
  have hpoint : isDigit '.' = false := by decide
  have htake : (whole ++ '.' :: fraction).takeWhile isDigit = whole := by
    rw [List.takeWhile_append_of_pos hw, List.takeWhile_cons_of_neg (by simp [hpoint]),
      List.append_nil]
  have hdrop : (whole ++ '.' :: fraction).dropWhile isDigit = '.' :: fraction := by
    rw [List.dropWhile_append_of_pos hw, List.dropWhile_cons_of_neg (by simp [hpoint])]
  have htake' : fraction.takeWhile isDigit = fraction := List.takeWhile_eq_self_iff.2 hf
  have hdrop' : fraction.dropWhile isDigit = [] := List.dropWhile_eq_nil_iff.2 hf
  have hempty : (whole.isEmpty && fraction.isEmpty) = false := by
    rwa [Bool.eq_false_iff, ne_eq, Bool.and_eq_true, List.isEmpty_iff, List.isEmpty_iff,
      ← List.append_eq_nil_iff]
  have hall : ∀ c ∈ whole ++ fraction, isDigit c = true := fun c hc =>
    (List.mem_append.1 hc).elim (hw c) (hf c)
  simp [readFinite, htake, hdrop, htake', hdrop', hempty, readDigits_eq hall, readExponent]

theorem isDigit_of_mem_zeros {n : Nat} {c : Char} (h : c ∈ zeros n) : isDigit c = true := by
  rw [List.eq_of_mem_replicate h]
  decide

theorem readFinite_positionalText (negative : Bool) (n : Nat) (exponent : Int) :
    ∃ mantissa scale, readFinite negative (positionalText false (digits n) exponent) =
        some (nearestReal negative mantissa scale) ∧
      (mantissa : ℚ) * 10 ^ scale = n * 10 ^ exponent := by
  have hn : ∀ c ∈ digits n, isDigit c = true := fun _ => isDigit_of_mem_digits
  have hvalue : Nat.ofDigitChars 10 (digits n) 0 = n := Nat.ofDigitChars_ten_toDigits
  cases exponent with
  | ofNat k =>
    refine ⟨n * 10 ^ k, 0, ?_, by simp⟩
    have hall : ∀ c ∈ digits n ++ zeros k, isDigit c = true := fun c hc =>
      (List.mem_append.1 hc).elim (hn c) isDigit_of_mem_zeros
    have hne : digits n ++ zeros k ≠ [] := by simp [digits_ne_nil]
    have hread := readFinite_whole negative hne hall
    rw [Nat.ofDigitChars_append, hvalue, zeros, Nat.ofDigitChars_replicate_zero, mul_comm] at hread
    simpa [positionalText, zeros] using hread
  | negSucc k =>
    refine ⟨n, Int.negSucc k, ?_, rfl⟩
    simp only [positionalText]
    split
    · next hlen =>
      have hne : (digits n).take ((digits n).length - (k + 1)) ≠ [] := by
        intro h
        have hlength := congrArg List.length h
        simp only [List.length_take, List.length_nil] at hlength
        omega
      have hread := readFinite_point negative _ ((digits n).drop ((digits n).length - (k + 1)))
        (List.append_ne_nil_of_left_ne_nil hne _)
        (fun c hc => hn c (List.mem_of_mem_take hc)) (fun c hc => hn c (List.mem_of_mem_drop hc))
      have hplaces : -(((digits n).drop ((digits n).length - (k + 1))).length : Int) =
          Int.negSucc k := by
        rw [List.length_drop]
        omega
      rwa [List.take_append_drop, hvalue, hplaces] at hread
    · next hlen =>
      have hfirst : ∀ c ∈ ['0'], isDigit c = true := by
        intro c hc
        rw [List.mem_singleton.1 hc]
        decide
      have hread := readFinite_point negative ['0'] (zeros (k + 1 - (digits n).length) ++ digits n)
        (List.cons_ne_nil _ _) hfirst
        fun c hc => (List.mem_append.1 hc).elim isDigit_of_mem_zeros (hn c)
      have hplaces : -((zeros (k + 1 - (digits n).length) ++ digits n).length : Int) =
          Int.negSucc k := by
        rw [List.length_append, zeros, List.length_replicate]
        omega
      rw [← List.append_assoc, Nat.ofDigitChars_append, hplaces] at hread
      have hzero : Nat.ofDigitChars 10 (['0'] ++ zeros (k + 1 - (digits n).length)) 0 = 0 := by
        rw [Nat.ofDigitChars_append, zeros, Nat.ofDigitChars_replicate_zero]
        rfl
      rw [hzero, hvalue] at hread
      exact hread

theorem positionalText_eq_cons (n : Nat) (exponent : Int) :
    ∃ c rest, positionalText false (digits n) exponent = c :: rest ∧ isDigit c = true := by
  obtain ⟨c, rest, he, hc⟩ := digits_eq_cons n
  cases exponent with
  | ofNat k => exact ⟨c, _, by rw [positionalText, he]; rfl, hc⟩
  | negSucc k =>
    simp only [positionalText]
    split
    · next hlen =>
      obtain ⟨m, hm⟩ : ∃ m, (digits n).length - (k + 1) = m + 1 :=
        ⟨(digits n).length - (k + 1) - 1, by omega⟩
      exact ⟨c, _, by rw [hm, he]; rfl, hc⟩
    · exact ⟨'0', _, rfl, by decide⟩

theorem toLower_of_isDigit {c : Char} (h : isDigit c = true) : c.toLower = c := by
  obtain ⟨_, hle⟩ := (isDigit_iff c).1 h
  have hnot : ¬(c.val ≥ 'A'.val ∧ c.val ≤ 'Z'.val) := fun hc =>
    absurd (UInt32.le_trans hc.1 hle) (by decide)
  simp only [Char.toLower]
  rw [dif_neg hnot]

theorem readReal_of_readFinite (negative : Bool) {c : Char} {rest : List Char} {x : Float}
    (hc : isDigit c = true ∨ c = '.') (h : readFinite negative (c :: rest) = some x) :
    readReal ((if negative then ['-'] else []) ++ c :: rest) = .ok x := by
  have hne : ∀ d, isDigit d = false ∧ d ≠ '.' → c ≠ d := by
    rintro d ⟨hd, hpoint⟩ rfl
    rw [hd] at hc
    exact hc.elim nofun hpoint
  have hlower : c.toLower = c := by
    rcases hc with hc | rfl
    · exact toLower_of_isDigit hc
    · decide
  have hsign : splitSign ((if negative then ['-'] else []) ++ c :: rest) = (negative, c :: rest) := by
    cases negative with
    | true => rfl
    | false =>
      simp only [Bool.false_eq_true, if_false, List.nil_append, splitSign]
      split
      · next he => exact absurd (List.cons.inj he).1 (hne '-' (by decide))
      · next he => exact absurd (List.cons.inj he).1 (hne '+' (by decide))
      · rfl
  have hname : ∀ d ds, isDigit d = false ∧ d ≠ '.' → (c :: rest).map Char.toLower ≠ d :: ds := by
    intro d ds hd he
    rw [List.map_cons, hlower] at he
    exact hne d hd (List.cons.inj he).1
  have hempty : ((if negative then ['-'] else []) ++ c :: rest).isEmpty = false := by
    cases negative <;> rfl
  have hinf := hname 'i' ['n', 'f'] (by decide)
  have hinfinity := hname 'i' ['n', 'f', 'i', 'n', 'i', 't', 'y'] (by decide)
  have hnan := hname 'n' ['a', 'n'] (by decide)
  simp only [readReal, hempty, hsign]
  rw [if_neg (by decide), if_neg, if_neg, h]
  · exact hnan
  · rintro (he | he)
    · exact hinf he
    · exact hinfinity he

theorem size_bounds {mantissa : Nat} (hzero : mantissa ≠ 0) (scale : Int) :
    (10 : ℚ) ^ (((digits mantissa).length : Int) + scale - 1) ≤ mantissa * 10 ^ scale ∧
      (mantissa : ℚ) * 10 ^ scale < 10 ^ (((digits mantissa).length : Int) + scale) := by
  have hlen : 1 ≤ (digits mantissa).length := Nat.length_toDigits_pos
  have hlow : ((10 : ℚ) ^ ((digits mantissa).length - 1)) ≤ mantissa := by
    exact_mod_cast pow_length_digits_le hzero
  have hhigh : (mantissa : ℚ) < 10 ^ (digits mantissa).length := by
    exact_mod_cast lt_pow_length_digits mantissa
  have hpos : (0 : ℚ) < 10 ^ scale := by positivity
  have hsplit : ((digits mantissa).length : Int) + scale - 1 =
      (((digits mantissa).length - 1 : Nat) : Int) + scale := by omega
  rw [hsplit, zpow_add₀ (by norm_num), zpow_add₀ (by norm_num), zpow_natCast, zpow_natCast]
  exact ⟨mul_le_mul_of_nonneg_right hlow hpos.le, mul_lt_mul_of_pos_right hhigh hpos⟩

open Shortest in
/-- Numbers in the interval of a double are far from the sizes that are cut off. -/
theorem contains_bounds {b : Binary} {place : Nat} {v : ℚ} (hb : b.HasPlace place)
    (hzero : b.mantissa ≠ 0) (h : (Interval.ofBinary b).Contains (v / 2 ^ (b.exponent - 2))) :
    (2 : ℚ) ^ (-1076 : Int) ≤ v ∧ v ≤ 2 ^ (1024 : Int) := by
  have hpos : (0 : ℚ) < 2 ^ (b.exponent - 2) := by positivity
  have hends : (Interval.ofBinary b).low * (2 : ℚ) ^ (b.exponent - 2) ≤ v ∧
      v ≤ (Interval.ofBinary b).high * 2 ^ (b.exponent - 2) := by
    rw [← le_div_iff₀ hpos, ← div_le_iff₀ hpos]
    simp only [Interval.Contains] at h
    split at h
    · exact h
    · exact ⟨h.1.le, h.2.le⟩
  have he := hb.exponent_eq
  have hplace := hb.place_le
  have hlow : (1 : ℚ) ≤ (Interval.ofBinary b).low := by
    have hl : 1 ≤ (Interval.ofBinary b).low := by
      simp only [Interval.ofBinary]
      split <;> omega
    exact_mod_cast hl
  have hhigh : ((Interval.ofBinary b).high : ℚ) ≤ 2 ^ (55 : Int) := by
    have hh : (Interval.ofBinary b).high ≤ 2 ^ 55 := by
      have hlt := hb.mantissa_lt
      simp only [Interval.ofBinary]
      omega
    exact_mod_cast hh
  constructor
  · calc (2 : ℚ) ^ (-1076 : Int) ≤ 2 ^ (b.exponent - 2) :=
          zpow_le_zpow_right₀ (by norm_num) (by omega)
      _ ≤ (Interval.ofBinary b).low * 2 ^ (b.exponent - 2) := le_mul_of_one_le_left hpos.le hlow
      _ ≤ v := hends.1
  · calc v ≤ (Interval.ofBinary b).high * 2 ^ (b.exponent - 2) := hends.2
      _ ≤ 2 ^ (55 : Int) * 2 ^ (b.exponent - 2) := mul_le_mul_of_nonneg_right hhigh hpos.le
      _ = 2 ^ (55 + (b.exponent - 2)) := (zpow_add₀ (by norm_num) _ _).symm
      _ ≤ 2 ^ (1024 : Int) := zpow_le_zpow_right₀ (by norm_num) (by omega)

theorem two_zpow_le_ten_zpow {k : Int} (h : 0 ≤ k) : (2 : ℚ) ^ (3 * k) ≤ 10 ^ k := by
  rw [zpow_mul]
  exact zpow_le_zpow_left₀ h (by norm_num) (by norm_num)

theorem two_zpow_lt_ten_zpow {k : Int} (h : 400 ≤ k) : (2 : ℚ) ^ (1024 : Int) < 10 ^ k :=
  (zpow_lt_zpow_right₀ (by norm_num) (by omega)).trans_le (two_zpow_le_ten_zpow (by omega))

theorem ten_zpow_lt_two_zpow {k : Int} (h : k ≤ -400) : (10 : ℚ) ^ k < 2 ^ (-1076 : Int) := by
  have hle : (10 : ℚ) ^ k ≤ 2 ^ (3 * k) := by
    have hinv := inv_anti₀ (by positivity) (two_zpow_le_ten_zpow (k := -k) (by omega))
    rwa [zpow_neg, inv_inv, mul_neg, zpow_neg, inv_inv] at hinv
  exact hle.trans_lt (zpow_lt_zpow_right₀ (by norm_num) (by omega))

open Shortest in
theorem nearestReal_eq {b : Binary} {place mantissa : Nat} {scale : Int} (negative : Bool)
    (hb : b.HasPlace place) (hb0 : b.mantissa ≠ 0) (hzero : mantissa ≠ 0)
    (h : (Interval.ofBinary b).Contains (mantissa * 10 ^ scale / 2 ^ (b.exponent - 2))) :
    nearestReal negative mantissa scale = floatOfBits negative (place * 2 ^ 52 + b.mantissa) := by
  obtain ⟨hlow, hhigh⟩ := contains_bounds hb hb0 h
  obtain ⟨hsize, hsize'⟩ := size_bounds hzero scale
  have hmin : ¬((digits mantissa).length + scale < -400) := by
    intro hlt
    have := ten_zpow_lt_two_zpow hlt.le
    linarith
  have hmax : ¬(400 < (digits mantissa).length + scale) := by
    intro hlt
    have := two_zpow_lt_ten_zpow (k := (digits mantissa).length + scale - 1) (by omega)
    linarith
  simp only [nearestReal, hzero, false_or, Nat.pow_eq]
  rw [if_neg hmin, if_neg hmax]
  refine congrArg (floatOfBits negative) ?_
  cases scale with
  | ofNat k =>
    refine nearestBits_of_contains hb (by positivity) one_ne_zero ?_
    simpa using h
  | negSucc k =>
    refine nearestBits_of_contains hb hzero (by positivity) ?_
    simpa [zpow_negSucc, div_eq_mul_inv] using h

theorem nearestReal_zero (negative : Bool) (scale : Int) :
    nearestReal negative 0 scale = floatOfBits negative 0 := by
  simp [nearestReal]

/-- The digits that a finite number is written with are read as that number. -/
theorem nearestReal_shortest {b : Binary} {place mantissa : Nat} {scale : Int} (negative : Bool)
    (hb : b.HasPlace place)
    (h : (mantissa : ℚ) * 10 ^ scale = (Shortest.ofBinary .up b).value) :
    nearestReal negative mantissa scale = floatOfBits negative (place * 2 ^ 52 + b.mantissa) := by
  by_cases hzero : b.mantissa = 0
  · have hplace : place = 0 := by
      by_contra hne
      have hle := hb.le_mantissa hne
      omega
    have hm : mantissa = 0 := by
      simpa [Shortest.ofBinary, hzero, Scaled.value, zpow_ne_zero] using h
    rw [hm, nearestReal_zero, hzero, hplace, Nat.zero_mul]
  · obtain ⟨hd, hc⟩ := Shortest.ofBinary_spec .up hzero hb.mantissa_lt
    have hm : mantissa ≠ 0 := by
      rintro rfl
      rw [Nat.cast_zero, zero_mul, Scaled.value] at h
      have hne : ((Shortest.ofBinary .up b).digits : ℚ) ≠ 0 := Nat.cast_ne_zero.2 hd
      exact mul_ne_zero hne (by positivity) h.symm
    exact nearestReal_eq negative hb hzero hm (h ▸ hc)

theorem textOf_isInf {x : Float} (hi : x.isInf = true) :
    (textOf plain x).toList =
      (if (Binary.ofFloat x).negative then ['-'] else []) ++ ['i', 'n', 'f'] := by
  have hn : x.isNaN = false := by
    have hzero := ((isInf_iff x).1 hi).2
    exact Bool.eq_false_iff.2 fun h => ((isNaN_iff x).1 h).2 hzero
  simp only [textOf, hn, hi, Bool.false_eq_true, if_false, if_true, String.toList_ofList]
  rfl

theorem textOf_finite {x : Float} (hn : x.isNaN = false) (hi : x.isInf = false) :
    (textOf plain x).toList =
      (if (Binary.ofFloat x).negative then ['-'] else []) ++
        positionalText false (digits (Shortest.ofBinary .up (Binary.ofFloat x)).digits)
          (Shortest.ofBinary .up (Binary.ofFloat x)).exponent := by
  simp only [textOf, hn, hi, Bool.false_eq_true, if_false, plain, if_true, String.toList_ofList]

/-- Every double is read back from its text: infinities and the undefined number too. -/
theorem readReal_textOf (x : Float) : readReal (textOf plain x).toList = .ok x := by
  cases hn : x.isNaN with
  | true =>
    have hread : readReal (textOf plain x).toList = .ok (0 / 0) := by
      simp only [textOf, hn, if_true]
      rfl
    have hnan : (0 / 0 : Float).isNaN = true := by decide
    rw [hread, eq_of_isNaN hn hnan]
  | false =>
    cases hi : x.isInf with
    | true =>
      have hread : readReal (textOf plain x).toList =
          .ok (floatOfBits (Binary.ofFloat x).negative infinityBits) := by
        rw [textOf_isInf hi]
        cases (Binary.ofFloat x).negative <;> rfl
      rw [hread, floatOfBits_infinity hi]
    | false =>
      obtain ⟨place, hb, hx⟩ := hasPlace_ofFloat hn hi
      obtain ⟨mantissa, scale, hread, hvalue⟩ := readFinite_positionalText
        (Binary.ofFloat x).negative (Shortest.ofBinary .up (Binary.ofFloat x)).digits
        (Shortest.ofBinary .up (Binary.ofFloat x)).exponent
      obtain ⟨c, rest, hcons, hc⟩ := positionalText_eq_cons
        (Shortest.ofBinary .up (Binary.ofFloat x)).digits
        (Shortest.ofBinary .up (Binary.ofFloat x)).exponent
      rw [hcons] at hread
      rw [textOf_finite hn hi, hcons, readReal_of_readFinite _ (.inl hc) hread,
        nearestReal_shortest _ hb hvalue, hx]

theorem not_isNaN_of_isFinite {x : Float} (h : x.isFinite = true) :
    x.isNaN = false ∧ x.isInf = false := by
  have hunpacked : ∀ u : Float.Model.UnpackedFloat,
      u.isFinite = true → u.isNaN = false ∧ u.isInf = false := by
    intro u hu
    cases u with
    | notANumber | infinity => cases hu
    | zero | finite => exact ⟨rfl, rfl⟩
  exact hunpacked _ h

theorem mem_positionalText {n : Nat} {exponent : Int} {c : Char}
    (h : c ∈ positionalText false (digits n) exponent) : isDigit c = true ∨ c = '.' := by
  have hdigits : ∀ d ∈ digits n, isDigit d = true := fun _ => isDigit_of_mem_digits
  cases exponent with
  | ofNat k =>
    simp only [positionalText, Bool.false_eq_true, if_false, List.append_nil,
      List.mem_append] at h
    exact .inl (h.elim (hdigits c) isDigit_of_mem_zeros)
  | negSucc k =>
    simp only [positionalText] at h
    split at h
    · rcases List.mem_append.1 h with h | h
      · exact .inl (hdigits c (List.mem_of_mem_take h))
      · rcases List.mem_cons.1 h with rfl | h
        · exact .inr rfl
        · exact .inl (hdigits c (List.mem_of_mem_drop h))
    · rcases List.mem_append.1 h with h | h
      · rcases List.mem_cons.1 h with rfl | h
        · exact .inl (by decide)
        · rcases List.mem_cons.1 h with rfl | h
          · exact .inr rfl
          · exact .inl (isDigit_of_mem_zeros h)
      · exact .inl (hdigits c h)

theorem mem_textOf_plain {x : Float} (hfinite : x.isFinite = true) {c : Char}
    (h : c ∈ (textOf plain x).toList) : isDigit c = true ∨ c = '.' ∨ c = '-' := by
  obtain ⟨hn, hi⟩ := not_isNaN_of_isFinite hfinite
  rw [textOf_finite hn hi, List.mem_append] at h
  rcases h with h | h
  · split at h
    · exact .inr (.inr (List.mem_singleton.1 h))
    · cases h
  · exact (mem_positionalText h).imp_right .inl

end LedgerBench.Decimal
