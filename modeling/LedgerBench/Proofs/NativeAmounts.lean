import LedgerBench.Ledger.Amount
import LedgerBench.Proofs.Decimal.Error
import LedgerBench.Proofs.Text.Parts

/-! Native amounts as people write them, in XDV with up to six digits after the point. What is read
goes through a double twice, as the number itself and as a million times this number, and may come
out some drops beside what was written. -/

namespace LedgerBench

open Decimal (isDigit rational? Near)

namespace Amount

/-- The texts of digits with at most six of them after a point, and how many drops each stands
for. -/
inductive Written : List Char → ℕ → Prop where
  | whole {digits : List Char} (hne : digits ≠ []) (hdigits : ∀ c ∈ digits, isDigit c = true) :
      Written digits (Nat.ofDigitChars 10 digits 0 * 10 ^ 6)
  | point {whole fraction : List Char} (hne : whole ++ fraction ≠ [])
      (hdigits : ∀ c ∈ whole ++ fraction, isDigit c = true) (hplaces : fraction.length ≤ 6) :
      Written (whole ++ '.' :: fraction)
        (Nat.ofDigitChars 10 (whole ++ fraction) 0 * 10 ^ (6 - fraction.length))

/-- Numbers of drops that are read as themselves: those up to ten drops above `2 ^ 32` XDV, some
from `2 ^ 52` drops on, and all whole numbers of XDV. -/
def Kept (drops : ℕ) : Prop :=
  drops < 4294967296000011 ∨ 2 ^ 52 < drops ∧ drops < 8589934592000000 ∨ 10 ^ 6 ∣ drops

section Rounding

variable {drops : ℕ} {v p : ℚ}

theorem half_le_xdv (hv : Near (drops / 10 ^ 6) v) (hpos : drops ≠ 0) :
    (drops / 10 ^ 6 : ℚ) / 2 ≤ v := by
  have hone : (1 : ℚ) ≤ drops := by exact_mod_cast Nat.one_le_iff_ne_zero.2 hpos
  have htiny : (2 : ℚ) ^ (-1000 : ℤ) ≤ 2 ^ (-20 : ℤ) :=
    zpow_le_zpow_right₀ one_le_two (by norm_num)
  refine hv.half_le (htiny.trans ?_)
  norm_num
  linarith

/-- Below `2 ^ 32` XDV the errors of both roundings add up to less than half a drop. -/
theorem close_of_lt (hv : Near (drops / 10 ^ 6) v) (hp : Near (v * 10 ^ 6) p)
    (h : drops < 4294967296000000) : (drops : ℚ) - 1 / 2 ≤ p ∧ p < drops + 1 / 2 := by
  have hdrops : (drops : ℚ) < 4294967296000000 := by exact_mod_cast h
  obtain ⟨hv₁, hv₂⟩ := hv.bounds (-21) (by norm_num) (by norm_num; linarith)
  norm_num at hv₁ hv₂
  obtain ⟨hp₁, hp₂⟩ := hp.bounds (-1) (by norm_num) (by norm_num; linarith)
  norm_num at hp₁ hp₂
  constructor <;> linarith

/-- Of the next ten drops each is rounded down to a multiple of `2 ^ (-20)` XDV, and the product to
half a drop below at most. -/
theorem close_of_le (hv : Near (drops / 10 ^ 6) v) (hp : Near (v * 10 ^ 6) p)
    (hlow : 4294967296000000 ≤ drops) (hhigh : drops < 4294967296000011) :
    (drops : ℚ) - 1 / 2 ≤ p ∧ p < drops + 1 / 2 := by
  obtain ⟨j, rfl⟩ := Nat.exists_eq_add_of_le hlow
  have hj : (j : ℚ) ≤ 10 := by exact_mod_cast (by omega : j ≤ 10)
  push_cast at *
  have hj' : (0 : ℚ) ≤ j := by positivity
  obtain ⟨n, hn⟩ := hv.grid (-20) (by norm_num; linarith)
  obtain ⟨hv₁, hv₂⟩ := hv.bounds (-20) (by norm_num) (by norm_num; linarith)
  norm_num at hn hv₁ hv₂
  obtain rfl : n = 4503599627370496 + j :=
    Decimal.eq_of_lt_succ (by push_cast; linarith) (by push_cast; linarith)
  push_cast at hn
  obtain ⟨k, hk⟩ := hp.grid (-1) (by norm_num; linarith)
  obtain ⟨hp₁, hp₂⟩ := hp.bounds (-1) (by norm_num) (by norm_num; linarith)
  norm_num at hk hp₁ hp₂
  have hhalf : 2 * (4294967296000000 + j) ≤ k + 1 := by
    have hless : (2 * (4294967296000000 + j) : ℚ) < k + 2 := by linarith
    have hless' : 2 * (4294967296000000 + j) < k + 2 := by exact_mod_cast hless
    omega
  have hhalf' : (2 * (4294967296000000 + j) : ℚ) ≤ k + 1 := by exact_mod_cast hhalf
  constructor <;> linarith

/-- From `2 ^ 52` on the products are whole numbers, less than one drop away at first. -/
theorem eq_of_middle (hv : Near (drops / 10 ^ 6) v) (hp : Near (v * 10 ^ 6) p)
    (hlow : 2 ^ 52 < drops) (hhigh : drops < 8589934592000000) : p = drops := by
  have hlow' : (4503599627370497 : ℚ) ≤ drops := by exact_mod_cast hlow
  have hhigh' : (drops : ℚ) < 8589934592000000 := by exact_mod_cast hhigh
  obtain ⟨hv₁, hv₂⟩ := hv.bounds (-20) (by norm_num) (by norm_num; linarith)
  norm_num at hv₁ hv₂
  obtain ⟨n, hn⟩ := hp.grid 0 (by norm_num; linarith)
  obtain ⟨hp₁, hp₂⟩ := hp.bounds 0 (by norm_num) (by norm_num; linarith)
  norm_num at hn hp₁ hp₂
  have hdrops : n = drops := Decimal.eq_of_lt_succ (by linarith) (by linarith)
  rw [hn, hdrops]

/-- Whole numbers of XDV are not rounded at all, and neither are the products, which end in six
binary zeros. -/
theorem eq_of_dvd (hv : Near (drops / 10 ^ 6) v) (hp : Near (v * 10 ^ 6) p)
    (hdvd : 10 ^ 6 ∣ drops) (hpos : drops ≠ 0) (hbound : drops ≤ 10 ^ 17) : p = drops := by
  obtain ⟨xdv, rfl⟩ := hdvd
  have hxdv : xdv ≠ 0 := by
    rintro rfl
    exact hpos rfl
  have hv' : v = xdv := by
    have hwhole : (((10 ^ 6 * xdv : ℕ) : ℚ)) / 10 ^ 6 = xdv * 2 ^ (0 : ℤ) := by
      rw [zpow_zero, mul_one, Nat.cast_mul, Nat.cast_pow, Nat.cast_ofNat]
      exact mul_div_cancel_left₀ _ (by norm_num)
    rw [hwhole] at hv
    simpa using hv.eq_self hxdv (by omega) (by norm_num)
  have hproduct : v * 10 ^ 6 = (xdv * 15625 : ℕ) * 2 ^ (6 : ℤ) := by
    rw [hv']
    push_cast
    norm_num
    ring
  rw [hproduct] at hp
  rw [hp.eq_self (by omega) (by omega) (by norm_num), ← hproduct, hv']
  push_cast
  ring

theorem bounds_of_kept (hv : Near (drops / 10 ^ 6) v) (hp : Near (v * 10 ^ 6) p)
    (hkept : Kept drops) (hpos : drops ≠ 0) (hbound : drops ≤ 10 ^ 17) :
    (drops : ℚ) - 1 / 2 ≤ p ∧ p < drops + 1 / 2 := by
  rcases hkept with hfew | ⟨hlow, hhigh⟩ | hdvd
  · by_cases hlow : 4294967296000000 ≤ drops
    · exact close_of_le hv hp hlow hfew
    · exact close_of_lt hv hp (by omega)
  · rw [eq_of_middle hv hp hlow hhigh]
    constructor <;> linarith
  · rw [eq_of_dvd hv hp hdvd hpos hbound]
    constructor <;> linarith

/-- Up to a hundred thousand million XDV the two roundings are less than 16 drops off, and the
product is a whole number where they are more than two. -/
theorem whole_close (hv : Near (drops / 10 ^ 6) v) (hp : Near (v * 10 ^ 6) p)
    (hbound : drops ≤ 10 ^ 17) {n : ℕ} (hlow : (n : ℚ) - 1 / 2 ≤ p) (hhigh : p < n + 1 / 2) :
    n ≤ drops + 15 ∧ drops ≤ n + 15 := by
  by_cases hfew : drops < 2 ^ 53
  · have hdrops : (drops : ℚ) ≤ 2 ^ 53 := by exact_mod_cast hfew.le
    obtain ⟨hv₁, hv₂⟩ := hv.bounds (-19) (by norm_num) (by norm_num; linarith)
    norm_num at hv₁ hv₂
    obtain ⟨hp₁, hp₂⟩ := hp.bounds 1 (by norm_num) (by norm_num; linarith)
    norm_num at hp₁ hp₂
    have hn₁ : (n : ℚ) ≤ drops + 15 := by linarith
    have hn₂ : (drops : ℚ) ≤ n + 15 := by linarith
    exact ⟨by exact_mod_cast hn₁, by exact_mod_cast hn₂⟩
  · have hdrops₁ : (2 ^ 53 : ℚ) ≤ drops := by exact_mod_cast not_lt.1 hfew
    have hdrops₂ : (drops : ℚ) ≤ 10 ^ 17 := by exact_mod_cast hbound
    obtain ⟨hv₁, hv₂⟩ := hv.bounds (-16) (by norm_num) (by norm_num; linarith)
    norm_num at hv₁ hv₂
    obtain ⟨k, hk⟩ := hp.grid 0 (by norm_num; linarith)
    obtain ⟨hp₁, hp₂⟩ := hp.bounds 4 (by norm_num) (by norm_num; linarith)
    norm_num at hk hp₁ hp₂
    obtain rfl : n = k := Decimal.eq_of_lt_succ (by linarith) (by linarith)
    have hn₁ : (n : ℚ) < drops + 16 := by linarith
    have hn₂ : (drops : ℚ) < n + 16 := by linarith
    have hn₁' : n < drops + 16 := by exact_mod_cast hn₁
    have hn₂' : drops < n + 16 := by exact_mod_cast hn₂
    omega

end Rounding

theorem rational?_dropsPerXdv : rational? dropsPerXdv = some (10 ^ 6) := by
  have hbits : dropsPerXdv.toModel.toBits = 0x412E848000000000 := by decide +kernel
  have hunpack : dropsPerXdv.toModel.unpack =
      .finite .positive 8589934592000000 (-33) (by decide) := by
    rw [Float.Model.unpack, hbits]
    rfl
  rw [rational?, hunpack]
  norm_num [Decimal.rationalOf, Float.Model.UnpackedFloat.Sign.apply]

/-- The drops of the double nearest to an amount in XDV. -/
theorem dropsOf_close {x : Float} {drops : ℕ} {v : ℚ} (hx : rational? x = some v)
    (hv : Near (drops / 10 ^ 6) v) (hpos : drops ≠ 0) (hbound : drops ≤ 10 ^ 17) :
    ∃ n : ℕ, dropsOf x = UInt64.ofNat n ∧ n < UInt64.size ∧ n ≤ drops + 15 ∧ drops ≤ n + 15 ∧
      (Kept drops → n = drops) := by
  have hone : (1 : ℚ) ≤ drops := by exact_mod_cast Nat.one_le_iff_ne_zero.2 hpos
  have hmost : (drops : ℚ) ≤ 10 ^ 17 := by exact_mod_cast hbound
  have hleast := half_le_xdv hv hpos
  have hgreatest := (hv.bounds (-16) (by norm_num) (by norm_num; linarith)).2
  norm_num at hgreatest
  have hsize : (2 : ℚ) ^ (-200 : ℤ) ≤ v := by
    refine (zpow_le_zpow_right₀ one_le_two (show (-200 : ℤ) ≤ -21 by norm_num)).trans ?_
    norm_num
    linarith
  obtain ⟨p, hproduct, hp⟩ := Decimal.rational?_mul_near hx rational?_dropsPerXdv hsize
    (by norm_num) (by norm_num; linarith)
  have hp₀ : 0 ≤ p := by
    obtain ⟨k, rfl⟩ := hp.grid (-60) (by norm_num; linarith)
    positivity
  have hfloor : (⌊p + 1 / 2⌋₊ : ℚ) ≤ p + 1 / 2 := Nat.floor_le (by linarith)
  have hfloor' : p + 1 / 2 < ⌊p + 1 / 2⌋₊ + 1 := Nat.lt_floor_add_one _
  generalize ⌊p + 1 / 2⌋₊ = n at hfloor hfloor'
  obtain ⟨hclose, hclose'⟩ := whole_close hv hp hbound (n := n) (by linarith) (by linarith)
  have hword : n < UInt64.size := lt_of_le_of_lt (show n ≤ 10 ^ 17 + 15 by omega) (by decide)
  refine ⟨n, Decimal.nearestWord_eq hproduct (by linarith) (by linarith) hword, hword, hclose,
    hclose', fun hkept => ?_⟩
  obtain ⟨hlow, hhigh⟩ := bounds_of_kept hv hp hkept hpos hbound
  exact Decimal.eq_of_lt_succ (by linarith) (by linarith)

namespace Written

variable {text : List Char} {drops : ℕ}

theorem isDigit_or_point (h : Written text drops) : ∀ c ∈ text, isDigit c = true ∨ c = '.' := by
  cases h with
  | whole hne hdigits => exact fun c hc => .inl (hdigits c hc)
  | point hne hdigits hplaces =>
    intro c hc
    rcases List.mem_append.1 hc with hc | hc
    · exact .inl (hdigits c (List.mem_append_left _ hc))
    · rcases List.mem_cons.1 hc with rfl | hc
      · exact .inr rfl
      · exact .inl (hdigits c (List.mem_append_right _ hc))

theorem readReal_eq (h : Written text drops) :
    ∃ mantissa k : ℕ, Decimal.readReal text = .ok (Decimal.nearestReal false mantissa (-(k : ℤ))) ∧
      k ≤ 6 ∧ drops = mantissa * 10 ^ (6 - k) := by
  have hchars := h.isDigit_or_point
  obtain ⟨c, rest, rfl⟩ : ∃ c rest, text = c :: rest := by
    cases h with
    | whole hne => exact List.exists_cons_of_ne_nil hne
    | point => exact List.exists_cons_of_ne_nil (by simp)
  have hread {x : Float} (hfinite : Decimal.readFinite false (c :: rest) = some x) :
      Decimal.readReal (c :: rest) = .ok x :=
    Decimal.readReal_of_readFinite false (hchars c List.mem_cons_self) hfinite
  generalize htext : c :: rest = text at *
  cases h with
  | whole hne hdigits =>
    exact ⟨_, 0, hread (Decimal.readFinite_whole false hne hdigits), by decide, rfl⟩
  | @point whole fraction hne hdigits hplaces =>
    refine ⟨_, fraction.length, hread (Decimal.readFinite_point false whole fraction hne ?_ ?_),
      hplaces, rfl⟩
    · exact fun c hc => hdigits c (List.mem_append_left _ hc)
    · exact fun c hc => hdigits c (List.mem_append_right _ hc)

end Written

theorem isBlank_of_isDigit {c : Char} (h : isDigit c = true ∨ c = '.') :
    Text.isBlank c = false := by
  rcases h with h | rfl
  · exact Text.isBlank_of_isDigit (Decimal.isDigit_eq c ▸ h)
  · decide

/-- A text of digits and points is one part, with no blanks around it. -/
theorem parse_of_readReal {text : String} {x : Float}
    (hchars : ∀ c ∈ text.toList, isDigit c = true ∨ c = '.')
    (hread : Decimal.readReal text.toList = .ok x) (hfinite : x.isFinite = true) (hx : ¬x < 0) :
    parse text = .ok (.native (dropsOf x)) := by
  have hslash : '/' ∉ text.toList := fun hmem => (hchars '/' hmem).elim (by decide) (by decide)
  have hblanks : Text.trimBlanks text.toList = text.toList :=
    Text.trimBlanks_eq_self fun c hc => isBlank_of_isDigit (hchars c hc)
  simp only [parse, Text.splitAtEach_of_not_mem hslash, readValue, hblanks, hread, hfinite, hx,
    if_true, if_false]

/-- An amount in XDV is read as native, at most 15 drops beside what is written, and with exactly
its drops where they are kept. -/
theorem parse_written {text : String} {drops : ℕ} (h : Written text.toList drops)
    (hbound : drops ≤ 10 ^ 17) :
    ∃ read : UInt64, parse text = .ok (.native read) ∧
      read.toNat ≤ drops + 15 ∧ drops ≤ read.toNat + 15 ∧ (Kept drops → read.toNat = drops) := by
  obtain ⟨mantissa, k, hread, hk, hdrops⟩ := h.readReal_eq
  by_cases hzero : mantissa = 0
  · have hnothing : drops = 0 := by rw [hdrops, hzero, Nat.zero_mul]
    rw [hzero, Decimal.nearestReal_zero] at hread
    refine ⟨0, ?_, Nat.zero_le _, by simp [hnothing], fun _ => hnothing.symm⟩
    rw [parse_of_readReal h.isDigit_or_point hread (by decide +kernel) (by decide +kernel)]
    decide +kernel
  · have hmantissa : mantissa ≤ drops := by
      rw [hdrops]
      exact Nat.le_mul_of_pos_right mantissa (by positivity)
    have hpos : drops ≠ 0 := by omega
    obtain ⟨v, hv, hnear⟩ := Decimal.near_nearestReal hzero
      (lt_of_le_of_lt (hmantissa.trans hbound) (by norm_num)) (hk.trans (by norm_num))
    have hxdv : (mantissa / 10 ^ k : ℚ) = drops / 10 ^ 6 := by
      have hpower : (10 : ℚ) ^ (6 - k) * 10 ^ k = 10 ^ 6 := by
        rw [← pow_add, Nat.sub_add_cancel hk]
      rw [hdrops, ← hpower]
      push_cast
      field_simp
    rw [hxdv] at hnear
    obtain ⟨n, hn, hword, hclose, hclose', hkept⟩ := dropsOf_close hv hnear hpos hbound
    have hnonneg : 0 ≤ Decimal.nearestReal false mantissa (-(k : ℤ)) :=
      Decimal.zero_le_of_rational hv (le_trans (by positivity) (half_le_xdv hnear hpos))
    have hparse := parse_of_readReal h.isDigit_or_point hread (Decimal.finite_of_rational hv).1
      fun hneg => ((Decimal.lt_iff_le_not_ge _ _).1 hneg).2 hnonneg
    rw [hn] at hparse
    refine ⟨_, hparse, ?_⟩
    rw [UInt64.toNat_ofNat_of_lt' hword]
    exact ⟨hclose, hclose', hkept⟩

theorem parse_ten_thousand : Written "10000.0".toList 10000000000 ∧ 10000000000 ≤ 10 ^ 17 ∧
    Kept 10000000000 ∧ parse "10000.0" = .ok (.native 10000000000) := by
  have hdigits : ∀ c ∈ "10000".toList ++ "0".toList, isDigit c = true := by
    simp [Decimal.isDigit_iff]
  have hwritten := Written.point (by simp) hdigits (by simp)
  have hdrops : Nat.ofDigitChars 10 ("10000".toList ++ "0".toList) 0 *
      10 ^ (6 - "0".toList.length) = 10000000000 := by simp [Nat.ofDigitChars]
  rw [hdrops] at hwritten
  have hbound : 10000000000 ≤ 10 ^ 17 := by norm_num
  have hkept : Kept 10000000000 := .inl (by norm_num)
  have htext : Written "10000.0".toList 10000000000 := hwritten
  obtain ⟨read, hparse, -, -, hread⟩ := parse_written htext hbound
  have hvalue : read = 10000000000 := UInt64.toNat_inj.1 (hread hkept)
  exact ⟨htext, hbound, hkept, by rw [hparse, hvalue]⟩

/-- The first number of drops that is not read as itself. -/
theorem drop_gained : Written "4294967296.000011".toList 4294967296000011 ∧
    4294967296000011 ≤ 10 ^ 17 ∧
    parse "4294967296.000011" = .ok (.native 4294967296000012) := by
  have hdigits : ∀ c ∈ "4294967296".toList ++ "000011".toList, isDigit c = true := by
    simp [Decimal.isDigit_iff]
  have hwritten := Written.point (by simp) hdigits (by simp)
  have hdrops : Nat.ofDigitChars 10 ("4294967296".toList ++ "000011".toList) 0 *
      10 ^ (6 - "000011".toList.length) = 4294967296000011 := by simp [Nat.ofDigitChars]
  rw [hdrops] at hwritten
  have hread : (parse "4294967296.000011").toOption = some (.native 4294967296000012) := by
    decide +kernel
  refine ⟨hwritten, by norm_num, ?_⟩
  cases hparse : parse "4294967296.000011" with
  | error e => simp [hparse, Except.toOption] at hread
  | ok amount => simpa [hparse, Except.toOption] using hread

end Amount
end LedgerBench
