import LedgerBench.Proofs.Decimal.Digits
import LedgerBench.Proofs.Text.Parts
import LedgerBench.Sweep.Range

/-! Which texts are ranges. A text has one comma with a bound on either side of it, or something is
wrong with it: the number of commas first, then the first side that is no bound, then the order of
the bounds. -/

namespace LedgerBench.Sweep.Range

open Text (Trimmed isBlank)

/-- The two sides of the only comma of a text. -/
structure Sides (text : String) (left right : List Char) : Prop where
  eq : text.toList = left ++ ',' :: right
  left_free : ',' ∉ left
  right_free : ',' ∉ right

/-- A bound as a text: a whole number that fits 64 bits, with blanks around it. -/
def Bound (part : List Char) (n : Nat) : Prop :=
  ∃ core, Trimmed part core ∧ Decimal.Numeral core n ∧ n < 2 ^ 64

/-- The range between the bounds on two sides. -/
def between (left right : List Char) : Except RangeError Range := do
  ofBounds (← readBound left) (← readBound right)

section Sides

variable {text : String} {left right : List Char}

theorem sides_iff :
    Sides text left right ↔ Text.splitAtEach ',' text.toList = [left, right] := by
  rw [Text.splitAtEach_eq_iff]
  simp only [ne_eq, List.cons_ne_nil, not_false_eq_true, true_and, List.forall_mem_cons,
    List.not_mem_nil, false_imp_iff, implies_true, and_true, List.intercalate_cons_cons,
    List.intercalate_singleton]
  rw [List.append_assoc, List.singleton_append]
  exact ⟨fun h => ⟨h.eq.symm, h.left_free, h.right_free⟩, fun h => ⟨h.1.symm, h.2.1, h.2.2⟩⟩

theorem Sides.parse_eq (h : Sides text left right) : parse text = between left right := by
  simp only [parse, sides_iff.1 h, between]

theorem exists_sides_iff : (∃ left right, Sides text left right) ↔ text.toList.count ',' = 1 := by
  have hlength := Text.length_splitAtEach ',' text.toList
  constructor
  · rintro ⟨left, right, h⟩
    rw [sides_iff.1 h] at hlength
    exact (Nat.succ.inj hlength).symm
  · intro h
    rw [h] at hlength
    match hparts : Text.splitAtEach ',' text.toList, hlength with
    | [left, right], _ => exact ⟨left, right, sides_iff.2 hparts⟩

theorem parse_of_count_ne (h : text.toList.count ',' ≠ 1) : parse text = .error .format := by
  unfold parse
  split
  · next low high hparts => exact absurd (exists_sides_iff.1 ⟨low, high, sides_iff.2 hparts⟩) h
  · rfl

end Sides

section Bounds

variable {part left right : List Char} {low high : UInt64}

theorem readBound_eq_ok_iff : readBound part = .ok low ↔ Bound part low.toNat := by
  have hword : readBound part = .ok low ↔
      Decimal.readWord (Text.trimBlanks part) = some low := by
    unfold readBound
    split
    · next bound hread => simp [hread]
    · next hread => simp [hread]
  rw [hword, Decimal.readWord_eq_some_iff]
  constructor
  · intro h
    exact ⟨_, Text.trimmed_trimBlanks part, h, low.toNat_lt⟩
  · rintro ⟨core, htrimmed, hnumeral, -⟩
    rwa [htrimmed.trimBlanks_eq]

theorem readBound_cases (part : List Char) :
    (∃ bound, readBound part = .ok bound) ∨
      readBound part = .error (.notANumber (String.ofList part)) := by
  unfold readBound
  split
  · exact .inl ⟨_, rfl⟩
  · exact .inr rfl

theorem exists_bound_iff : (∃ n, Bound part n) ↔ ∃ bound, readBound part = .ok bound := by
  constructor
  · rintro ⟨n, core, htrimmed, hnumeral, hlt⟩
    refine ⟨UInt64.ofNat n, readBound_eq_ok_iff.2 ⟨core, htrimmed, ?_⟩⟩
    rw [UInt64.toNat_ofNat_of_lt' hlt]
    exact ⟨hnumeral, hlt⟩
  · rintro ⟨bound, h⟩
    exact ⟨_, readBound_eq_ok_iff.1 h⟩

theorem readBound_eq_error (h : ∀ n, ¬Bound part n) :
    readBound part = .error (.notANumber (String.ofList part)) := by
  refine (readBound_cases part).resolve_left fun hread => ?_
  obtain ⟨n, hn⟩ := exists_bound_iff.2 hread
  exact h n hn

end Bounds

/-- What a text is read as: the range between its two bounds, or the first thing that is wrong. -/
inductive Reading (text : String) : Except RangeError Range → Prop where
  | commas (hcommas : text.toList.count ',' ≠ 1) : Reading text (.error .format)
  | left {left right : List Char} (hsides : Sides text left right)
      (hleft : ∀ n, ¬Bound left n) : Reading text (.error (.notANumber (String.ofList left)))
  | right {left right : List Char} (hsides : Sides text left right) (hleft : ∃ n, Bound left n)
      (hright : ∀ n, ¬Bound right n) : Reading text (.error (.notANumber (String.ofList right)))
  | reversed {left right : List Char} {low high : UInt64} (hsides : Sides text left right)
      (hlow : Bound left low.toNat) (hhigh : Bound right high.toNat) (hlt : high < low) :
      Reading text (.error (.reversed low high))
  | range {left right : List Char} {low high : UInt64} (hsides : Sides text left right)
      (hlow : Bound left low.toNat) (hhigh : Bound right high.toNat) (hle : low ≤ high) :
      Reading text (.ok ⟨low, high, hle⟩)

namespace Reading

variable {text : String} {left right : List Char} {low high : UInt64}

theorem between_of_bounds (hlow : Bound left low.toNat) (hhigh : Bound right high.toNat) :
    between left right = ofBounds low high := by
  rw [between, readBound_eq_ok_iff.2 hlow, readBound_eq_ok_iff.2 hhigh]
  rfl

theorem parse_eq {result : Except RangeError Range} (h : Reading text result) :
    parse text = result := by
  cases h with
  | commas hcommas => exact parse_of_count_ne hcommas
  | left hsides hleft =>
    rw [hsides.parse_eq, between, readBound_eq_error hleft]
    rfl
  | right hsides hleft hright =>
    obtain ⟨low, hlow⟩ := exists_bound_iff.1 hleft
    rw [hsides.parse_eq, between, hlow, readBound_eq_error hright]
    rfl
  | reversed hsides hlow hhigh hlt =>
    rw [hsides.parse_eq, between_of_bounds hlow hhigh, ofBounds, dif_neg (UInt64.not_le.2 hlt)]
  | range hsides hlow hhigh hle =>
    rw [hsides.parse_eq, between_of_bounds hlow hhigh, ofBounds, dif_pos hle]

theorem exists_of_sides (hsides : Sides text left right) : ∃ result, Reading text result := by
  by_cases hleft : ∃ n, Bound left n
  · by_cases hright : ∃ n, Bound right n
    · obtain ⟨low, hlow⟩ := exists_bound_iff.1 hleft
      obtain ⟨high, hhigh⟩ := exists_bound_iff.1 hright
      rw [readBound_eq_ok_iff] at hlow hhigh
      by_cases hle : low ≤ high
      · exact ⟨_, .range hsides hlow hhigh hle⟩
      · exact ⟨_, .reversed hsides hlow hhigh (UInt64.not_le.1 hle)⟩
    · exact ⟨_, .right hsides hleft (not_exists.1 hright)⟩
  · exact ⟨_, .left hsides (not_exists.1 hleft)⟩

theorem of_parse (text : String) : Reading text (Range.parse text) := by
  obtain ⟨result, h⟩ : ∃ result, Reading text result := by
    by_cases hcommas : text.toList.count ',' = 1
    · obtain ⟨left, right, hsides⟩ := exists_sides_iff.2 hcommas
      exact exists_of_sides hsides
    · exact ⟨_, .commas hcommas⟩
  rwa [h.parse_eq]

end Reading

section Written

variable {left right : List Char}

theorem Bound.comma_not_mem {part : List Char} {n : Nat} (h : Bound part n) : ',' ∉ part := by
  obtain ⟨core, ⟨⟨before, after, rfl, hblanks⟩, -, -⟩, hnumeral, -⟩ := h
  intro hmem
  have hblank : ',' ∉ before ++ after := fun hc => absurd (hblanks ',' hc) (by decide)
  have hcore : ',' ∉ core := fun hc =>
    (hnumeral.isDigit_or_plus ',' hc).elim (by decide) (by decide)
  simp only [List.mem_append, not_or] at hmem hblank
  exact hmem.elim (fun h => h.elim hblank.1 hcore) hblank.2

theorem bound_toString (n : UInt64) {before after : List Char}
    (hblanks : ∀ c ∈ before ++ after, isBlank c = true) :
    Bound (before ++ (toString n.toNat).toList ++ after) n.toNat := by
  have hnumeral := Decimal.numeral_toString n.toNat
  refine ⟨_, .of_not_blank (fun c hc => ?_) hblanks, hnumeral, n.toNat_lt⟩
  rcases hnumeral.isDigit_or_plus c hc with hdigit | rfl
  · exact Text.isBlank_of_isDigit hdigit
  · decide

theorem sides_of_bounds {low high : Nat} (hlow : Bound left low) (hhigh : Bound right high) :
    Sides (String.ofList (left ++ ',' :: right)) left right :=
  ⟨String.toList_ofList, hlow.comma_not_mem, hhigh.comma_not_mem⟩

theorem low_add_length (range : Range) : range.low.toNat + range.length = range.high.toNat :=
  Nat.add_sub_cancel' (UInt64.le_iff_toNat_le.1 range.low_le_high)

end Written

/-- A text is a range exactly if there is one comma in it, with a bound on either side and the lower
one first. Otherwise the first thing that is wrong is told. Whatever blanks stand around the bounds
of a range, it is read back from them, and its runs are counted without leaving 64 bits. -/
theorem parse_grammar :
    (∀ text result, parse text = result ↔ Reading text result) ∧
    (∀ (range : Range) (a b c d : List Char), (∀ x ∈ a ++ b, isBlank x = true) →
      (∀ x ∈ c ++ d, isBlank x = true) →
      parse (String.ofList (a ++ (toString range.low.toNat).toList ++ b ++
        ',' :: (c ++ (toString range.high.toNat).toList ++ d))) = .ok range) ∧
    ∀ text range, parse text = .ok range →
      range.low.toNat + range.length = range.high.toNat ∧
        (range.high - range.low).toNat = range.length := by
  refine ⟨fun text result => ?_, fun range a b c d hlows hhighs => ?_, fun text range h => ?_⟩
  · constructor
    · rintro rfl
      exact .of_parse text
    · exact Reading.parse_eq
  · have hlow := bound_toString range.low hlows
    have hhigh := bound_toString range.high hhighs
    exact (Reading.range (sides_of_bounds hlow hhigh) hlow hhigh range.low_le_high).parse_eq
  · exact ⟨range.low_add_length, UInt64.toNat_sub_of_le _ _ range.low_le_high⟩

/-- Blanks of several kinds around the bounds. -/
theorem parse_spaced :
    let range : Range := ⟨5, 10, by decide⟩
    (∀ c ∈ [' '] ++ ['\t'], isBlank c = true) ∧ (∀ c ∈ ['\u2003'] ++ ['\n'], isBlank c = true) ∧
      parse " 5\t,\u200310\n" = .ok range ∧ 5 + range.length = 10 := by
  intro range
  obtain ⟨-, hspaced, hlength⟩ := parse_grammar
  have hlows : ∀ c ∈ [' '] ++ ['\t'], isBlank c = true := List.all_eq_true.1 (by decide)
  have hhighs : ∀ c ∈ ['\u2003'] ++ ['\n'], isBlank c = true := List.all_eq_true.1 (by decide)
  have htext : String.ofList ([' '] ++ (toString range.low.toNat).toList ++ ['\t'] ++
      ',' :: (['\u2003'] ++ (toString range.high.toNat).toList ++ ['\n'])) =
        " 5\t,\u200310\n" := by
    decide +kernel
  have hparse := hspaced range [' '] ['\t'] ['\u2003'] ['\n'] hlows hhighs
  rw [htext] at hparse
  exact ⟨hlows, hhighs, hparse, (hlength _ _ hparse).1⟩

end LedgerBench.Sweep.Range
