import LedgerBench.Text.Blank
import Mathlib.Data.List.TakeWhile

/-! The parts of a text and what trimming leaves of one. Texts with a character between them are
taken apart again, and a trimmed text is what stands between two runs of blanks. -/

namespace LedgerBench.Text

section Split

variable {c : Char}

theorem splitAtEach_append {part : List Char} (h : c ∉ part) (rest : List Char) :
    splitAtEach c (part ++ c :: rest) = part :: splitAtEach c rest := by
  induction part with
  | nil => simp [splitAtEach]
  | cons d part ih =>
    obtain ⟨hne, hpart⟩ := not_or.1 (mt List.mem_cons.2 h)
    have hd : d ≠ c := fun heq => hne heq.symm
    simp [splitAtEach, hd, ih hpart]

theorem splitAtEach_cons_of_ne {d : Char} (h : d ≠ c) (s : List Char) :
    ∃ part parts, splitAtEach c s = part :: parts ∧
      splitAtEach c (d :: s) = (d :: part) :: parts := by
  obtain ⟨part, parts, hparts⟩ := List.exists_cons_of_ne_nil (splitAtEach_ne_nil c s)
  exact ⟨part, parts, hparts, by simp [splitAtEach, h, hparts]⟩

theorem intercalate_splitAtEach (c : Char) (s : List Char) :
    [c].intercalate (splitAtEach c s) = s := by
  induction s with
  | nil => rfl
  | cons d s ih =>
    by_cases h : d = c
    · obtain ⟨part, parts, hparts⟩ := List.exists_cons_of_ne_nil (splitAtEach_ne_nil c s)
      rw [hparts] at ih
      simp [splitAtEach, h, hparts, List.intercalate_cons_cons, ih]
    · obtain ⟨part, parts, hparts, hmore⟩ := splitAtEach_cons_of_ne h s
      rw [hparts] at ih
      rw [hmore, ← ih]
      cases parts with
      | nil => simp
      | cons next parts => simp [List.intercalate_cons_cons]

theorem not_mem_of_mem_splitAtEach {s part : List Char} (h : part ∈ splitAtEach c s) :
    c ∉ part := by
  induction s generalizing part with
  | nil =>
    rw [List.mem_singleton.1 h]
    exact List.not_mem_nil
  | cons d s ih =>
    by_cases hd : d = c
    · rw [splitAtEach, if_pos hd] at h
      rcases List.mem_cons.1 h with rfl | hmem
      · exact List.not_mem_nil
      · exact ih hmem
    · obtain ⟨first, parts, hparts, hmore⟩ := splitAtEach_cons_of_ne hd s
      rw [hmore] at h
      rcases List.mem_cons.1 h with rfl | hmem
      · refine List.not_mem_cons_of_ne_of_not_mem (Ne.symm hd) (ih ?_)
        rw [hparts]
        exact List.mem_cons_self
      · refine ih ?_
        rw [hparts]
        exact List.mem_cons_of_mem _ hmem

/-- The parts of a text are the texts without the character that make up the text when the
character is put between them. -/
theorem splitAtEach_eq_iff {s : List Char} {parts : List (List Char)} :
    splitAtEach c s = parts ↔
      parts ≠ [] ∧ [c].intercalate parts = s ∧ ∀ part ∈ parts, c ∉ part := by
  constructor
  · rintro rfl
    exact ⟨splitAtEach_ne_nil c s, intercalate_splitAtEach c s,
      fun _ => not_mem_of_mem_splitAtEach⟩
  · rintro ⟨hne, rfl, hparts⟩
    induction parts with
    | nil => exact absurd rfl hne
    | cons part parts ih =>
      obtain ⟨hpart, hrest⟩ := List.forall_mem_cons.1 hparts
      cases parts with
      | nil => simpa using splitAtEach_of_not_mem hpart
      | cons next parts =>
        rw [List.intercalate_cons_cons, List.append_assoc, List.singleton_append,
          splitAtEach_append hpart, ih (List.cons_ne_nil _ _) hrest]

end Split

section Trim

/-- The second text is the first one without the blanks at its two ends. -/
structure Trimmed (s core : List Char) : Prop where
  between : ∃ before after, s = before ++ core ++ after ∧ ∀ c ∈ before ++ after, isBlank c = true
  first : ∀ c ∈ core.head?, isBlank c = false
  last : ∀ c ∈ core.getLast?, isBlank c = false

theorem Trimmed.of_not_blank {before core after : List Char}
    (hcore : ∀ c ∈ core, isBlank c = false) (hblanks : ∀ c ∈ before ++ after, isBlank c = true) :
    Trimmed (before ++ core ++ after) core :=
  ⟨⟨before, after, rfl, hblanks⟩, fun c hc => hcore c (List.mem_of_mem_head? hc),
    fun c hc => hcore c (List.mem_of_mem_getLast? hc)⟩

theorem isBlank_of_isDigit {c : Char} (h : c.isDigit = true) : isBlank c = false := by
  simp only [Char.isDigit, Bool.and_eq_true, decide_eq_true_eq, ge_iff_le,
    UInt32.le_iff_toNat_le] at h
  have hlow : 48 ≤ c.toNat := h.1
  have hhigh : c.toNat ≤ 57 := h.2
  simp only [isBlank, Bool.or_eq_false_iff, Bool.and_eq_false_iff, decide_eq_false_iff_not,
    beq_eq_false_iff_ne]
  omega

theorem dropWhile_of_head {p : Char → Bool} {s : List Char} (h : ∀ c ∈ s.head?, p c = false) :
    s.dropWhile p = s := by
  cases s with
  | nil => rfl
  | cons c s => exact List.dropWhile_cons_of_neg (by simp [h c rfl])

theorem head?_dropWhile_eq_false {p : Char → Bool} {s : List Char} :
    ∀ c ∈ (s.dropWhile p).head?, p c = false := by
  intro c hc
  have hhead := List.head?_dropWhile_not p s
  rw [Option.mem_def.1 hc] at hhead
  exact hhead

theorem trimmed_trimBlanks (s : List Char) : Trimmed s (trimBlanks s) := by
  have hstart : s.takeWhile isBlank ++ s.dropWhile isBlank = s := List.takeWhile_append_dropWhile
  generalize hrest : s.dropWhile isBlank = rest at hstart
  have hend : rest.reverse.takeWhile isBlank ++ rest.reverse.dropWhile isBlank = rest.reverse :=
    List.takeWhile_append_dropWhile
  generalize hcore : rest.reverse.dropWhile isBlank = core at hend
  have htrim : trimBlanks s = core.reverse := by rw [trimBlanks, hrest, hcore]
  have hsplit : rest = core.reverse ++ (rest.reverse.takeWhile isBlank).reverse := by
    rw [← List.reverse_append, hend, List.reverse_reverse]
  rw [htrim]
  refine ⟨⟨s.takeWhile isBlank, (rest.reverse.takeWhile isBlank).reverse, ?_, ?_⟩, ?_, ?_⟩
  · rw [List.append_assoc, ← hsplit, hstart]
  · intro c hc
    rcases List.mem_append.1 hc with hc | hc
    · exact List.mem_takeWhile_imp hc
    · exact List.mem_takeWhile_imp (List.mem_reverse.1 hc)
  · intro c hc
    have hhead : c ∈ rest.head? := by
      rw [hsplit, List.head?_append, Option.mem_def.1 hc]
      rfl
    rw [← hrest] at hhead
    exact head?_dropWhile_eq_false c hhead
  · intro c hc
    rw [List.getLast?_reverse, ← hcore] at hc
    exact head?_dropWhile_eq_false c hc

theorem Trimmed.trimBlanks_eq {s core : List Char} (h : Trimmed s core) : trimBlanks s = core := by
  obtain ⟨⟨before, after, rfl, hblanks⟩, hfirst, hlast⟩ := h
  have hbefore : ∀ c ∈ before, isBlank c = true := fun c hc =>
    hblanks c (List.mem_append_left _ hc)
  have hafter : ∀ c ∈ after.reverse, isBlank c = true := fun c hc =>
    hblanks c (List.mem_append_right _ (List.mem_reverse.1 hc))
  rw [trimBlanks, List.append_assoc, List.dropWhile_append_of_pos hbefore]
  cases core with
  | nil =>
    have hnone : after.dropWhile isBlank = [] :=
      List.dropWhile_eq_nil_iff.2 fun c hc => hafter c (List.mem_reverse.2 hc)
    rw [List.nil_append, hnone]
    rfl
  | cons c core =>
    rw [dropWhile_of_head (s := c :: core ++ after) hfirst, List.reverse_append,
      List.dropWhile_append_of_pos hafter, dropWhile_of_head, List.reverse_reverse]
    rw [List.head?_reverse]
    exact hlast

theorem trimBlanks_eq_iff {s core : List Char} : trimBlanks s = core ↔ Trimmed s core :=
  ⟨fun h => h ▸ trimmed_trimBlanks s, Trimmed.trimBlanks_eq⟩

end Trim
end LedgerBench.Text
