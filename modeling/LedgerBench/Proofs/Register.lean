import LedgerBench.Register
import Mathlib.Algebra.GroupWithZero.Nat
import Mathlib.Algebra.Order.BigOperators.Group.List
import Mathlib.Algebra.Order.Group.Nat

/-! The entries of a register by their keys, and sums over them. Putting an entry in its place
changes a sum by what the entry counts, less what the one that stood there before counted. -/

namespace LedgerBench.Register

variable {κ α : Type} [Ord κ]

theorem find?_of_lt {k : κ} {l : List (κ × α)} (h : ∀ e ∈ l, compare k e.1 = .lt) :
    (l.find? fun e => compare k e.1 == .eq) = none := by
  rw [List.find?_eq_none]
  intro e he
  simp [h e he]

def total (measure : α → Nat) (r : Register κ α) : Nat :=
  (r.values.map measure).sum

@[simp] theorem total_empty (measure : α → Nat) : (empty : Register κ α).total measure = 0 := rfl

theorem total_update (measure : α → Nat) (r : Register κ α) (k : κ) (f : α → α)
    (h : ∀ a, measure (f a) = measure a) : (r.update k f).total measure = r.total measure := by
  have hentry : ∀ e : κ × α, measure (changeEntry k f e).2 = measure e.2 := by
    intro e
    by_cases hk : compare k e.1 = .eq <;> simp [changeEntry, hk, h]
  simp only [total, values, update, List.map_map, Function.comp_def, hentry]

theorem keys_update (r : Register κ α) (k : κ) (f : α → α) : (r.update k f).keys = r.keys := by
  simp only [keys, update, List.map_map, Function.comp_def, changeEntry_fst]

theorem countP_insertEntry (p : κ × α → Bool) {k : κ} (a : α) {l : List (κ × α)}
    (h : ∀ e ∈ l, compare k e.1 ≠ .eq) :
    (insertEntry k a l).countP p = l.countP p + if p (k, a) then 1 else 0 := by
  induction l with
  | nil => simp [insertEntry, List.countP_cons]
  | cons e rest ih =>
    obtain ⟨hne, hrest⟩ := List.forall_mem_cons.1 h
    simp only [insertEntry]
    cases hc : compare k e.1 with
    | lt => rw [List.countP_cons]
    | eq => exact absurd hc hne
    | gt =>
      rw [List.countP_cons, ih hrest, List.countP_cons]
      omega

/-- What is looked for among the values is found as before if neither the new value nor the one in
its place is it. -/
theorem find?_values_insertEntry {p : α → Bool} {k : κ} {a : α} (ha : p a = false)
    {l : List (κ × α)} (hold : ∀ e ∈ l, compare k e.1 = .eq → p e.2 = false) :
    ((insertEntry k a l).map (·.2)).find? p = (l.map (·.2)).find? p := by
  induction l with
  | nil => simp [insertEntry, ha]
  | cons e rest ih =>
    obtain ⟨he, hrest⟩ := List.forall_mem_cons.1 hold
    simp only [insertEntry]
    cases hc : compare k e.1 with
    | lt => simp [ha]
    | eq => simp [ha, he hc]
    | gt => simp only [List.map_cons, List.find?_cons, ih hrest]

section Order

variable [Std.TransOrd κ]

theorem sum_insertEntry (measure : α → Nat) (k : κ) (a : α) {l : List (κ × α)}
    (h : l.Pairwise fun a b => compare a.1 b.1 = .lt) :
    ((insertEntry k a l).map fun e => measure e.2).sum +
        ((l.find? fun e => compare k e.1 == .eq).map fun e => measure e.2).getD 0 =
      (l.map fun e => measure e.2).sum + measure a := by
  induction l with
  | nil => simp [insertEntry]
  | cons e rest ih =>
    obtain ⟨he, hrest⟩ := List.pairwise_cons.1 h
    have hr := ih hrest
    simp only [insertEntry]
    cases hc : compare k e.1 with
    | lt =>
      have hnone := find?_of_lt fun b hb => Std.TransCmp.lt_trans hc (he b hb)
      simp [hc, hnone]
      omega
    | eq =>
      simp [hc]
      omega
    | gt =>
      have hne : (Ordering.gt == Ordering.eq) = false := rfl
      simp only [List.map_cons, List.sum_cons, List.find?_cons, hc, hne] at hr ⊢
      omega

variable [Std.LawfulEqOrd κ]

theorem total_insert (measure : α → Nat) (r : Register κ α) (k : κ) (a : α) :
    (r.insert k a).total measure + ((r.get? k).map measure).getD 0 =
      r.total measure + measure a := by
  have hh := sum_insertEntry measure k a r.ordered
  simpa [total, values, get?, insert, Function.comp_def] using hh

theorem get?_insert_self (r : Register κ α) (k : κ) (a : α) : (r.insert k a).get? k = some a := by
  simp [get?_insert, Std.ReflOrd.compare_self]

theorem get?_insert_of_ne (r : Register κ α) {k j : κ} (a : α) (h : j ≠ k) :
    (r.insert k a).get? j = r.get? j := by
  have hc : compare j k ≠ .eq := fun he => h (Std.LawfulEqCmp.eq_of_compare he)
  simp [get?_insert, hc]

end Order

section Lookup

variable [Std.LawfulEqOrd κ]

theorem get?_update_self (r : Register κ α) (k : κ) (f : α → α) :
    (r.update k f).get? k = (r.get? k).map f := by
  simp [get?_update, Std.ReflOrd.compare_self]

theorem get?_update_of_ne (r : Register κ α) {k j : κ} (f : α → α) (h : j ≠ k) :
    (r.update k f).get? j = r.get? j := by
  have hc : compare j k ≠ .eq := fun he => h (Std.LawfulEqCmp.eq_of_compare he)
  simp [get?_update, hc]

theorem mem_entries_of_get? {r : Register κ α} {k : κ} {a : α} (h : r.get? k = some a) :
    (k, a) ∈ r.entries := by
  simp only [get?, Option.map_eq_some_iff] at h
  obtain ⟨e, he, rfl⟩ := h
  have hk := List.find?_some he
  rw [Std.LawfulEqCmp.eq_of_compare (beq_iff_eq.1 hk)]
  exact List.mem_of_find?_eq_some he

theorem filter_entries_eq_singleton {r : Register κ α} {k : κ} {a : α} (h : r.get? k = some a)
    {p : κ × α → Bool} (hp : p (k, a) = true) (honly : ∀ e ∈ r.entries, p e = true → e.1 = k) :
    r.entries.filter p = [(k, a)] := by
  have hmem : (k, a) ∈ r.entries.filter p := List.mem_filter.2 ⟨mem_entries_of_get? h, hp⟩
  have hkeys : ∀ e ∈ r.entries.filter p, e.1 = k := fun e he =>
    honly e (List.mem_filter.1 he).1 (List.mem_filter.1 he).2
  have hordered := r.ordered.filter p
  generalize r.entries.filter p = l at hmem hkeys hordered
  match l with
  | [] => cases hmem
  | [e] => rw [List.mem_singleton.1 hmem]
  | e :: e' :: rest =>
    have hlt := (List.pairwise_cons.1 hordered).1 e' List.mem_cons_self
    rw [hkeys e List.mem_cons_self, hkeys e' (by simp), Std.ReflOrd.compare_self] at hlt
    cases hlt

theorem get?_eq_some_iff {r : Register κ α} {k : κ} {a : α} :
    r.get? k = some a ↔ (k, a) ∈ r.entries := by
  refine ⟨mem_entries_of_get?, fun h => ?_⟩
  obtain ⟨l, hl⟩ := r
  simp only [get?]
  induction l with
  | nil => cases h
  | cons e rest ih =>
    obtain ⟨he, hrest⟩ := List.pairwise_cons.1 hl
    rcases List.mem_cons.1 h with rfl | hmem
    · simp [Std.ReflOrd.compare_self]
    · have hne : (compare k e.1 == .eq) = false := by
        rw [beq_eq_false_iff_ne]
        intro heq
        have hlt := he _ hmem
        rw [Std.LawfulEqCmp.eq_of_compare heq, Std.ReflOrd.compare_self] at hlt
        cases hlt
      rw [List.find?_cons, hne]
      exact ih hrest hmem

/-- A change counts only if what is held under the key counts otherwise than before. -/
theorem countP_update (p : κ × α → Bool) {r : Register κ α} {k : κ} {f : α → α}
    (h : ∀ a, r.get? k = some a → p (k, f a) = p (k, a)) :
    (r.update k f).entries.countP p = r.entries.countP p := by
  rw [update, List.countP_map]
  refine List.countP_congr fun e he => ?_
  rw [Function.comp_apply]
  by_cases hc : compare k e.1 = .eq
  · have hk := Std.LawfulEqCmp.eq_of_compare hc
    subst hk
    have hsame := h e.2 (get?_eq_some_iff.2 he)
    simp [changeEntry, Std.ReflOrd.compare_self, hsame]
  · simp [changeEntry, hc]

theorem countP_insert [Std.TransOrd κ] (p : κ × α → Bool) {r : Register κ α} {k : κ} (a : α)
    (h : r.get? k = none) :
    (r.insert k a).entries.countP p = r.entries.countP p + if p (k, a) then 1 else 0 := by
  refine countP_insertEntry p a fun e he hc => ?_
  rw [Std.LawfulEqCmp.eq_of_compare hc, get?_eq_some_iff.2 he] at h
  cases h

theorem mem_keys_iff {r : Register κ α} {k : κ} : k ∈ r.keys ↔ (r.get? k).isSome := by
  rw [Option.isSome_iff_exists]
  constructor
  · intro h
    obtain ⟨⟨j, a⟩, hentry, rfl⟩ := List.mem_map.1 h
    exact ⟨a, get?_eq_some_iff.2 hentry⟩
  · rintro ⟨a, ha⟩
    exact List.mem_map_of_mem (mem_entries_of_get? ha)

theorem mem_keys_insert [Std.TransOrd κ] {r : Register κ α} {k j : κ} {a : α} :
    j ∈ (r.insert k a).keys ↔ j = k ∨ j ∈ r.keys := by
  rw [mem_keys_iff, mem_keys_iff, get?_insert]
  by_cases h : compare j k = .eq
  · simp [Std.LawfulEqCmp.eq_of_compare h]
  · have hne : j ≠ k := by
      rintro rfl
      exact h Std.ReflOrd.compare_self
    simp [h, hne]

/-- The value that is found is the one under the least key of all that are looked for. -/
theorem find?_values_eq_some_iff [Std.TransOrd κ] {r : Register κ α} {p : α → Bool} {a : α} :
    r.values.find? p = some a ↔
      ∃ k, r.get? k = some a ∧ p a = true ∧
        ∀ j b, r.get? j = some b → p b = true → compare k j ≠ .gt := by
  simp only [get?_eq_some_iff, values]
  obtain ⟨l, hl⟩ := r
  induction l with
  | nil => simp
  | cons e rest ih =>
    obtain ⟨he, hrest⟩ := List.pairwise_cons.1 hl
    rw [List.map_cons, List.find?_cons]
    cases hp : p e.2 with
    | true =>
      constructor
      · rintro ⟨rfl⟩
        refine ⟨e.1, List.mem_cons_self, hp, fun j b hmem _ => ?_⟩
        rcases List.mem_cons.1 hmem with rfl | hmem
        · simp [Std.ReflOrd.compare_self]
        · simp [he _ hmem]
      · rintro ⟨k, hmem, -, hleast⟩
        rcases List.mem_cons.1 hmem with rfl | hmem
        · rfl
        · have hlt := he _ hmem
          exact absurd (Std.OrientedCmp.gt_of_lt hlt) (hleast e.1 e.2 List.mem_cons_self hp)
    | false =>
      have hskip : ∀ j b, p b = true → ((j, b) ∈ e :: rest ↔ (j, b) ∈ rest) := by
        refine fun j b hb => List.mem_cons.trans (or_iff_right ?_)
        rintro rfl
        rw [hp] at hb
        cases hb
      refine (ih hrest).trans (exists_congr fun k => ?_)
      constructor
      · rintro ⟨hmem, ha, hleast⟩
        exact ⟨(hskip k a ha).2 hmem, ha, fun j b hj hb => hleast j b ((hskip j b hb).1 hj) hb⟩
      · rintro ⟨hmem, ha, hleast⟩
        exact ⟨(hskip k a ha).1 hmem, ha, fun j b hj hb => hleast j b ((hskip j b hb).2 hj) hb⟩

theorem le_total (measure : α → Nat) {r : Register κ α} {k : κ} {a : α} (h : r.get? k = some a) :
    measure a ≤ r.total measure := by
  have hm : a ∈ r.values := List.mem_map_of_mem (mem_entries_of_get? h)
  exact List.single_le_sum (by simp) _ (List.mem_map_of_mem hm)

end Lookup

end LedgerBench.Register
