/-! A register keeps entries in the order of their keys, each key once. What it holds under a key
after an entry or a change is said by `get?_insert` and `get?_update`. -/

namespace LedgerBench

structure Register (κ α : Type) [Ord κ] where
  entries : List (κ × α)
  ordered : entries.Pairwise fun a b => compare a.1 b.1 = .lt

namespace Register

variable {κ α : Type} [Ord κ]

/-- Puts an entry at its place, over an entry under the same key. -/
def insertEntry (k : κ) (a : α) : List (κ × α) → List (κ × α)
  | [] => [(k, a)]
  | e :: rest =>
    match compare k e.1 with
    | .lt => (k, a) :: e :: rest
    | .eq => (k, a) :: rest
    | .gt => e :: insertEntry k a rest

theorem forall_insertEntry {k : κ} {a : α} {p : κ × α → Prop} (hk : p (k, a))
    {l : List (κ × α)} (h : ∀ e ∈ l, p e) : ∀ e ∈ insertEntry k a l, p e := by
  induction l with
  | nil => simpa [insertEntry] using hk
  | cons e rest ih =>
    simp only [insertEntry]
    have hr := ih fun e he => h e (List.mem_cons_of_mem _ he)
    have he := h e List.mem_cons_self
    have hrest : ∀ e ∈ rest, p e := fun e he => h e (List.mem_cons_of_mem _ he)
    split <;> simp_all

theorem insertEntry_ordered [Std.TransOrd κ] [Std.LawfulEqOrd κ] (k : κ) (a : α)
    {l : List (κ × α)} (h : l.Pairwise fun a b => compare a.1 b.1 = .lt) :
    (insertEntry k a l).Pairwise fun a b => compare a.1 b.1 = .lt := by
  induction l with
  | nil => simp [insertEntry]
  | cons e rest ih =>
    rw [List.pairwise_cons] at h
    simp only [insertEntry]
    split
    case h_1 hlt =>
      refine List.pairwise_cons.2 ⟨?_, List.pairwise_cons.2 h⟩
      intro b hb
      rcases List.mem_cons.1 hb with rfl | hb
      · exact hlt
      · exact Std.TransCmp.lt_trans hlt (h.1 b hb)
    case h_2 heq =>
      refine List.pairwise_cons.2 ⟨?_, h.2⟩
      intro b hb
      rw [Std.LawfulEqCmp.eq_of_compare heq]
      exact h.1 b hb
    case h_3 hgt =>
      refine List.pairwise_cons.2 ⟨?_, ih h.2⟩
      exact forall_insertEntry (Std.OrientedCmp.lt_of_gt hgt) h.1

def empty : Register κ α := ⟨[], .nil⟩

instance : Inhabited (Register κ α) := ⟨empty⟩

def insert [Std.TransOrd κ] [Std.LawfulEqOrd κ] (r : Register κ α) (k : κ) (a : α) :
    Register κ α :=
  ⟨insertEntry k a r.entries, insertEntry_ordered k a r.ordered⟩

def get? (r : Register κ α) (k : κ) : Option α :=
  (r.entries.find? fun e => compare k e.1 == .eq).map (·.2)

def contains (r : Register κ α) (k : κ) : Bool :=
  (r.get? k).isSome

def changeEntry (k : κ) (f : α → α) (e : κ × α) : κ × α :=
  if compare k e.1 == .eq then (e.1, f e.2) else e

theorem changeEntry_fst (k : κ) (f : α → α) (e : κ × α) : (changeEntry k f e).1 = e.1 := by
  unfold changeEntry
  split <;> rfl

/-- Changes what is held under a key; nothing happens when nothing is. -/
def update (r : Register κ α) (k : κ) (f : α → α) : Register κ α :=
  ⟨r.entries.map (changeEntry k f), by
    rw [List.pairwise_map]
    simpa only [changeEntry_fst] using r.ordered⟩

def erase (r : Register κ α) (k : κ) : Register κ α :=
  ⟨r.entries.filter fun e => compare k e.1 != .eq, r.ordered.filter _⟩

def keys (r : Register κ α) : List κ :=
  r.entries.map (·.1)

def values (r : Register κ α) : List α :=
  r.entries.map (·.2)

@[simp] theorem get?_empty (k : κ) : (empty : Register κ α).get? k = none := rfl

section Lookup

variable [Std.TransOrd κ] [Std.LawfulEqOrd κ]

omit [Std.TransOrd κ] in
theorem find?_insertEntry (k j : κ) (a : α) (l : List (κ × α))
    (h : l.Pairwise fun a b => compare a.1 b.1 = .lt) :
    ((insertEntry k a l).find? fun e => compare j e.1 == .eq).map (·.2) =
      if compare j k = .eq then some a
      else (l.find? fun e => compare j e.1 == .eq).map (·.2) := by
  induction l with
  | nil => by_cases hj : compare j k = .eq <;> simp [insertEntry, List.find?, hj]
  | cons e rest ih =>
    have ih := ih (List.pairwise_cons.1 h).2
    simp only [insertEntry]
    split
    case h_1 => by_cases hj : compare j k = .eq <;> simp [hj]
    case h_2 heq =>
      have hke := Std.LawfulEqCmp.eq_of_compare heq
      by_cases hj : compare j k = .eq
      · simp [hj]
      · have hje : compare j e.1 ≠ .eq := hke ▸ hj
        simp [hj, hje]
    case h_3 hgt =>
      by_cases hje : compare j e.1 = .eq
      · have hjk : compare j k ≠ .eq := by
          intro hjk
          have h1 := Std.LawfulEqCmp.eq_of_compare hje
          have h2 := Std.LawfulEqCmp.eq_of_compare hjk
          rw [← h2, ← h1, Std.ReflOrd.compare_self] at hgt
          cases hgt
        simp [hje, hjk]
      · have hb : (compare j e.1 == .eq) = false := by simpa using hje
        simpa only [List.find?_cons, hb] using ih

theorem get?_insert (r : Register κ α) (k j : κ) (a : α) :
    (r.insert k a).get? j = if compare j k = .eq then some a else r.get? j :=
  find?_insertEntry k j a r.entries r.ordered

omit [Std.TransOrd κ] in
theorem get?_update (r : Register κ α) (k j : κ) (f : α → α) :
    (r.update k f).get? j = if compare j k = .eq then (r.get? j).map f else r.get? j := by
  obtain ⟨l, h⟩ := r
  simp only [get?, update]
  clear h
  induction l with
  | nil => simp
  | cons e rest ih =>
    simp only [List.map_cons, List.find?_cons, changeEntry_fst]
    by_cases hje : compare j e.1 = .eq
    · have h1 := Std.LawfulEqCmp.eq_of_compare hje
      by_cases hjk : compare j k = .eq
      · have h2 := Std.LawfulEqCmp.eq_of_compare hjk
        have hke : compare k e.1 = .eq := by rw [← h2]; exact hje
        simp [hje, hjk, changeEntry, hke]
      · have hke : compare k e.1 ≠ .eq := by
          intro hke
          have h2 := Std.LawfulEqCmp.eq_of_compare hke
          exact hjk (by rw [h1, h2]; exact Std.ReflOrd.compare_self)
        simp [hje, hjk, changeEntry, hke]
    · have hb : (compare j e.1 == .eq) = false := by simpa using hje
      simpa only [hb] using ih

end Lookup

end Register
end LedgerBench
