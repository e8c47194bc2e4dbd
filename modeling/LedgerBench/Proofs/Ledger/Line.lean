import LedgerBench.Ledger.State

/-! Keys and sides of lines. Both accounts of a line find it under the same key, and each of them has
a side of its own. -/

namespace LedgerBench

namespace LineKey

theorem between_cases (a b currency : String) :
    between a b currency = ⟨a, b, currency⟩ ∨ between a b currency = ⟨b, a, currency⟩ := by
  unfold between
  split
  · exact .inl rfl
  · exact .inr rfl

theorem between_comm (a b currency : String) : between a b currency = between b a currency := by
  unfold between
  by_cases hab : a < b
  · rw [if_pos hab, if_neg (String.lt_asymm hab)]
  · by_cases hba : b < a
    · rw [if_neg hab, if_pos hba]
    · obtain rfl := String.le_antisymm (String.not_lt.1 hba) (String.not_lt.1 hab)
      rfl

theorem eq_or_eq_of_between_eq {a b c d x y : String} (h : between a b x = between c d y) :
    a = c ∨ a = d := by
  rcases between_cases a b x with e | e <;> rcases between_cases c d y with f | f <;>
    (rw [e, f] at h; cases h; simp)

theorem eq_or_eq_of_ends {a b c currency : String}
    (h : (between b c currency).low = a ∨ (between b c currency).high = a) : a = b ∨ a = c := by
  rcases between_cases b c currency with hk | hk
  · rw [hk] at h
    exact h.imp Eq.symm Eq.symm
  · rw [hk] at h
    exact h.symm.imp Eq.symm Eq.symm

theorem between_ordered (a b currency : String) :
    (between a b currency).low ≤ (between a b currency).high := by
  unfold between
  split
  · next h => exact String.not_lt.1 (String.lt_asymm h)
  · next h => exact String.not_lt.1 h

/-- A key is found again from either of its accounts. -/
theorem eq_between {key : LineKey} (h : key.low ≤ key.high) {account : String}
    (haccount : key.low = account ∨ key.high = account) :
    key = between account (if key.low = account then key.high else key.low) key.currency := by
  obtain ⟨low, high, currency⟩ := key
  dsimp only at h haccount ⊢
  by_cases hlow : low = account
  · subst hlow
    rw [if_pos rfl, between]
    split
    · rfl
    · next hlt => rw [String.le_antisymm h (String.not_lt.1 hlt)]
  · have hhigh : high = account := haccount.resolve_left hlow
    subst hhigh
    rw [if_neg hlow, between, if_neg (String.not_lt.2 h)]

/-- The two different accounts of a line, in either order. -/
structure Joins (key : LineKey) (a b : String) : Prop where
  ne : a ≠ b
  ends : (key.low = a ∧ key.high = b) ∨ (key.low = b ∧ key.high = a)

theorem Joins.symm {key : LineKey} {a b : String} (h : key.Joins a b) : key.Joins b a :=
  ⟨h.ne.symm, h.ends.symm⟩

theorem joins_between {a b : String} (hne : a ≠ b) (currency : String) :
    (between a b currency).Joins a b := by
  refine ⟨hne, ?_⟩
  rcases between_cases a b currency with h | h
  · exact .inl (by simp [h])
  · exact .inr (by simp [h])

end LineKey

namespace Line

variable {key : LineKey} {a b : String} (line : Line)

theorem side_setSide_self (key : LineKey) (account : String) (side : LineSide) :
    (line.setSide key account side).side key account = side := by
  by_cases h : key.low = account <;> simp [setSide, Line.side, h]

theorem side_setSide_other (h : key.Joins a b) (side : LineSide) :
    (line.setSide key a side).side key b = line.side key b := by
  rcases h.ends with ⟨hlow, -⟩ | ⟨hlow, -⟩
  · simp [setSide, Line.side, hlow, h.ne]
  · simp [setSide, Line.side, hlow, h.ne.symm]

end Line

end LedgerBench
