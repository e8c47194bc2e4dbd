import LedgerBench.Proofs.Ledger.Routes

/-! What a line is to each of its two accounts. Which of them comes first in byte order makes no
difference to the side and the balance that an account has. -/

namespace LedgerBench

namespace Line

variable {key : LineKey} {a b : String} (line : Line)

theorem balance_setSide (key : LineKey) (account : String) (side : LineSide) :
    (line.setSide key account side).balance = line.balance := by
  unfold setSide
  split <;> rfl

theorem side_transfer (key : LineKey) (source account : String) (value : Float) :
    (line.transfer key source value).side key account = line.side key account := by
  unfold transfer
  split <;> rfl

theorem balanceFor_of_zero (hzero : line.balance = 0) (key : LineKey) (account : String) :
    line.balanceFor key account = 0 ∨ line.balanceFor key account = -0 := by
  unfold balanceFor
  split
  · exact .inl hzero
  · exact .inr (by rw [hzero])

theorem balanceFor_transfer_source (hzero : line.balance = 0) (key : LineKey) (source : String)
    (value : Float) :
    (line.transfer key source value).balanceFor key source = 0 - value ∨
      (line.transfer key source value).balanceFor key source = -(0 + value) := by
  by_cases h : key.low = source
  · exact .inl (by simp [transfer, balanceFor, h, hzero])
  · exact .inr (by simp [transfer, balanceFor, h, hzero])

theorem balanceFor_transfer_target (hzero : line.balance = 0) (h : key.Joins a b) (value : Float) :
    (line.transfer key a value).balanceFor key b = -(0 - value) ∨
      (line.transfer key a value).balanceFor key b = 0 + value := by
  rcases h.ends with ⟨hlow, -⟩ | ⟨hlow, -⟩
  · exact .inl (by simp [transfer, balanceFor, hlow, h.ne, hzero])
  · exact .inr (by simp [transfer, balanceFor, hlow, h.ne.symm, hzero])

end Line

namespace Ledger

section Lines

variable {key : LineKey} {a b : String}

theorem balance_newLine (key : LineKey) (account issuer : String) (limit : Float)
    (noDivvy issuerRipples : Bool) :
    (newLine key account issuer limit noDivvy issuerRipples).balance = 0 := by
  simp only [newLine, Line.balance_setSide]

theorem side_newLine_own (h : key.Joins a b) (limit : Float) (noDivvy issuerRipples : Bool) :
    (newLine key a b limit noDivvy issuerRipples).side key a = ⟨limit, noDivvy⟩ := by
  rw [newLine, Line.side_setSide_other _ h.symm, Line.side_setSide_self]

theorem side_newLine_peer (key : LineKey) (account issuer : String) (limit : Float)
    (noDivvy issuerRipples : Bool) :
    (newLine key account issuer limit noDivvy issuerRipples).side key issuer =
      ⟨0, !issuerRipples⟩ := by
  rw [newLine, Line.side_setSide_self]

theorem balanceFor_adjustLine (key other : LineKey) (account viewer : String) (limit : Float)
    (set clear : Bool) (line : Line) :
    (adjustLine key account limit set clear line).balanceFor other viewer =
      line.balanceFor other viewer := by
  simp only [Line.balanceFor, adjustLine, Line.balance_setSide]

theorem side_adjustLine_self (key : LineKey) (account : String) (limit : Float) (set clear : Bool)
    (line : Line) :
    (adjustLine key account limit set clear line).side key account =
      ⟨limit, if set && line.balanceFor key account ≥ 0 then true
        else if clear then false else (line.side key account).noDivvy⟩ := by
  rw [adjustLine, Line.side_setSide_self]

theorem side_adjustLine_peer (h : key.Joins a b) (limit : Float) (set clear : Bool) (line : Line) :
    (adjustLine key a limit set clear line).side key b = line.side key b := by
  rw [adjustLine, Line.side_setSide_other _ h]

variable {account : String} {line : Line}

theorem noDivvy_adjustLine_of_zero (hzero : line.balance = 0) (key : LineKey) (account : String)
    (limit : Float) (clear : Bool) :
    ((adjustLine key account limit true clear line).side key account).noDivvy = true := by
  have hsettled : line.balanceFor key account ≥ 0 := by
    rcases line.balanceFor_of_zero hzero key account with h | h <;> rw [h] <;> decide +kernel
  rw [side_adjustLine_self]
  simp [hsettled]

theorem noDivvy_adjustLine_of_debt (hdebt : ¬line.balanceFor key account ≥ 0) (limit : Float) :
    ((adjustLine key account limit true false line).side key account).noDivvy =
      (line.side key account).noDivvy := by
  rw [side_adjustLine_self]
  simp [hdebt]

end Lines

/-! ### Lines of an account -/

/-- A line that an account is asked about: it is one of the two accounts, and the other one is the
peer if there is one. -/
def Touches (account : String) (peer : Option String) (key : LineKey) : Prop :=
  (key.low = account ∨ key.high = account) ∧
    ∀ p ∈ peer, p = if key.low = account then key.high else key.low

instance (account : String) (peer : Option String) (key : LineKey) :
    Decidable (Touches account peer key) :=
  inferInstanceAs (Decidable (_ ∧ _))

theorem linesOf_eq (ledger : Ledger) (account : String) (peer : Option String) :
    ledger.linesOf account peer =
      (ledger.lines.entries.filter fun entry => decide (Touches account peer entry.1)).map
        fun entry => viewFrom account entry.1 entry.2 := by
  rw [linesOf, List.filter_map, List.filter_filter]
  refine congrArg _ (List.filter_congr fun entry _ => Bool.eq_iff_iff.2 ?_)
  cases peer with
  | none => simp [Touches]
  | some p => simp [Touches, viewFrom, and_comm]

theorem linesOf_eq_nil {ledger : Ledger} {account : String} {peer : Option String}
    (h : ∀ key line, ledger.lines.get? key = some line → ¬Touches account peer key) :
    ledger.linesOf account peer = [] := by
  have hnone : ledger.lines.entries.filter
      (fun entry => decide (Touches account peer entry.1)) = [] := by
    refine List.filter_eq_nil_iff.2 fun entry hentry => ?_
    simpa using h entry.1 entry.2 (Register.get?_eq_some_iff.2 hentry)
  rw [linesOf_eq, hnone, List.map_nil]

theorem linesOf_eq_singleton {ledger : Ledger} {account : String} {peer : Option String}
    {key : LineKey} {line : Line} (hline : ledger.lines.get? key = some line)
    (htouches : Touches account peer key)
    (honly : ∀ key' line', ledger.lines.get? key' = some line' → Touches account peer key' →
      key' = key) : ledger.linesOf account peer = [viewFrom account key line] := by
  have hone := Register.filter_entries_eq_singleton hline
    (p := fun entry => decide (Touches account peer entry.1)) (by simpa using htouches)
    (fun entry hentry htouch =>
      honly entry.1 entry.2 (Register.get?_eq_some_iff.2 hentry) (by simpa using htouch))
  rw [linesOf_eq, hone, List.map_singleton]

theorem touches_between_iff {a b currency account : String} {peer : Option String} (hne : a ≠ b) :
    Touches account peer (.between a b currency) ↔
      (account = a ∧ ∀ p ∈ peer, p = b) ∨ (account = b ∧ ∀ p ∈ peer, p = a) := by
  rcases LineKey.between_cases a b currency with h | h
  · by_cases ha : a = account
    · subst ha
      simp [Touches, h, hne]
    · simp [Touches, h, ha, Ne.symm ha, eq_comm]
  · by_cases hb : b = account
    · subst hb
      simp [Touches, h, hne.symm]
    · simp [Touches, h, hb, Ne.symm hb, eq_comm]

theorem viewFrom_between {a b : String} (hne : a ≠ b) (currency : String) (line : Line) :
    viewFrom a (.between a b currency) line =
      ⟨b, currency, line.balanceFor (.between a b currency) a,
        line.side (.between a b currency) a, line.side (.between a b currency) b⟩ := by
  rcases LineKey.between_cases a b currency with h | h
  · simp [viewFrom, h]
  · simp [viewFrom, h, hne.symm]

end Ledger
end LedgerBench
