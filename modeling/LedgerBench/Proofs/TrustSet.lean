import LedgerBench.Proofs.Ledger.Sketch

/-! What a TrustSet does. It opens a line between its account and the issuer, or changes the
account's side of the line that they have; which of the two comes first in byte order makes no
difference. -/

namespace LedgerBench

/-- Whether a flag is among those of a TrustSet. -/
def TrustSetFlag.IsIn (flag : TrustSetFlag) (flags : UInt32) : Prop :=
  (flags &&& flag.bits != 0) = true

instance (flag : TrustSetFlag) (flags : UInt32) : Decidable (flag.IsIn flags) :=
  inferInstanceAs (Decidable (_ = _))

namespace Line

/-- A line after its account `a` asked for a limit. The flags set NoDivvy only where `a` does not
owe; where they do not set it, they clear it if they ask for that as well. -/
structure Adjusted (key : LineKey) (a b : String) (limit : Float) (flags : UInt32)
    (line after : Line) : Prop where
  limit : (after.side key a).limit = limit
  set : TrustSetFlag.setNoDivvy.IsIn flags → line.balanceFor key a ≥ 0 →
    (after.side key a).noDivvy = true
  clear : TrustSetFlag.clearNoDivvy.IsIn flags →
    ¬(TrustSetFlag.setNoDivvy.IsIn flags ∧ line.balanceFor key a ≥ 0) →
    (after.side key a).noDivvy = false
  keep : ¬TrustSetFlag.clearNoDivvy.IsIn flags →
    ¬(TrustSetFlag.setNoDivvy.IsIn flags ∧ line.balanceFor key a ≥ 0) →
    (after.side key a).noDivvy = (line.side key a).noDivvy
  debt : ¬line.balanceFor key a ≥ 0 → (after.side key a).noDivvy = true →
    (line.side key a).noDivvy = true
  peer : after.side key b = line.side key b
  balance : after.balance = line.balance

/-- A line that `a` has opened to `b`. -/
structure Opened (key : LineKey) (a b : String) (limit : Float) (flags : UInt32)
    (peerFlags : RootFlags) (line : Line) : Prop where
  limit : (line.side key a).limit = limit
  noDivvy : (line.side key a).noDivvy = true ↔ TrustSetFlag.setNoDivvy.IsIn flags
  peerLimit : (line.side key b).limit = 0
  peerNoDivvy : (line.side key b).noDivvy = true ↔ peerFlags.contains .defaultDivvy = false
  balance : line.balance = 0

end Line

namespace Ledger

variable {key : LineKey} {a b : String} {ledger : Ledger}

theorem noDivvy_adjustLine (key : LineKey) (a : String) (limit : Float) (flags : UInt32)
    (line : Line) :
    ((adjustLine key a limit (flags &&& TrustSetFlag.setNoDivvy.bits != 0)
        (flags &&& TrustSetFlag.clearNoDivvy.bits != 0) line).side key a).noDivvy =
      if TrustSetFlag.setNoDivvy.IsIn flags ∧ line.balanceFor key a ≥ 0 then true
      else if TrustSetFlag.clearNoDivvy.IsIn flags then false
      else (line.side key a).noDivvy := by
  have hset : ((flags &&& TrustSetFlag.setNoDivvy.bits != 0) &&
      decide (line.balanceFor key a ≥ 0)) = true ↔
        TrustSetFlag.setNoDivvy.IsIn flags ∧ line.balanceFor key a ≥ 0 := by
    rw [Bool.and_eq_true, decide_eq_true_iff]
    rfl
  rw [side_adjustLine_self]
  exact if_congr hset rfl rfl

theorem adjusted_adjustLine (h : key.Joins a b) (limit : Float) (flags : UInt32) (line : Line) :
    line.Adjusted key a b limit flags
      (adjustLine key a limit (flags &&& TrustSetFlag.setNoDivvy.bits != 0)
        (flags &&& TrustSetFlag.clearNoDivvy.bits != 0) line) := by
  have hlimit := congrArg LineSide.limit (side_adjustLine_self key a limit
    (flags &&& TrustSetFlag.setNoDivvy.bits != 0) (flags &&& TrustSetFlag.clearNoDivvy.bits != 0)
    line)
  have hnoDivvy := noDivvy_adjustLine key a limit flags line
  refine ⟨hlimit, fun hset hsettled => hnoDivvy.trans (if_pos ⟨hset, hsettled⟩),
    fun hclear hnot => ?_, fun hclear hnot => ?_, fun hdebt hafter => ?_,
    side_adjustLine_peer h .., Line.balance_setSide ..⟩
  · rw [hnoDivvy, if_neg hnot, if_pos hclear]
  · rw [hnoDivvy, if_neg hnot, if_neg hclear]
  · rw [hnoDivvy, if_neg (fun hset => hdebt hset.2)] at hafter
    split at hafter
    · cases hafter
    · exact hafter

theorem opened_newLine (h : key.Joins a b) (limit : Float) (flags : UInt32)
    (peerFlags : RootFlags) :
    (newLine key a b limit (flags &&& TrustSetFlag.setNoDivvy.bits != 0)
      (peerFlags.contains .defaultDivvy)).Opened key a b limit flags peerFlags := by
  have hown := side_newLine_own h limit (flags &&& TrustSetFlag.setNoDivvy.bits != 0)
    (peerFlags.contains .defaultDivvy)
  have hpeer := side_newLine_peer key a b limit (flags &&& TrustSetFlag.setNoDivvy.bits != 0)
    (peerFlags.contains .defaultDivvy)
  refine ⟨congrArg LineSide.limit hown, ?_, congrArg LineSide.limit hpeer, ?_, balance_newLine ..⟩
  · rw [hown]
    rfl
  · rw [hpeer]
    simp

/-- Two ledgers whose accounts differ in nothing but the next sequence number of one of them. -/
def SameButSequence (ledger later : Ledger) (a : String) : Prop :=
  ∀ address, later.account? address = (ledger.account? address).map fun root =>
    if address = a then { root with sequence := root.sequence + 1 } else root

theorem trustSet_new {root peer : Account} (ha : ledger.account? a = some root)
    (hb : ledger.account? b = some peer) (hne : a ≠ b) {currency : String}
    (hline : ledger.line? a b currency = none) (limit : Float) (flags : UInt32) :
    let out := ledger.apply (.trustSet a (.issued limit currency b) flags)
    out.1 = .success ∧
      (∃ after, out.2.line? a b currency = some after ∧
        after.Opened (.between a b currency) a b limit flags peer.flags) ∧
      (∀ key, key ≠ .between a b currency → out.2.lines.get? key = ledger.lines.get? key) ∧
      ledger.SameButSequence out.2 a := by
  intro out
  obtain ⟨hsuccess, hlines, haccounts⟩ :=
    apply_of_lines (.trustSet a (.issued limit currency b) flags) ha
      (applyKind_trustSet_new hb hline limit flags)
  replace hlines : out.2.lines = _ := hlines
  refine ⟨hsuccess, ⟨_, ?_, opened_newLine (LineKey.joins_between hne currency) limit flags _⟩,
    fun key hkey => ?_, haccounts⟩
  · rw [line?, hlines, Register.get?_insert_self]
  · rw [hlines, Register.get?_insert_of_ne _ _ hkey]

theorem trustSet_line {root peer : Account} (ha : ledger.account? a = some root)
    (hb : ledger.account? b = some peer) (hne : a ≠ b) {currency : String} {line : Line}
    (hline : ledger.line? a b currency = some line) (limit : Float) (flags : UInt32) :
    let out := ledger.apply (.trustSet a (.issued limit currency b) flags)
    out.1 = .success ∧ out.2.lines.keys = ledger.lines.keys ∧
      (∃ after, out.2.line? a b currency = some after ∧
        line.Adjusted (.between a b currency) a b limit flags after) ∧
      (∀ key, key ≠ .between a b currency → out.2.lines.get? key = ledger.lines.get? key) ∧
      ledger.SameButSequence out.2 a := by
  intro out
  obtain ⟨hsuccess, hlines, haccounts⟩ :=
    apply_of_lines (.trustSet a (.issued limit currency b) flags) ha
      (applyKind_trustSet_line hb hline limit flags)
  replace hlines : out.2.lines = _ := hlines
  replace hline : ledger.lines.get? (.between a b currency) = some line := hline
  refine ⟨hsuccess, by rw [hlines, Register.keys_update],
    ⟨_, ?_, adjusted_adjustLine (LineKey.joins_between hne currency) limit flags line⟩,
    fun key hkey => ?_, haccounts⟩
  · rw [line?, hlines, Register.get?_update_self, hline, Option.map_some]
  · rw [hlines, Register.get?_update_of_ne _ _ hkey]

/-- A TrustSet of an account succeeds exactly when its limit is an issued amount whose issuer is an
account. It then leaves the line between the two with the limit on the account's side, opened if it
is new; all other lines stay, and of the accounts only the sequence number of the sender changes. -/
theorem trustSet_law {root : Account} (ha : ledger.account? a = some root) (hne : a ≠ b)
    (currency : String) (limit : Float) (flags : UInt32) :
    (∀ drops, (ledger.apply (.trustSet a (.native drops) flags)).1 = .badLimit) ∧
    let out := ledger.apply (.trustSet a (.issued limit currency b) flags)
    let key := LineKey.between a b currency
    (ledger.account? b = none → out.1 = .noDestination) ∧
      ∀ peer, ledger.account? b = some peer →
        out.1 = .success ∧
        (∃ after, out.2.lines.get? key = some after ∧
          (∀ line, ledger.lines.get? key = some line → line.Adjusted key a b limit flags after) ∧
          (ledger.lines.get? key = none → after.Opened key a b limit flags peer.flags)) ∧
        (∀ other, other ≠ key → out.2.lines.get? other = ledger.lines.get? other) ∧
        ledger.SameButSequence out.2 a := by
  refine ⟨fun drops => apply_fst (.trustSet a (.native drops) flags) ha, ?_⟩
  intro out key
  refine ⟨fun hnone => ?_, fun peer hb => ?_⟩
  · refine (apply_fst (.trustSet a (.issued limit currency b) flags) ha).trans ?_
    simp only [applyKind, applyTrustSet, hnone]
  · cases hline : ledger.lines.get? key with
    | none =>
      obtain ⟨hsuccess, ⟨after, hafter, hopened⟩, hrest⟩ := trustSet_new ha hb hne hline limit flags
      refine ⟨hsuccess, ⟨after, hafter, fun line h => ?_, fun _ => hopened⟩, hrest⟩
      cases h
    | some line =>
      obtain ⟨hsuccess, -, ⟨after, hafter, hadjusted⟩, hrest⟩ :=
        trustSet_line ha hb hne hline limit flags
      refine ⟨hsuccess, ⟨after, hafter, fun line' h => ?_, fun h => ?_⟩, hrest⟩
      · obtain rfl := Option.some.inj h
        exact hadjusted
      · cases h

/-- An account that does not owe asks for both flags, and NoDivvy is set. -/
theorem twoLines_trustSet :
    let out := twoLines.apply (.trustSet "rAlice" (.issued 10 "USD" "rBob")
      (TrustSetFlag.setNoDivvy.bits ||| TrustSetFlag.clearNoDivvy.bits))
    (∃ root, twoLines.account? "rAlice" = some root) ∧ "rAlice" ≠ "rBob" ∧ out.1 = .success ∧
      ∃ after, out.2.line? "rAlice" "rBob" "USD" = some after ∧
        (after.side (.between "rAlice" "rBob" "USD") "rAlice").limit = 10 ∧
        (after.side (.between "rAlice" "rBob" "USD") "rAlice").noDivvy = true := by
  intro out
  have hknown (address : String) (h : (twoLines.account? address).isSome = true) :
      ∃ root, twoLines.account? address = some root :=
    Option.isSome_iff_exists.1 h
  obtain ⟨root, hroot⟩ := hknown "rAlice" (by decide +kernel)
  obtain ⟨peer, hpeer⟩ := hknown "rBob" (by decide +kernel)
  have hne : "rAlice" ≠ "rBob" := by decide
  obtain ⟨-, -, hlaw⟩ := trustSet_law hroot hne "USD" 10
    (TrustSetFlag.setNoDivvy.bits ||| TrustSetFlag.clearNoDivvy.bits)
  obtain ⟨hsuccess, ⟨after, hafter, hadjusted, -⟩, -⟩ := hlaw peer hpeer
  let line : Line := ⟨0, ⟨0, true⟩, ⟨100, false⟩⟩
  have hline : twoLines.line? "rAlice" "rBob" "USD" = some line := by decide +kernel
  have h := hadjusted line hline
  exact ⟨⟨root, hroot⟩, hne, hsuccess, after, hafter, h.limit,
    h.set (by decide +kernel) (by decide +kernel)⟩

end Ledger
end LedgerBench
