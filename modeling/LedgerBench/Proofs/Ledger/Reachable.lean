import LedgerBench.Proofs.Ledger.Effect
import LedgerBench.Proofs.Ledger.Line
import LedgerBench.Proofs.Server.Handled

/-! Ledgers that transactions lead to. In each of them a line is kept under the key that has its two
accounts in order, so that there is one line at most between two accounts in a currency. -/

namespace LedgerBench

namespace Ledger

def applyAll (ledger : Ledger) (txs : List Transaction) : Ledger :=
  txs.foldl (fun ledger tx => (ledger.apply tx).2) ledger

/-- A ledger that some transactions lead to from one in which one account holds everything. -/
def Reachable (ledger : Ledger) : Prop :=
  ∃ root drops txs, ledger = (genesis root drops).applyAll txs

theorem genesis_reachable (root : String) (drops : UInt64) : (genesis root drops).Reachable :=
  ⟨root, drops, [], rfl⟩

theorem Reachable.apply {ledger : Ledger} (h : ledger.Reachable) (tx : Transaction) :
    (ledger.apply tx).2.Reachable := by
  obtain ⟨root, drops, txs, rfl⟩ := h
  exact ⟨root, drops, txs ++ [tx], by simp [applyAll]⟩

/-- What a first ledger has and every transaction keeps holds of all ledgers that transactions lead
to. -/
theorem Reachable.induction {P : Ledger → Prop} (hgenesis : ∀ root drops, P (genesis root drops))
    (happly : ∀ ledger tx, P ledger → P (ledger.apply tx).2) {ledger : Ledger}
    (h : ledger.Reachable) : P ledger := by
  obtain ⟨root, drops, txs, rfl⟩ := h
  suffices htxs : ∀ l, P l → P (l.applyAll txs) from htxs _ (hgenesis root drops)
  induction txs with
  | nil => exact fun l hl => hl
  | cons tx txs ih => exact fun l hl => ih _ (happly l tx hl)

/-- Every line is kept under a key with its accounts in order. -/
def Oriented (ledger : Ledger) : Prop :=
  ∀ entry ∈ ledger.lines.entries, entry.1.low ≤ entry.1.high

theorem Oriented.update {lines : Register LineKey Line} {accounts : Register String Account}
    (h : (Ledger.mk accounts lines).Oriented) (key : LineKey) (f : Line → Line) :
    (Ledger.mk accounts (lines.update key f)).Oriented := by
  intro entry hentry
  obtain ⟨old, hold, rfl⟩ := List.mem_map.1 hentry
  rw [Register.changeEntry_fst]
  exact h old hold

theorem Oriented.moveAlong {ledger : Ledger} (h : ledger.Oriented) (path : List String)
    (currency : String) (value : Float) : (ledger.moveAlong path currency value).Oriented := by
  obtain ⟨accounts, lines⟩ := ledger
  simp only [Ledger.moveAlong]
  induction hops path generalizing lines with
  | nil => exact h
  | cons hop rest ih => exact ih _ (h.update _ _)

theorem Effect.oriented {ledger after : Ledger} {tx : Transaction} (h : Effect ledger tx after)
    (ho : ledger.Oriented) : after.Oriented := by
  cases h with
  | settings _ => exact ho
  | adjusted _ _ => exact ho.update _ _
  | opened _ _ => exact Register.forall_insertEntry (LineKey.between_ordered _ _ _) ho
  | moved _ => exact ho.moveAlong _ _ _
  | paid _ _ _ => exact ho

theorem Reachable.oriented {ledger : Ledger} (h : ledger.Reachable) : ledger.Oriented := by
  refine h.induction (fun _ _ entry hentry => absurd hentry List.not_mem_nil) ?_
  intro ledger tx ho
  rcases ledger.apply_cases tx with ⟨after, he, _, ha⟩ | ⟨r, _, ha⟩
  · rw [ha]
    exact he.oriented ho
  · rw [ha]
    dsimp only
    split <;> exact ho

end Ledger

theorem Server.Reachable.ledgers {server : Server} (h : server.Reachable) :
    server.current.Reachable ∧ server.validated.Reachable := by
  have hstart := Ledger.genesis_reachable genesisAddress genesisDrops
  refine h.induction (P := fun s => s.current.Reachable ∧ s.validated.Reachable)
    (fun _ => ⟨hstart, hstart⟩) (fun s command params hs => ?_) (fun s hs => hs)
  refine Server.request_keeps (P := fun s => s.current.Reachable ∧ s.validated.Reachable)
    (fun _ _ _ after hh => ?_) hs command params
  cases hh with
  | refused _ => exact hs
  | queried _ _ => exact hs
  | recovered _ _ => exact hs
  | proposed _ _ => exact hs
  | @submitted tx _ _ => exact ⟨hs.1.apply tx, hs.2⟩
  | accepted _ => exact ⟨hs.1, hs.1⟩

end LedgerBench
