import LedgerBench.Proofs.Ledger.Effect
import LedgerBench.Proofs.Server.Handled

/-! The native currency is neither made nor destroyed: the balances of a ledger always add up to
what the first account held at the start. This is also why no sum of drops leaves its 64 bits. -/

namespace LedgerBench

namespace Ledger

def supply (ledger : Ledger) : Nat :=
  ledger.accounts.total fun account => account.balance.toNat

theorem supply_genesis (root : String) (drops : UInt64) :
    (genesis root drops).supply = drops.toNat := by
  have hh := Register.total_insert (fun account : Account => account.balance.toNat) .empty root
    ⟨drops, .none, 1⟩
  simpa [supply, genesis] using hh

theorem total_debit {accounts : Register String Account} {address : String} {payer : Account}
    {drops : UInt64} (hpayer : accounts.get? address = some payer) (hfunds : drops ≤ payer.balance) :
    (debit accounts address payer drops).total (fun account => account.balance.toNat) + drops.toNat =
      accounts.total fun account => account.balance.toNat := by
  have hh := Register.total_insert (fun account : Account => account.balance.toNat) accounts address
    { payer with balance := payer.balance - drops }
  have hle := UInt64.le_iff_toNat_le.1 hfunds
  simp only [hpayer, Option.map_some, Option.getD_some, UInt64.toNat_sub_of_le _ _ hfunds] at hh
  simp only [debit]
  omega

theorem payee_balance_le (accounts : Register String Account) (address : String) :
    (payee accounts address).balance.toNat ≤
      accounts.total fun account => account.balance.toNat := by
  cases h : accounts.get? address with
  | none => simp [payee, h]
  | some account =>
    simpa [payee, h] using Register.le_total (fun account : Account => account.balance.toNat) h

theorem total_credit (accounts : Register String Account) (address : String) {drops : UInt64}
    (hfits : (payee accounts address).balance.toNat + drops.toNat < 2 ^ 64) :
    (credit accounts address drops).total (fun account => account.balance.toNat) =
      accounts.total (fun account => account.balance.toNat) + drops.toNat := by
  have hh := Register.total_insert (fun account : Account => account.balance.toNat) accounts address
    { payee accounts address with balance := (payee accounts address).balance + drops }
  have hadd : ((payee accounts address).balance + drops).toNat =
      (payee accounts address).balance.toNat + drops.toNat := by
    rw [UInt64.toNat_add, Nat.mod_eq_of_lt hfits]
  have hold : ((accounts.get? address).map fun account => account.balance.toNat).getD 0 =
      (payee accounts address).balance.toNat := by
    cases h : accounts.get? address <;> simp [payee, h]
  simp only [hadd, hold] at hh
  simp only [credit]
  omega

/-- Whoever gets drops that someone has paid holds no more than all accounts did before. -/
theorem payee_debit_le {ledger : Ledger} {source : String} {payer : Account} {drops : UInt64}
    (hpayer : ledger.account? source = some payer) (hfunds : drops ≤ payer.balance)
    (destination : String) :
    (payee (debit ledger.accounts source payer drops) destination).balance.toNat + drops.toNat ≤
      ledger.supply := by
  have hd := total_debit hpayer hfunds
  have hp := payee_balance_le (debit ledger.accounts source payer drops) destination
  simp only [supply]
  omega

theorem Effect.supply_eq {ledger after : Ledger} {tx : Transaction} (h : Effect ledger tx after)
    (hfits : ledger.supply < 2 ^ 64) : after.supply = ledger.supply := by
  cases h with
  | settings _ => exact Register.total_update _ _ _ _ fun _ => rfl
  | adjusted _ _ => rfl
  | opened _ _ => rfl
  | moved _ => rfl
  | @paid source destination drops _ payer _ hpayer hfunds =>
    have hd := total_debit hpayer hfunds
    have hle := payee_debit_le hpayer hfunds destination
    have hc := total_credit (debit ledger.accounts source payer drops) destination
      (show _ + drops.toNat < 2 ^ 64 by omega)
    simp only [supply] at hc ⊢
    omega

@[simp] theorem supply_bumpSequence (ledger : Ledger) (account : String) :
    (ledger.bumpSequence account).supply = ledger.supply :=
  Register.total_update _ _ _ _ fun _ => rfl

theorem supply_apply {ledger : Ledger} (hfits : ledger.supply < 2 ^ 64) (tx : Transaction) :
    (ledger.apply tx).2.supply = ledger.supply := by
  rcases ledger.apply_cases tx with ⟨after, he, _, ha⟩ | ⟨r, _, ha⟩
  · rw [ha, supply_bumpSequence, he.supply_eq hfits]
  · rw [ha]
    dsimp only
    split
    · exact supply_bumpSequence _ _
    · rfl

end Ledger

namespace Server

/-- What every reachable server keeps: each of its ledgers holds all drops of the start. -/
def HoldsSupply (server : Server) : Prop :=
  server.current.supply = genesisDrops.toNat ∧ server.validated.supply = genesisDrops.toNat

theorem Handled.holdsSupply {server after : Server} {command : String} {params : Json}
    {answer : Answer} (h : Handled server command params answer after)
    (hs : server.HoldsSupply) : after.HoldsSupply := by
  cases h with
  | refused _ => exact hs
  | queried _ _ => exact hs
  | recovered _ _ => exact hs
  | proposed _ _ => exact hs
  | @submitted tx _ _ =>
    have hfits : server.current.supply < 2 ^ 64 := by rw [hs.1]; decide
    exact ⟨(Ledger.supply_apply hfits tx).trans hs.1, hs.2⟩
  | accepted _ => exact ⟨hs.1, hs.1⟩

theorem Reachable.holdsSupply {server : Server} (h : server.Reachable) : server.HoldsSupply := by
  refine h.induction ?_ ?_ ?_
  · exact fun keys => ⟨Ledger.supply_genesis _ _, Ledger.supply_genesis _ _⟩
  · exact fun s command params hs => request_keeps (fun _ _ _ _ hh => hh.holdsSupply hs) hs _ _
  · exact fun s hs => hs

/-- After any calls the accounts of both ledgers hold exactly the drops of the start. So the drops
that a payment takes away are there, and what it adds them to stays within 64 bits, also when an
account pays itself or one that comes into being. -/
theorem supply_constant (keys : KeySource) (calls : List Call) :
    let server := (start keys).after calls
    server.current.supply = 10 ^ 17 ∧ server.validated.supply = 10 ^ 17 ∧
      ∀ source payer drops destination, server.current.account? source = some payer →
        ¬payer.balance < drops →
        (payer.balance - drops).toNat + drops.toNat = payer.balance.toNat ∧
          (Ledger.payee (Ledger.debit server.current.accounts source payer drops)
            destination).balance.toNat + drops.toNat < 2 ^ 64 := by
  intro server
  have hs : server.HoldsSupply := (after_reachable keys calls).holdsSupply
  have hdrops : genesisDrops.toNat = 10 ^ 17 := by decide
  refine ⟨hs.1.trans hdrops, hs.2.trans hdrops, ?_⟩
  intro source payer drops destination hpayer hfunds
  have hle := UInt64.not_lt.1 hfunds
  have hsub := UInt64.toNat_sub_of_le _ _ hle
  have hnat := UInt64.le_iff_toNat_le.1 hle
  have hpayee := Ledger.payee_debit_le hpayer hle destination
  rw [hs.1, hdrops] at hpayee
  exact ⟨by omega, by omega⟩

end Server
end LedgerBench
