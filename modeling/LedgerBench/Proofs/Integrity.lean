import LedgerBench.Proofs.Ledger.Reachable
import LedgerBench.Proofs.Text.ByteOrder

/-! What every ledger of a server keeps to. A line stands under one key only, the one that has its
accounts in byte order, and both of them are accounts of the same ledger. Nothing ever goes from the
open ledger, so the validated one, which was the open one before, is part of it. -/

namespace LedgerBench

/-- Whether a key is that of the line between two accounts in a currency. -/
def LineKey.IsOf (key : LineKey) (a b currency : String) : Prop :=
  key.currency = currency ∧ (key.low = a ∧ key.high = b ∨ key.low = b ∧ key.high = a)

instance (key : LineKey) (a b currency : String) : Decidable (key.IsOf a b currency) :=
  inferInstanceAs (Decidable (_ ∧ _))

theorem LineKey.isOf_between (a b currency : String) :
    (between a b currency).IsOf a b currency := by
  rcases between_cases a b currency with h | h
  · exact ⟨by simp [h], .inl (by simp [h])⟩
  · exact ⟨by simp [h], .inr (by simp [h])⟩

theorem LineKey.IsOf.eq_between {key : LineKey} {a b currency : String}
    (h : key.IsOf a b currency) (hle : key.low ≤ key.high) : key = between a b currency := by
  obtain ⟨rfl, ⟨rfl, rfl⟩ | ⟨rfl, rfl⟩⟩ := h
  · have hkey := LineKey.eq_between hle (.inl rfl)
    rwa [if_pos rfl] at hkey
  · rw [between_comm]
    have hkey := LineKey.eq_between hle (.inl rfl)
    rwa [if_pos rfl] at hkey

namespace Ledger

/-- Both accounts of every line are in the ledger. -/
def Anchored (ledger : Ledger) : Prop :=
  ∀ key ∈ ledger.lines.keys, key.low ∈ ledger.accounts.keys ∧ key.high ∈ ledger.accounts.keys

/-- Every account and every line of a ledger is in a later one, changed as it may be. -/
structure Lasts (ledger later : Ledger) : Prop where
  accounts : ∀ address ∈ ledger.accounts.keys, address ∈ later.accounts.keys
  lines : ∀ key ∈ ledger.lines.keys, key ∈ later.lines.keys

theorem Lasts.of_keys_eq {ledger later : Ledger}
    (haccounts : later.accounts.keys = ledger.accounts.keys)
    (hlines : later.lines.keys = ledger.lines.keys) : ledger.Lasts later where
  accounts address haddress := by rwa [haccounts]
  lines key hkey := by rwa [hlines]

theorem Lasts.refl (ledger : Ledger) : ledger.Lasts ledger :=
  .of_keys_eq rfl rfl

theorem Lasts.trans {a b c : Ledger} (h : a.Lasts b) (h' : b.Lasts c) : a.Lasts c where
  accounts address haddress := h'.accounts address (h.accounts address haddress)
  lines key hkey := h'.lines key (h.lines key hkey)

theorem keys_moveAlong (ledger : Ledger) (path : List String) (currency : String) (value : Float) :
    (ledger.moveAlong path currency value).lines.keys = ledger.lines.keys := by
  simp only [moveAlong]
  generalize ledger.lines = lines
  induction hops path generalizing lines with
  | nil => rfl
  | cons hop rest ih => exact (ih _).trans (Register.keys_update _ _ _)

theorem lasts_bumpSequence (ledger : Ledger) (account : String) :
    ledger.Lasts (ledger.bumpSequence account) :=
  .of_keys_eq (Register.keys_update _ _ _) rfl

theorem Effect.lasts {ledger after : Ledger} {tx : Transaction} (h : Effect ledger tx after) :
    ledger.Lasts after := by
  cases h with
  | settings _ => exact .of_keys_eq (Register.keys_update _ _ _) rfl
  | adjusted _ _ => exact .of_keys_eq rfl (Register.keys_update _ _ _)
  | opened _ _ => exact ⟨fun _ h => h, fun _ hkey => Register.mem_keys_insert.2 (.inr hkey)⟩
  | moved _ => exact .of_keys_eq rfl (keys_moveAlong _ _ _ _)
  | paid _ _ _ =>
    refine ⟨fun _ haddress => ?_, fun _ h => h⟩
    exact Register.mem_keys_insert.2 (.inr (Register.mem_keys_insert.2 (.inr haddress)))

theorem lasts_apply (ledger : Ledger) (tx : Transaction) : ledger.Lasts (ledger.apply tx).2 := by
  rcases ledger.apply_cases tx with ⟨after, he, _, ha⟩ | ⟨r, _, ha⟩
  · rw [ha]
    exact he.lasts.trans (lasts_bumpSequence _ _)
  · rw [ha]
    dsimp only
    split
    · exact lasts_bumpSequence _ _
    · exact Lasts.refl _

theorem Anchored.of_lines {ledger later : Ledger} (h : ledger.Anchored)
    (hlasts : ledger.Lasts later) (hlines : later.lines.keys = ledger.lines.keys) :
    later.Anchored := by
  intro key hkey
  obtain ⟨hlow, hhigh⟩ := h key (hlines ▸ hkey)
  exact ⟨hlasts.accounts _ hlow, hlasts.accounts _ hhigh⟩

/-- A transaction of an account of the ledger opens lines between accounts of the ledger only: the
other end of a new line is the issuer, which is looked up first. -/
theorem Effect.anchored {ledger after : Ledger} {tx : Transaction} (h : Effect ledger tx after)
    (hsender : (ledger.account? tx.account).isSome) (ha : ledger.Anchored) : after.Anchored := by
  have hlasts := h.lasts
  cases h with
  | settings _ => exact ha.of_lines hlasts rfl
  | adjusted _ _ => exact ha.of_lines hlasts (Register.keys_update _ _ _)
  | @opened account currency issuer value flags peer hpeer _ =>
    intro key hkey
    rcases Register.mem_keys_insert.1 hkey with rfl | hold
    · have haccount : account ∈ ledger.accounts.keys := Register.mem_keys_iff.2 hsender
      have hissuer : issuer ∈ ledger.accounts.keys :=
        Register.mem_keys_iff.2 (Option.isSome_of_eq_some hpeer)
      rcases LineKey.between_cases account issuer currency with hk | hk
      · rw [hk]
        exact ⟨haccount, hissuer⟩
      · rw [hk]
        exact ⟨hissuer, haccount⟩
    · exact ha key hold
  | moved _ => exact ha.of_lines hlasts (keys_moveAlong _ _ _ _)
  | paid _ _ _ => exact ha.of_lines hlasts rfl

theorem Anchored.bumpSequence {ledger : Ledger} (h : ledger.Anchored) (account : String) :
    (ledger.bumpSequence account).Anchored :=
  h.of_lines (lasts_bumpSequence ledger account) rfl

theorem Reachable.anchored {ledger : Ledger} (h : ledger.Reachable) : ledger.Anchored := by
  refine h.induction (fun _ _ key hkey => absurd hkey List.not_mem_nil) ?_
  intro ledger tx ha
  rcases ledger.apply_cases tx with ⟨after, he, hsender, happly⟩ | ⟨r, _, happly⟩
  · rw [happly]
    exact (he.anchored hsender ha).bumpSequence _
  · rw [happly]
    dsimp only
    split
    · exact ha.bumpSequence _
    · exact ha

/-- The lines between two accounts in a currency: one at most, which is found from either side. -/
theorem Oriented.entries_between {ledger : Ledger} (h : ledger.Oriented) (a b currency : String) :
    ledger.lines.entries.filter (fun entry => decide (entry.1.IsOf a b currency)) =
      (ledger.line? a b currency).toList.map (Prod.mk (.between a b currency)) := by
  cases hline : ledger.line? a b currency with
  | some line =>
    refine Register.filter_entries_eq_singleton hline ?_ fun entry hentry hof => ?_
    · simpa using LineKey.isOf_between a b currency
    · exact LineKey.IsOf.eq_between (by simpa using hof) (h entry hentry)
  | none =>
    refine List.filter_eq_nil_iff.2 fun entry hentry hof => ?_
    have hkey := LineKey.IsOf.eq_between (by simpa using hof) (h entry hentry)
    have hfound := Register.get?_eq_some_iff.2 hentry
    rw [hkey] at hfound
    rw [line?, hfound] at hline
    cases hline

end Ledger

namespace Server

theorem Handled.lasts {server after : Server} {command : String} {params : Json} {answer : Answer}
    (h : Handled server command params answer after) : server.current.Lasts after.current := by
  cases h with
  | refused _ => exact .refl _
  | queried _ _ => exact .refl _
  | recovered _ _ => exact .refl _
  | proposed _ _ => exact .refl _
  | submitted _ _ => exact Ledger.lasts_apply _ _
  | accepted _ => exact .refl _

theorem lasts_request (server : Server) (command : String) (params : Json) :
    server.current.Lasts (server.request command params).2.current :=
  request_keeps (P := fun after => server.current.Lasts after.current)
    (fun _ _ _ _ hh => hh.lasts) (.refl _) command params

/-- The validated ledger stays behind the open one and never gets past it. -/
theorem Reachable.validated_lasts {server : Server} (h : server.Reachable) :
    server.validated.Lasts server.current := by
  refine h.induction (P := fun s => s.validated.Lasts s.current) (fun _ => .refl _)
    (fun s command params hs => ?_) (fun s hs => hs)
  refine request_keeps (P := fun s => s.validated.Lasts s.current) (fun _ _ _ after hh => ?_) hs
    command params
  cases hh with
  | refused _ => exact hs
  | queried _ _ => exact hs
  | recovered _ _ => exact hs
  | proposed _ _ => exact hs
  | submitted _ _ => exact hs.trans (Ledger.lasts_apply _ _)
  | accepted _ => exact .refl _

theorem Reachable.ledger {server : Server} (h : server.Reachable) {ledger : Ledger}
    (hledger : ledger ∈ [server.current, server.validated]) : ledger.Reachable := by
  rcases List.mem_pair.1 hledger with rfl | rfl
  · exact h.ledgers.1
  · exact h.ledgers.2

/-- After any calls, every line of either ledger has its accounts in byte order in its key and in
the accounts of the same ledger; so between two accounts there is one line at most in a currency,
and it is found whichever of them is named first. No call takes an account or a line out of the open
ledger, and it has all those of the validated one. -/
theorem lines_join_accounts (keys : KeySource) (calls : List Call) :
    let server := (start keys).after calls
    (∀ ledger ∈ [server.current, server.validated],
      (∀ key ∈ ledger.lines.keys, Text.utf8 key.low.toList ≤ Text.utf8 key.high.toList ∧
        key.low ∈ ledger.accounts.keys ∧ key.high ∈ ledger.accounts.keys) ∧
      ∀ a b currency, ledger.line? a b currency = ledger.line? b a currency ∧
        ledger.lines.entries.filter (fun entry => decide (entry.1.IsOf a b currency)) =
          (ledger.line? a b currency).toList.map (Prod.mk (.between a b currency))) ∧
    (∀ call, server.current.Lasts (server.step call).current) ∧
    server.validated.Lasts server.current := by
  intro server
  have hreachable := after_reachable keys calls
  refine ⟨fun ledger hledger => ?_, fun call => ?_, hreachable.validated_lasts⟩
  · have hl := hreachable.ledger hledger
    refine ⟨fun key hkey => ?_, fun a b currency => ⟨?_, hl.oriented.entries_between a b currency⟩⟩
    · obtain ⟨entry, hentry, rfl⟩ := List.mem_map.1 hkey
      exact ⟨Text.utf8_le_iff.2 (hl.oriented entry hentry), hl.anchored _ hkey⟩
    · rw [Ledger.line?, LineKey.between_comm, Ledger.line?]
  · cases call with
    | request command params => exact lasts_request server command params
    | close => exact .refl _

end Server
end LedgerBench
