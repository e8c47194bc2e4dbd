import LedgerBench.Proofs.Ledger.Line
import LedgerBench.Proofs.Supply

/-! Accounts belong to who knows their secret. Whatever others do, the settings and the sequence
number of an account stay as they are, its balance does not fall and its sides of trust lines do not
change. -/

namespace LedgerBench

namespace Ledger

/-- A change to an account that is for its owner to make. -/
inductive OwnChange (before after : Ledger) (address : String) : Prop where
  | settings (h : (after.account? address).map Account.flags ≠
      (before.account? address).map Account.flags)
  | sequence (h : (after.account? address).map Account.sequence ≠
      (before.account? address).map Account.sequence)
  | balance {old new : Account} (hold : before.account? address = some old)
      (hnew : after.account? address = some new) (h : new.balance < old.balance)
  | side {peer currency : String} {line : Line}
      (hline : before.line? address peer currency = some line)
      (h : (after.line? address peer currency).map
          (fun new => new.side (.between address peer currency) address) ≠
        some (line.side (.between address peer currency) address))

/-- What others leave alone of an account. -/
structure Spares (before after : Ledger) (address : String) : Prop where
  account : ∀ old, before.account? address = some old → ∃ new, after.account? address = some new ∧
    new.flags = old.flags ∧ new.sequence = old.sequence ∧ old.balance ≤ new.balance
  side : ∀ peer currency line, before.line? address peer currency = some line →
    ∃ new, after.line? address peer currency = some new ∧
      new.side (.between address peer currency) address =
        line.side (.between address peer currency) address

namespace Spares

theorem refl (ledger : Ledger) (address : String) : Spares ledger ledger address where
  account old hold := ⟨old, hold, rfl, rfl, UInt64.le_refl _⟩
  side _ _ line hline := ⟨line, hline, rfl⟩

theorem trans {a b c : Ledger} {address : String} (h : Spares a b address)
    (h' : Spares b c address) : Spares a c address where
  account old hold := by
    obtain ⟨mid, hmid, hf, hs, hb⟩ := h.account old hold
    obtain ⟨new, hnew, hf', hs', hb'⟩ := h'.account mid hmid
    exact ⟨new, hnew, hf'.trans hf, hs'.trans hs, UInt64.le_trans hb hb'⟩
  side peer currency line hline := by
    obtain ⟨mid, hmid, he⟩ := h.side peer currency line hline
    obtain ⟨new, hnew, he'⟩ := h'.side peer currency mid hmid
    exact ⟨new, hnew, he'.trans he⟩

theorem not_ownChange {before after : Ledger} {address : String} {account : Account}
    (h : Spares before after address) (haccount : before.account? address = some account) :
    ¬OwnChange before after address := by
  obtain ⟨new, hnew, hf, hs, hb⟩ := h.account account haccount
  intro hc
  cases hc with
  | settings hne => simp [haccount, hnew, hf] at hne
  | sequence hne => simp [haccount, hnew, hs] at hne
  | balance hold hnew' hlt =>
    rw [haccount] at hold
    rw [hnew] at hnew'
    cases hold
    cases hnew'
    exact UInt64.not_lt.2 hb hlt
  | side hline hne =>
    obtain ⟨line', hline', he⟩ := h.side _ _ _ hline
    exact hne (by rw [hline', Option.map_some, he])

theorem of_account_eq {ledger : Ledger} {accounts : Register String Account} {address : String}
    (h : accounts.get? address = ledger.account? address) :
    Spares ledger { ledger with accounts } address where
  account old hold := ⟨old, h.trans hold, rfl, rfl, UInt64.le_refl _⟩
  side _ _ line hline := ⟨line, hline, rfl⟩

theorem of_side_eq {ledger : Ledger} {lines : Register LineKey Line} {address : String}
    (h : ∀ peer currency line, ledger.line? address peer currency = some line →
      ∃ new, lines.get? (.between address peer currency) = some new ∧
        new.side (.between address peer currency) address =
          line.side (.between address peer currency) address) :
    Spares ledger { ledger with lines } address where
  account old hold := ⟨old, hold, rfl, rfl, UInt64.le_refl _⟩
  side := h

end Spares

theorem moveHop_get? (currency : String) (value : Float) (lines : Register LineKey Line)
    (hop : String × String) {key : LineKey} {line : Line} (h : lines.get? key = some line) :
    ∃ balance, (moveHop currency value lines hop).get? key = some { line with balance } := by
  by_cases hk : key = .between hop.1 hop.2 currency
  · subst hk
    simp only [moveHop, Register.get?_update_self, h, Option.map_some, Line.transfer]
    split
    · exact ⟨_, rfl⟩
    · exact ⟨_, rfl⟩
  · exact ⟨line.balance, by rw [moveHop, Register.get?_update_of_ne _ _ hk, h]⟩

theorem moveAlong_get? (ledger : Ledger) (path : List String) (currency : String) (value : Float)
    {key : LineKey} {line : Line} (h : ledger.lines.get? key = some line) :
    ∃ balance, (ledger.moveAlong path currency value).lines.get? key =
      some { line with balance } := by
  simp only [moveAlong]
  generalize ledger.lines = lines at h
  induction hops path generalizing lines line with
  | nil => exact ⟨line.balance, h⟩
  | cons hop rest ih =>
    obtain ⟨_, hb⟩ := moveHop_get? currency value lines hop h
    obtain ⟨balance, hh⟩ := ih _ hb
    exact ⟨balance, hh⟩

theorem Effect.spares {ledger after : Ledger} {tx : Transaction} (h : Effect ledger tx after)
    (hfits : ledger.supply < 2 ^ 64) {address : String} (hne : address ≠ tx.account) :
    Spares ledger after address := by
  cases h with
  | settings _ => exact .of_account_eq (Register.get?_update_of_ne _ _ hne)
  | @adjusted account currency issuer value flags peer line _ hline =>
    refine .of_side_eq fun other currency' old hold => ?_
    by_cases hk : LineKey.between address other currency' = .between account issuer currency
    · have ha : address = issuer := (LineKey.eq_or_eq_of_between_eq hk).resolve_left hne
      subst ha
      simp only [line?, hk] at hold
      simp only [hk, Register.get?_update_self, hold, Option.map_some]
      exact ⟨_, rfl, Line.side_setSide_other _ (LineKey.joins_between (Ne.symm hne) _) _⟩
    · exact ⟨old, by rw [Register.get?_update_of_ne _ _ hk]; exact hold, rfl⟩
  | @opened account currency issuer value flags peer _ hline =>
    refine .of_side_eq fun other currency' old hold => ?_
    have hk : LineKey.between address other currency' ≠ .between account issuer currency := by
      intro hk
      simp only [line?] at hold hline
      rw [hk, hline] at hold
      cases hold
    exact ⟨old, by rw [Register.get?_insert_of_ne _ _ hk]; exact hold, rfl⟩
  | @moved source destination currency issuer value buildPath path _ =>
    refine .of_side_eq fun other currency' old hold => ?_
    obtain ⟨balance, hb⟩ := ledger.moveAlong_get? path currency value hold
    exact ⟨_, hb, rfl⟩
  | @paid source destination drops buildPath payer _ hpayer hfunds =>
    have hs : (debit ledger.accounts source payer drops).get? address = ledger.account? address :=
      Register.get?_insert_of_ne _ _ hne
    by_cases hd : address = destination
    · subst hd
      have hle := payee_debit_le hpayer hfunds address
      refine ⟨fun old hold => ?_, fun _ _ line hline => ⟨line, hline, rfl⟩⟩
      rw [payee, hs, hold, Option.getD_some] at hle
      refine ⟨_, Register.get?_insert_self _ _ _, ?_⟩
      simp only [payee, hs, hold, Option.getD_some, true_and]
      rw [UInt64.le_iff_toNat_le, UInt64.toNat_add, Nat.mod_eq_of_lt (by omega)]
      omega
    · exact .of_account_eq ((Register.get?_insert_of_ne _ _ hd).trans hs)

/-- A transaction spares every account but its own. -/
theorem apply_spares {ledger : Ledger} (hfits : ledger.supply < 2 ^ 64) (tx : Transaction)
    {address : String} (hne : address ≠ tx.account) :
    Spares ledger (ledger.apply tx).2 address := by
  have hbump (l : Ledger) : Spares l (l.bumpSequence tx.account) address :=
    .of_account_eq (Register.get?_update_of_ne _ _ hne)
  rcases ledger.apply_cases tx with ⟨after, he, _, ha⟩ | ⟨r, _, ha⟩
  · rw [ha]
    exact (he.spares hfits hne).trans (hbump after)
  · rw [ha]
    dsimp only
    split
    · exact hbump ledger
    · exact .refl ledger address

end Ledger

namespace Server

/-- The request is a transaction of the account, signed with a secret of the account. -/
def Signs (server : Server) (command : String) (params : Json) (address : String) : Prop :=
  command = "submit" ∧ ∃ secret txJson tx,
    params.stringField? "secret" = some secret ∧ server.secrets.get? secret = some address ∧
      params.field? "tx_json" = some txJson ∧
      Transaction.ofJson txJson (((params.field? "build_path").bind Json.bool?).getD false) =
        .ok tx ∧
      tx.account = address

theorem signs_of_signedTransaction {server : Server} {params : Json} {tx : Transaction}
    (h : server.signedTransaction params = .ok tx) :
    server.Signs "submit" params tx.account := by
  obtain ⟨secret, txJson, hsecret, hknown, htx, hdecoded⟩ := of_signedTransaction h
  exact ⟨rfl, secret, txJson, tx, hsecret, hknown, htx, hdecoded, rfl⟩

/-- The passphrase of the first account still stands for that account. -/
def KnowsGenesis (server : Server) : Prop :=
  server.secrets.get? genesisPassphrase = some genesisAddress

theorem ne_genesisPassphrase {pair : KeyPair} (h : pair.IsDrawn) :
    genesisPassphrase ≠ pair.secret := by
  obtain ⟨rest, hrest, _, _⟩ := h.2
  intro he
  rw [hrest] at he
  have hh := congrArg String.toList he
  rw [String.toList_ofList] at hh
  have hc : genesisPassphrase.toList.head? = some 's' := by rw [hh]; rfl
  exact absurd hc (by decide)

theorem Handled.knowsGenesis {server after : Server} {command : String} {params : Json}
    {answer : Answer} (h : Handled server command params answer after)
    (hs : server.KnowsGenesis) : after.KnowsGenesis := by
  cases h with
  | refused _ => exact hs
  | queried _ _ => exact hs
  | recovered _ _ => exact Register.get?_insert_self _ _ _
  | proposed _ _ =>
    have hne := ne_genesisPassphrase (server.keys.isDrawn server.keys.drawn)
    exact (Register.get?_insert_of_ne _ _ hne).trans hs
  | submitted _ _ => exact hs
  | accepted _ => exact hs

theorem Reachable.knowsGenesis {server : Server} (h : server.Reachable) :
    server.KnowsGenesis := by
  refine h.induction ?_ ?_ ?_
  · exact fun keys => Register.get?_insert_self _ _ _
  · exact fun s command params hs => request_keeps (fun _ _ _ _ hh => hh.knowsGenesis hs) hs _ _
  · exact fun s hs => hs

/-- Only the owner of an account changes its settings, its sequence number or its sides of lines, or
takes from its balance. -/
theorem own_changes_are_signed {server : Server} (h : server.Reachable) :
    server.secrets.get? genesisPassphrase = some genesisAddress ∧
      ∀ command params address account, server.current.account? address = some account →
        Ledger.OwnChange server.current (server.request command params).2.current address →
        server.Signs command params address := by
  refine ⟨h.knowsGenesis, fun command params address account haccount hchange => ?_⟩
  have hsame (hc : (server.request command params).2.current = server.current) : False := by
    rw [hc] at hchange
    exact (Ledger.Spares.refl _ _).not_ownChange haccount hchange
  cases hclosed : server.closed with
  | true => exact (hsame (by rw [request_of_closed hclosed])).elim
  | false =>
    obtain ⟨answer, after, hh, he⟩ := request_handled hclosed command params
    rw [he] at hchange hsame
    cases hh with
    | refused _ => exact (hsame rfl).elim
    | queried _ _ => exact (hsame rfl).elim
    | recovered _ _ => exact (hsame rfl).elim
    | proposed _ _ => exact (hsame rfl).elim
    | accepted _ => exact (hsame rfl).elim
    | @submitted tx hcommand htx =>
      have hfits : server.current.supply < 2 ^ 64 := by rw [h.holdsSupply.1]; decide
      by_cases ha : address = tx.account
      · rw [ha, hcommand]
        exact signs_of_signedTransaction htx
      · exact ((Ledger.apply_spares hfits tx ha).not_ownChange haccount hchange).elim

/-- A request in which the first account asks for payments with a tag. -/
def settingsParams : Json :=
  .object [("secret", .string genesisPassphrase),
    ("tx_json", (Transaction.accountSet genesisAddress 0x10000 none none).toJson)]

theorem genesis_settings_are_signed :
    (start (.seeded 0)).Reachable ∧
      Ledger.OwnChange (start (.seeded 0)).current
        ((start (.seeded 0)).request "submit" settingsParams).2.current genesisAddress ∧
      (start (.seeded 0)).Signs "submit" settingsParams genesisAddress := by
  have hr := start_reachable (.seeded 0)
  have hc : Ledger.OwnChange (start (.seeded 0)).current
      ((start (.seeded 0)).request "submit" settingsParams).2.current genesisAddress :=
    .settings (by decide +kernel)
  exact ⟨hr, hc, (own_changes_are_signed hr).2 _ _ _ _ rfl hc⟩

end Server
end LedgerBench
