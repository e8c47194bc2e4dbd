import LedgerBench.Server.Run

/-! What requests do to a server. `Handled` lists every way in which a request is answered, each
with the server after it; only the proposal of a wallet, a submitted transaction and the acceptance
of the ledger change anything. -/

namespace LedgerBench.Server

/-- The answers that a request can get, and the server after each of them. -/
inductive Handled (server : Server) (command : String) (params : Json) : Answer → Server → Prop where
  | refused (refusal : Refusal) : Handled server command params (.error refusal) server
  | queried (result : Json)
      (hcommand : command ∉ ["wallet_propose", "submit", "ledger_accept"]) :
      Handled server command params (.ok result) server
  | recovered (hcommand : command = "wallet_propose")
      (hphrase : params.stringField? "passphrase" = some genesisPassphrase) :
      Handled server command params (.ok (walletResult ⟨genesisAddress, genesisPassphrase⟩))
        (server.withKeys ⟨genesisAddress, genesisPassphrase⟩)
  | proposed (hcommand : command = "wallet_propose")
      (hphrase : params.stringField? "passphrase" = none) :
      Handled server command params (.ok (walletResult server.keys.draw.1))
        ({ server with keys := server.keys.draw.2 }.withKeys server.keys.draw.1)
  | submitted {tx : Transaction} (hcommand : command = "submit")
      (htx : server.signedTransaction params = .ok tx) :
      Handled server command params (.ok (submitResult tx (server.current.apply tx).1))
        { server with current := (server.current.apply tx).2 }
  | accepted (hcommand : command = "ledger_accept") :
      Handled server command params
        (.ok (.object [("ledger_current_index", .number (.natural (server.index + 1)))]))
        { server with validated := server.current, index := server.index + 1 }

theorem Handled.query {server : Server} {command : String} {params : Json}
    (hcommand : command ∉ ["wallet_propose", "submit", "ledger_accept"]) (answer : Answer) :
    Handled server command params answer server := by
  cases answer with
  | error refusal => exact .refused refusal
  | ok result => exact .queried result hcommand

theorem walletPropose_handled (server : Server) (params : Json) :
    Handled server "wallet_propose" params (server.walletPropose params).1
      (server.walletPropose params).2 := by
  cases hphrase : params.stringField? "passphrase" with
  | none =>
    simp only [walletPropose, hphrase]
    exact .proposed rfl hphrase
  | some phrase =>
    by_cases hgenesis : phrase = genesisPassphrase
    · simp only [walletPropose, hphrase, hgenesis, if_true]
      exact .recovered rfl (hgenesis ▸ hphrase)
    · simp only [walletPropose, hphrase, hgenesis, if_false]
      exact .refused _

/-- What a transaction that the server takes up was read from. -/
theorem of_signedTransaction {server : Server} {params : Json} {tx : Transaction}
    (h : server.signedTransaction params = .ok tx) :
    ∃ secret txJson, params.stringField? "secret" = some secret ∧
      server.secrets.get? secret = some tx.account ∧ params.field? "tx_json" = some txJson ∧
      Transaction.ofJson txJson (((params.field? "build_path").bind Json.bool?).getD false) =
        .ok tx := by
  unfold signedTransaction textParam at h
  cases hsecret : params.stringField? "secret" with
  | none => simp [hsecret, bind, Except.bind] at h
  | some secret =>
    cases htx : params.field? "tx_json" with
    | none => simp [hsecret, htx, bind, Except.bind] at h
    | some txJson =>
      simp only [hsecret, htx, bind, Except.bind] at h
      split at h
      · cases h
      · rename_i decoded hdecoded
        split at h
        · rename_i hknown
          cases h
          exact ⟨secret, txJson, rfl, hknown, rfl, hdecoded⟩
        · cases h

theorem submit_handled (server : Server) (params : Json) :
    Handled server "submit" params (server.submit params).1 (server.submit params).2 := by
  cases htx : server.signedTransaction params with
  | error refusal =>
    simp only [submit, htx]
    exact .refused refusal
  | ok tx =>
    simp only [submit, htx]
    exact .submitted rfl htx

theorem handle_handled (server : Server) (command : String) (params : Json) :
    Handled server command params (server.handle command params).1
      (server.handle command params).2 := by
  unfold handle
  split
  · exact server.walletPropose_handled params
  · exact server.submit_handled params
  · exact .accepted rfl
  · exact .query (by decide) _
  · exact .query (by decide) _
  · exact .query (by decide) _
  · exact .query (by decide) _
  · exact .refused _

theorem request_handled {server : Server} (h : server.closed = false) (command : String)
    (params : Json) : ∃ answer after, Handled server command params answer after ∧
      server.request command params = (.ok (envelope answer), after) := by
  refine ⟨_, _, server.handle_handled command params, ?_⟩
  simp only [request, h]
  rfl

theorem request_of_closed {server : Server} (h : server.closed = true) (command : String)
    (params : Json) : server.request command params = (.error .closed, server) := by
  simp only [request, h, if_true]

theorem after_closed (calls : List Call) {server : Server} (h : server.closed = true) :
    server.after calls = server := by
  induction calls with
  | nil => rfl
  | cons call calls ih =>
    have hs : server.step call = server := by
      cases call with
      | request command params => simp only [step, request_of_closed h]
      | close => cases server; simp_all [step, close]
    rw [after, List.foldl_cons, hs]
    exact ih

/-- What every answer keeps, requests keep, since a closed server stays as it is. -/
theorem request_keeps {P : Server → Prop} {server : Server}
    (h : ∀ command params answer after, Handled server command params answer after → P after)
    (hserver : P server) (command : String) (params : Json) :
    P (server.request command params).2 := by
  cases hc : server.closed with
  | true => rwa [request_of_closed hc]
  | false =>
    obtain ⟨answer, after, hh, he⟩ := request_handled hc command params
    rw [he]
    exact h _ _ _ _ hh

/-! ### Queries

A query names one of the two ledgers of a server, and its answer says what this ledger holds:
nothing else of the server has a part in it. -/

theorem selected_current (server : Server) {params : Json}
    (h : params.stringField? "ledger_index" ∈ [none, some "current"]) :
    server.selected params = .ok server.current := by
  simp only [List.mem_cons, List.not_mem_nil, or_false] at h
  rcases h with h | h <;> simp [selected, h]

theorem selected_validated (server : Server) {params : Json}
    (h : params.stringField? "ledger_index" ∈ [some "validated", some "closed"]) :
    server.selected params = .ok server.validated := by
  simp only [List.mem_cons, List.not_mem_nil, or_false] at h
  rcases h with h | h <;> simp [selected, h]

end LedgerBench.Server
