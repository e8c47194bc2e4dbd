import LedgerBench.Proofs.Client.Direct

/-! A client that talks to the server in memory sees what the ledger holds: it ends every operation
as the operation ends on the server itself, with the same server behind it. -/

namespace LedgerBench.Client

open Server (Refusal)

/-! ### Requests -/

section Call

variable {server after : Server} {command name : String} {params result : Json} {refusal : Refusal}
  {α : Type} {next : Json → ClientM Server α} {a : α}

theorem call_answered (hopen : server.closed = false)
    (h : server.handle command params = (.ok result, after)) (reporter : Reporter) :
    call command params ⟨server, reporter⟩ = (.ok result, ⟨after, reporter⟩) := by
  simp only [call, Transport.request, Server.request, hopen, h]
  rfl

theorem call_refused (hopen : server.closed = false)
    (h : server.handle command params = (.error refusal, after)) (reporter : Reporter) :
    call command params ⟨server, reporter⟩ = (.error (faultOf refusal), ⟨after, reporter⟩) := by
  simp only [call, Transport.request, Server.request, hopen, h]
  rfl

theorem recorded_answered (hopen : server.closed = false)
    (h : server.handle command params = (.ok result, after))
    (hnext : ∀ session, next result session = (.ok a, session)) (reporter : Reporter) :
    recorded name (call command params >>= next) ⟨server, reporter⟩ =
      ended reporter (some name) (.ok a, after) := by
  have hc := call_answered hopen h reporter
  have hb : (call command params >>= next) ⟨server, reporter⟩ = (.ok a, ⟨after, reporter⟩) := by
    simp only [bind, ExceptT.bind, ExceptT.mk, StateT.bind, hc, ExceptT.bindCont, hnext]
  simp only [recorded, hb]
  rfl

theorem recorded_refused (hopen : server.closed = false)
    (h : server.handle command params = (.error refusal, after)) (reporter : Reporter) :
    recorded name (call command params >>= next) ⟨server, reporter⟩ =
      ended reporter (some name) (.error refusal, after) := by
  have hc := call_refused hopen h reporter
  have hb : (call command params >>= next) ⟨server, reporter⟩ =
      (.error (faultOf refusal), ⟨after, reporter⟩) := by
    simp only [bind, ExceptT.bind, ExceptT.mk, StateT.bind, hc, ExceptT.bindCont]
    rfl
  simp only [recorded, hb, faultOf]
  rfl

theorem decoded_ok {read : Json → Except String α} (h : read result = .ok a)
    (session : Session Server) : decoded command read result session = (.ok a, session) := by
  simp only [decoded, h]
  rfl

/-- What is made of the answer does not change how the operation ends. -/
theorem answered_map {m : ClientM Server α} {name? : Option String} {reporter : Reporter}
    {outcome : Except Refusal α × Server} (f : α → Answer)
    (h : m ⟨server, reporter⟩ = ended reporter name? outcome) :
    (do return f (← m) : ClientM Server Answer) ⟨server, reporter⟩ =
      ended reporter name? (outcome.1.map f, outcome.2) := by
  obtain ⟨answer, after⟩ := outcome
  simp only [bind, ExceptT.bind, ExceptT.mk, StateT.bind, h]
  cases answer <;> rfl

end Call

/-! ### Parameters -/

theorem signedTransaction_submitParams (server : Server) (tx : Transaction) (secret : String) :
    server.signedTransaction (submitParams tx secret) =
      if server.secrets.get? secret = some tx.account then .ok tx else .error badSecret := by
  have hsecret : Server.textParam (submitParams tx secret) "secret" = .ok secret := by
    cases hpath : tx.buildPath <;> (simp only [submitParams, hpath]; rfl)
  have htx : (submitParams tx secret).field? "tx_json" = some tx.toJson := by
    cases hpath : tx.buildPath <;> (simp only [submitParams, hpath]; rfl)
  have hpath : (((submitParams tx secret).field? "build_path").bind Json.bool?).getD false =
      tx.buildPath := by
    cases hpath : tx.buildPath <;> (simp only [submitParams, hpath]; rfl)
  simp only [Server.signedTransaction, hsecret, htx, hpath, tx.ofJson_toJson]
  rfl

theorem selected_pick (server : Server) {params : Json} {ledger : LedgerSelector}
    (h : params.stringField? "ledger_index" = some ledger.name) :
    server.selected params = .ok (ledger.pick server) := by
  simp only [Server.selected, h]
  cases ledger <;> rfl

def linesParams (account : String) (peer : Option String) (ledger : LedgerSelector) : Json :=
  let query := [("account", Json.string account), ("ledger_index", .string ledger.name)]
  .object <| match peer with
    | some p => query ++ [("peer", .string p)]
    | none => query

def pathParams (source destination : String) (amount : Amount) (currencies : List String) : Json :=
  .object [("destination_account", .string destination), ("destination_amount", amount.toJson),
    ("source_account", .string source),
    ("source_currencies", .array (currencies.map fun c => .object [("currency", .string c)]))]

theorem wantsCurrency_pathParams (source destination : String) (amount : Amount)
    (currencies : List String) (currency : String) :
    Server.wantsCurrency (pathParams source destination amount currencies) currency =
      currencies.contains currency := by
  have hlist : ((pathParams source destination amount currencies).field? "source_currencies").bind
      Json.array? = some (currencies.map fun c => .object [("currency", .string c)]) := rfl
  have hname : ∀ c : String,
      (Json.object [("currency", .string c)]).stringField? "currency" = some c := fun _ => rfl
  simp only [Server.wantsCurrency, hlist, List.any_map, Function.comp_def, hname]
  simp [List.any_beq']

section PathFind

variable (server : Server) (source destination : String) (amount : Amount)
  (currencies : List String)

-- one statement each, so that simp rewrites with them by computation

theorem source_pathParams :
    Server.textParam (pathParams source destination amount currencies) "source_account" =
      .ok source :=
  rfl

theorem destination_pathParams :
    Server.textParam (pathParams source destination amount currencies) "destination_account" =
      .ok destination :=
  rfl

theorem amount_pathParams :
    (pathParams source destination amount currencies).field? "destination_amount" =
      some amount.toJson :=
  rfl

theorem selected_pathParams :
    server.selected (pathParams source destination amount currencies) = .ok server.current :=
  rfl

theorem pathFind_native (drops : UInt64) :
    server.pathFind (pathParams source destination (.native drops) currencies) =
      .ok (.object [("alternatives", .array [])]) := by
  simp only [Server.pathFind, source_pathParams, destination_pathParams, amount_pathParams,
    Amount.ofJson_toJson, bind, Except.bind]

theorem pathFind_issued (value : Float) (currency issuer : String) :
    server.pathFind (pathParams source destination (.issued value currency issuer) currencies) =
      if (server.current.account? source).isNone then .error sourceNotFound
      else if !currencies.contains currency then .ok (.object [("alternatives", .array [])])
      else .ok (.object [("alternatives", .array (Server.alternativesJson source currency value
        (server.current.findPaths source destination currency value))),
        ("destination_account", .string destination), ("source_account", .string source)]) := by
  simp only [Server.pathFind, source_pathParams, destination_pathParams, amount_pathParams,
    Amount.ofJson_toJson, selected_pathParams, wantsCurrency_pathParams, sourceNotFound, bind,
    Except.bind]

theorem pathFind_pathParams :
    match directPaths server.current source destination currencies amount with
    | .error refusal =>
      server.pathFind (pathParams source destination amount currencies) = .error refusal
    | .ok found => ∃ result,
      server.pathFind (pathParams source destination amount currencies) = .ok result ∧
        PathsFound.shape.read result = .ok found := by
  cases amount with
  | native drops => exact ⟨_, pathFind_native server source destination currencies drops, rfl⟩
  | issued value currency issuer =>
    rw [pathFind_issued, directPaths]
    cases hroot : server.current.account? source with
    | none => rfl
    | some root =>
      by_cases hwanted : currency ∈ currencies
      · have hread := PathAlternative.readList_alternativesJson source currency value
          (server.current.findPaths source destination currency value)
        have hcontains : (!currencies.contains currency) = false := by simp [hwanted]
        simp only [reduceCtorEq, if_false, hwanted, if_true, hcontains, Bool.false_eq_true,
          Option.isNone_some]
        refine ⟨_, rfl, ?_⟩
        simp [PathsFound.shape, Json.Shape.read, Json.Shape.readMember, optionalField, hread, bind,
          Except.bind, pure, Except.pure]
      · have hcontains : (!currencies.contains currency) = true := by simp [hwanted]
        simp only [reduceCtorEq, if_false, hwanted, hcontains, if_true, Bool.false_eq_true,
          Option.isNone_some]
        exact ⟨_, rfl, rfl⟩

end PathFind

/-! ### Operations -/

section Operation

variable {server : Server} (hopen : server.closed = false) (reporter : Reporter)

/-- Nothing is recorded of the end of the connection. -/
theorem disconnect_direct (server : Server) (reporter : Reporter) :
    perform .disconnect ⟨server, reporter⟩ = ended reporter none (direct server .disconnect) := rfl

include hopen

theorem walletPropose_direct (passphrase : Option String) :
    perform (.walletPropose passphrase) ⟨server, reporter⟩ =
      ended reporter (some "wallet_propose") (direct server (.walletPropose passphrase)) := by
  cases passphrase with
  | none =>
    have hh : walletPropose none ⟨server, reporter⟩ = ended reporter (some "wallet_propose")
        (.ok server.keys.draw.1,
          { server with keys := server.keys.draw.2 }.withKeys server.keys.draw.1) := by
      have hhandle : server.handle "wallet_propose" (.object []) =
          (.ok (Server.walletResult server.keys.draw.1),
            { server with keys := server.keys.draw.2 }.withKeys server.keys.draw.1) := rfl
      exact recorded_answered hopen hhandle (decoded_ok (KeyPair.read_walletResult _)) reporter
    exact answered_map .keys hh
  | some phrase =>
    by_cases hphrase : phrase = genesisPassphrase
    · have hh : walletPropose (some phrase) ⟨server, reporter⟩ =
          ended reporter (some "wallet_propose") (.ok ⟨genesisAddress, genesisPassphrase⟩,
            server.withKeys ⟨genesisAddress, genesisPassphrase⟩) := by
        have hhandle : server.handle "wallet_propose" (.object [("passphrase", .string phrase)]) =
            (.ok (Server.walletResult ⟨genesisAddress, genesisPassphrase⟩),
              server.withKeys ⟨genesisAddress, genesisPassphrase⟩) := if_pos hphrase
        exact recorded_answered hopen hhandle (decoded_ok (KeyPair.read_walletResult _)) reporter
      rw [direct, if_pos hphrase]
      exact answered_map .keys hh
    · have hh : walletPropose (some phrase) ⟨server, reporter⟩ =
          ended reporter (some "wallet_propose") (.error unknownPassphrase, server) := by
        have hhandle : server.handle "wallet_propose" (.object [("passphrase", .string phrase)]) =
            (.error unknownPassphrase, server) := if_neg hphrase
        exact recorded_refused hopen hhandle reporter
      rw [direct, if_neg hphrase]
      exact answered_map .keys hh

theorem submit_direct (tx : Transaction) (secret : String) :
    perform (.submit tx secret) ⟨server, reporter⟩ =
      ended reporter (some "submit") (direct server (.submit tx secret)) := by
  have hsigned := signedTransaction_submitParams server tx secret
  by_cases hsecret : server.secrets.get? secret = some tx.account
  · have hh : submit tx secret ⟨server, reporter⟩ = ended reporter (some "submit")
        (.ok ⟨(server.current.apply tx).1, ""⟩,
          { server with current := (server.current.apply tx).2 }) := by
      have hhandle : server.handle "submit" (submitParams tx secret) =
          (.ok (Server.submitResult tx (server.current.apply tx).1),
            { server with current := (server.current.apply tx).2 }) := by
        rw [if_pos hsecret] at hsigned
        simp only [Server.handle, Server.submit, hsigned]
      have hread := Submitted.read_submitResult tx (server.current.apply tx).1
      rw [EngineResult.ofCode_code_apply] at hread
      exact recorded_answered hopen hhandle (decoded_ok hread) reporter
    rw [direct, if_pos hsecret]
    exact answered_map .submitted hh
  · have hh : submit tx secret ⟨server, reporter⟩ =
        ended reporter (some "submit") (.error badSecret, server) := by
      have hhandle : server.handle "submit" (submitParams tx secret) =
          (.error badSecret, server) := by
        rw [if_neg hsecret] at hsigned
        simp only [Server.handle, Server.submit, hsigned]
      exact recorded_refused hopen hhandle reporter
    rw [direct, if_neg hsecret]
    exact answered_map .submitted hh

theorem ledgerAccept_direct :
    perform .ledgerAccept ⟨server, reporter⟩ =
      ended reporter (some "ledger_accept") (direct server .ledgerAccept) := by
  have hh : ledgerAccept ⟨server, reporter⟩ = ended reporter (some "ledger_accept")
      (.ok (), { server with validated := server.current, index := server.index + 1 }) := by
    have hhandle : server.handle "ledger_accept" (.object []) =
        (.ok (.object [("ledger_current_index", .number (.natural (server.index + 1)))]),
          { server with validated := server.current, index := server.index + 1 }) := rfl
    exact recorded_answered hopen hhandle (fun _ => rfl) reporter
  exact answered_map (fun _ => .done) hh

theorem accountFlags_direct (account : String) (ledger : LedgerSelector) :
    perform (.accountFlags account ledger) ⟨server, reporter⟩ =
      ended reporter (some "account_flags") (direct server (.accountFlags account ledger)) := by
  let params : Json :=
    .object [("account", .string account), ("ledger_index", .string ledger.name)]
  have haccount : Server.textParam params "account" = .ok account := rfl
  have hselected : server.selected params = .ok (ledger.pick server) := selected_pick server rfl
  cases hroot : (ledger.pick server).account? account with
  | none =>
    have hh : accountFlags account ledger ⟨server, reporter⟩ =
        ended reporter (some "account_flags") (.error Server.accountNotFound, server) := by
      have hhandle : server.handle "account_info" params =
          (.error Server.accountNotFound, server) := by
        simp only [Server.handle, Server.accountInfo, haccount, hselected, hroot, bind, Except.bind]
      exact recorded_refused hopen hhandle reporter
    simp only [direct, hroot]
    exact answered_map .flags hh
  | some root =>
    have hh : accountFlags account ledger ⟨server, reporter⟩ =
        ended reporter (some "account_flags") (.ok root.flags, server) := by
      have hhandle : server.handle "account_info" params =
          (.ok (.object [("account_data", .object [("Account", .string account),
            ("Balance", .string (toString root.balance.toNat)),
            ("Flags", .number (.natural root.flags.bits.toUInt64)),
            ("Sequence", .number (.natural root.sequence.toUInt64))])]), server) := by
        simp only [Server.handle, Server.accountInfo, haccount, hselected, hroot, bind, Except.bind]
      refine recorded_answered hopen hhandle (fun session => ?_) reporter
      show (Except.ok (RootFlags.mk root.flags.bits.toUInt64.toUInt32), session) = _
      rw [UInt32.toUInt32_toUInt64]
    simp only [direct, hroot]
    exact answered_map .flags hh

theorem accountLines_direct (account : String) (peer : Option String) (ledger : LedgerSelector) :
    perform (.accountLines account peer ledger) ⟨server, reporter⟩ =
      ended reporter (some "account_lines") (direct server (.accountLines account peer ledger)) := by
  let params := linesParams account peer ledger
  have haccount : Server.textParam params "account" = .ok account := by cases peer <;> rfl
  have hpeer : params.stringField? "peer" = peer := by cases peer <;> rfl
  have hselected : server.selected params = .ok (ledger.pick server) :=
    selected_pick server (by cases peer <;> rfl)
  cases hroot : (ledger.pick server).account? account with
  | none =>
    have hh : accountLines account peer ledger ⟨server, reporter⟩ =
        ended reporter (some "account_lines") (.error Server.accountNotFound, server) := by
      have hhandle : server.handle "account_lines" params =
          (.error Server.accountNotFound, server) := by
        simp only [Server.handle, Server.accountLines, haccount, hselected, hroot, bind,
          Except.bind]
        rfl
      exact recorded_refused hopen hhandle reporter
    simp only [direct, hroot]
    exact answered_map .lines hh
  | some root =>
    have hh : accountLines account peer ledger ⟨server, reporter⟩ =
        ended reporter (some "account_lines")
          (.ok (((ledger.pick server).linesOf account peer).map .ofView), server) := by
      have hhandle : server.handle "account_lines" params =
          (.ok (.object [("account", .string account),
            ("lines", .array (((ledger.pick server).linesOf account peer).map Server.lineJson))]),
            server) := by
        simp only [Server.handle, Server.accountLines, haccount, hselected, hroot, hpeer, bind,
          Except.bind]
        rfl
      refine recorded_answered hopen hhandle (fun session => ?_) reporter
      exact decoded_ok (readList_map TrustLine.read_lineJson _) session
    simp only [direct, hroot]
    exact answered_map .lines hh

theorem lineEntry_direct (account issuer currency : String) (ledger : LedgerSelector) :
    perform (.lineEntry account issuer currency ledger) ⟨server, reporter⟩ =
      ended reporter (some "divvy_balance")
        (direct server (.lineEntry account issuer currency ledger)) := by
  let state : Json := .object
    [("accounts", .array [.string account, .string issuer]), ("currency", .string currency)]
  let params : Json :=
    .object [("divvy_state", state), ("ledger_index", .string ledger.name)]
  have hstate : params.field? "divvy_state" = some state := rfl
  have haccounts : (state.field? "accounts").bind Server.accountPair = some (account, issuer) := rfl
  have hcurrency : Server.textParam state "currency" = .ok currency := rfl
  have hselected : server.selected params = .ok (ledger.pick server) := selected_pick server rfl
  cases hline : (ledger.pick server).line? account issuer currency with
  | none =>
    have hh : lineEntry account issuer currency ledger ⟨server, reporter⟩ =
        ended reporter (some "divvy_balance") (.error entryNotFound, server) := by
      have hhandle : server.handle "ledger_entry" params = (.error entryNotFound, server) := by
        simp only [Server.handle, Server.ledgerEntry, hstate, haccounts, hcurrency, hselected,
          hline, bind, Except.bind]
        rfl
      exact recorded_refused hopen hhandle reporter
    simp only [direct, hline]
    exact answered_map .entry hh
  | some line =>
    have hh : lineEntry account issuer currency ledger ⟨server, reporter⟩ =
        ended reporter (some "divvy_balance")
          (.ok ⟨.ofSides line.low.noDivvy line.high.noDivvy, line.balance⟩, server) := by
      have hhandle : server.handle "ledger_entry" params =
          (.ok (.object [("node",
            Server.lineEntryJson (.between account issuer currency) line)]), server) := by
        simp only [Server.handle, Server.ledgerEntry, hstate, haccounts, hcurrency, hselected,
          hline, bind, Except.bind]
      refine recorded_answered hopen hhandle (fun session => ?_) reporter
      let node := Server.lineEntryJson (.between account issuer currency) line
      have hflags : ((Json.object [("node", node)]).path? ["node", "Flags"]).bind Json.word? =
          some (LineFlags.ofSides line.low.noDivvy line.high.noDivvy).bits.toUInt64 := rfl
      have hbalance : (Json.object [("node", node)]).path? ["node", "Balance"] =
          some (Amount.issued line.balance (LineKey.between account issuer currency).currency
            noAccount).toJson := rfl
      simp only [node] at hflags hbalance
      simp only [hflags, hbalance, Amount.ofJson_toJson, Option.getD_some,
        UInt32.toUInt32_toUInt64]
      rfl
    simp only [direct, hline]
    exact answered_map .entry hh

theorem findPaths_direct (source destination : String) (amount : Amount)
    (currencies : List String) :
    perform (.findPaths source destination amount currencies) ⟨server, reporter⟩ =
      ended reporter (some "path_find")
        (direct server (.findPaths source destination amount currencies)) := by
  have hfind := pathFind_pathParams server source destination amount currencies
  cases hdirect : directPaths server.current source destination currencies amount with
  | error refusal =>
    rw [hdirect] at hfind
    have hh : findPaths source destination amount currencies ⟨server, reporter⟩ =
        ended reporter (some "path_find") (.error refusal, server) := by
      have hhandle : server.handle "divvy_path_find"
          (pathParams source destination amount currencies) = (.error refusal, server) := by
        simp only [Server.handle, hfind]
      exact recorded_refused hopen hhandle reporter
    rw [direct, hdirect]
    exact answered_map .paths hh
  | ok found =>
    rw [hdirect] at hfind
    obtain ⟨result, hresult, hread⟩ := hfind
    have hh : findPaths source destination amount currencies ⟨server, reporter⟩ =
        ended reporter (some "path_find") (.ok found, server) := by
      have hhandle : server.handle "divvy_path_find"
          (pathParams source destination amount currencies) = (.ok result, server) := by
        simp only [Server.handle, hresult]
      exact recorded_answered hopen hhandle (decoded_ok hread) reporter
    rw [direct, hdirect]
    exact answered_map .paths hh

end Operation

/-- A client of an open server answers every operation as the ledger itself does and leaves the
server as the ledger itself does. It fails only where the server refuses, with the server's own code
and message. -/
theorem perform_eq_direct {server : Server} (hopen : server.closed = false) (reporter : Reporter)
    (operation : Operation) :
    perform operation ⟨server, reporter⟩ =
        ended reporter operation.name? (direct server operation) ∧
      ∀ fault, (perform operation ⟨server, reporter⟩).1 = .error fault →
        ∃ code message, fault = .remote (.remote code message) := by
  have hdirect : perform operation ⟨server, reporter⟩ =
      ended reporter operation.name? (direct server operation) := by
    cases operation with
    | walletPropose passphrase => exact walletPropose_direct hopen reporter passphrase
    | submit tx secret => exact submit_direct hopen reporter tx secret
    | ledgerAccept => exact ledgerAccept_direct hopen reporter
    | disconnect => exact disconnect_direct server reporter
    | accountFlags account ledger => exact accountFlags_direct hopen reporter account ledger
    | accountLines account peer ledger =>
      exact accountLines_direct hopen reporter account peer ledger
    | lineEntry account issuer currency ledger =>
      exact lineEntry_direct hopen reporter account issuer currency ledger
    | findPaths source destination amount currencies =>
      exact findPaths_direct hopen reporter source destination amount currencies
  refine ⟨hdirect, fun fault hfault => ?_⟩
  rw [hdirect] at hfault
  cases hanswer : (direct server operation).1 with
  | ok answer =>
    simp only [ended, hanswer, Except.mapError] at hfault
    cases hfault
  | error refusal =>
    simp only [ended, hanswer, Except.mapError, Except.error.injEq] at hfault
    exact ⟨refusal.code, refusal.message, hfault.symm⟩

theorem payment_performed :
    let tx := Transaction.payment genesisAddress "rPayee" (.native 1000) false
    let server := Server.start (.seeded 1)
    server.closed = false ∧
      perform (.submit tx genesisPassphrase) ⟨server, .start true⟩ =
        ended (.start true) (some "submit") (.ok (.submitted ⟨.success, ""⟩),
          { server with current := (server.current.apply tx).2 }) := by
  intro tx server
  have hopen : server.closed = false := rfl
  refine ⟨hopen, (perform_eq_direct hopen (.start true) (.submit tx genesisPassphrase)).1.trans ?_⟩
  have hsecret : server.secrets.get? genesisPassphrase = some tx.account := by decide
  have hresult : (server.current.apply tx).1 = .success := by decide
  rw [direct, if_pos hsecret, hresult]
  rfl

end LedgerBench.Client
