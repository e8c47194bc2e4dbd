import LedgerBench.Proofs.Integrity
import LedgerBench.Proofs.Ledger.LineView
import LedgerBench.Proofs.Server.Handled

/-! The ways to see a line agree. What the low account of a line is told about it, turned round, is
what the high account is told, and the entry of the line says the same of both. -/

namespace LedgerBench

/-- The view that the other account has of the same line. -/
def LineView.fromPeer (view : LineView) (account : String) : LineView where
  peer := account
  currency := view.currency
  balance := -view.balance
  own := view.peerSide
  peerSide := view.own

theorem LineFlags.ofSides_bits (low high : Bool) :
    ((ofSides low high).bits &&& lowNoDivvy != 0) = low ∧
      ((ofSides low high).bits &&& highNoDivvy != 0) = high ∧
      (ofSides low high).bits &&& ~~~(lowNoDivvy ||| highNoDivvy) = 0 := by
  cases low <;> cases high <;> decide

namespace Ledger

theorem linesOf_some (ledger : Ledger) (account peer : String) :
    ledger.linesOf account (some peer) =
      (ledger.linesOf account none).filter fun view => view.peer == peer := by
  simp only [linesOf, Option.all_some, Option.all_none, List.filter_true]
  exact List.filter_congr fun view _ => BEq.comm

section Ends

variable {ledger : Ledger} {low high : String}

theorem touches_low_iff {key : LineKey} (hlt : low < high) (hkey : key.low ≤ key.high) :
    Touches low (some high) key ↔ key.low = low ∧ key.high = high := by
  constructor
  · rintro ⟨hends, hpeer⟩
    have hother := hpeer high rfl
    by_cases hlow : key.low = low
    · exact ⟨hlow, by rw [hother, if_pos hlow]⟩
    · rw [if_neg hlow] at hother
      rw [← hother, hends.resolve_left hlow] at hkey
      exact absurd hlt (not_lt.2 hkey)
  · rintro ⟨rfl, rfl⟩
    exact ⟨.inl rfl, by simp⟩

theorem touches_high_iff {key : LineKey} (hlt : low < high) (hkey : key.low ≤ key.high) :
    Touches high (some low) key ↔ key.low = low ∧ key.high = high := by
  constructor
  · rintro ⟨hends, hpeer⟩
    have hother := hpeer low rfl
    by_cases hlow : key.low = high
    · rw [if_pos hlow] at hother
      rw [← hother, hlow] at hkey
      exact absurd hlt (not_lt.2 hkey)
    · rw [if_neg hlow] at hother
      exact ⟨hother.symm, hends.resolve_left hlow⟩
  · rintro ⟨rfl, rfl⟩
    exact ⟨.inr rfl, by simp [hlt.ne]⟩

theorem viewFrom_low {key : LineKey} (hlow : key.low = low) (hhigh : key.high = high)
    (hlt : low < high) (line : Line) :
    viewFrom low key line = ⟨high, key.currency, line.balance, line.low, line.high⟩ := by
  simp [viewFrom, Line.balanceFor, Line.side, hlow, hhigh, hlt.ne]

theorem viewFrom_high {key : LineKey} (hlow : key.low = low) (hhigh : key.high = high)
    (hlt : low < high) (line : Line) :
    viewFrom high key line = (viewFrom low key line).fromPeer low := by
  rw [viewFrom_low hlow hhigh hlt]
  simp [viewFrom, Line.balanceFor, Line.side, LineView.fromPeer, hlow, hlt.ne]

theorem Oriented.linesOf_swap (h : ledger.Oriented) (hlt : low < high) :
    ledger.linesOf high (some low) =
      (ledger.linesOf low (some high)).map fun view => view.fromPeer low := by
  rw [linesOf_eq, linesOf_eq, List.map_map]
  have hsame : ∀ entry ∈ ledger.lines.entries,
      decide (Touches high (some low) entry.1) = decide (Touches low (some high) entry.1) := by
    intro entry hentry
    have hkey := h entry hentry
    rw [decide_eq_decide, touches_high_iff hlt hkey, touches_low_iff hlt hkey]
  rw [List.filter_congr hsame]
  refine List.map_congr_left fun entry hentry => ?_
  obtain ⟨hmem, htouches⟩ := List.mem_filter.1 hentry
  obtain ⟨hlow, hhigh⟩ := (touches_low_iff hlt (h entry hmem)).1 (of_decide_eq_true htouches)
  exact viewFrom_high hlow hhigh hlt entry.2

theorem between_of_lt (hlt : low < high) (currency : String) :
    LineKey.between low high currency = ⟨low, high, currency⟩ :=
  if_pos hlt

theorem Oriented.linesOf_currency (h : ledger.Oriented) (hlt : low < high) {currency : String}
    {line : Line} (hline : ledger.line? low high currency = some line) :
    (ledger.linesOf low (some high)).filter (fun view => view.currency == currency) =
      [⟨high, currency, line.balance, line.low, line.high⟩] := by
  rw [line?, between_of_lt hlt] at hline
  rw [linesOf_eq, List.filter_map, List.filter_filter,
    Register.filter_entries_eq_singleton hline]
  · exact congrArg (fun view => [view])
      (@viewFrom_low low high ⟨low, high, currency⟩ rfl rfl hlt line)
  · have htouches : Touches low (some high) ⟨low, high, currency⟩ :=
      (touches_low_iff hlt hlt.le).2 ⟨rfl, rfl⟩
    simp [viewFrom, htouches]
  · intro entry hentry hboth
    rw [Bool.and_eq_true] at hboth
    obtain ⟨hlow, hhigh⟩ :=
      (touches_low_iff hlt (h entry hentry)).1 (of_decide_eq_true hboth.2)
    have hcurrency : entry.1.currency = currency := by simpa [viewFrom] using hboth.1
    rw [← hlow, ← hhigh, ← hcurrency]

end Ends

theorem Anchored.account_isSome {ledger : Ledger} (h : ledger.Anchored) {a b currency : String}
    {line : Line} (hline : ledger.line? a b currency = some line) :
    (ledger.account? a).isSome ∧ (ledger.account? b).isSome := by
  have hkey := Register.mem_keys_iff.2 (Option.isSome_of_eq_some hline)
  obtain ⟨hlow, hhigh⟩ := h _ hkey
  rcases LineKey.between_cases a b currency with hk | hk
  · rw [hk] at hlow hhigh
    exact ⟨Register.mem_keys_iff.1 hlow, Register.mem_keys_iff.1 hhigh⟩
  · rw [hk] at hlow hhigh
    exact ⟨Register.mem_keys_iff.1 hhigh, Register.mem_keys_iff.1 hlow⟩

end Ledger

namespace Server

/-- The ledger that a query is about: the open one, by name or without one, or the validated one. -/
inductive Names (server : Server) (params : Json) : Ledger → Prop where
  | current (h : params.stringField? "ledger_index" ∈ [none, some "current"]) :
      Names server params server.current
  | validated (h : params.stringField? "ledger_index" ∈ [some "validated", some "closed"]) :
      Names server params server.validated

theorem Names.selected {server : Server} {params : Json} {ledger : Ledger}
    (h : server.Names params ledger) : server.selected params = .ok ledger := by
  cases h with
  | current h => exact selected_current server h
  | validated h => exact selected_validated server h

/-- A request for the lines of an account, or for those with one peer. -/
structure AsksForLines (params : Json) (account : String) (peer : Option String) : Prop where
  account : params.stringField? "account" = some account
  peer : params.stringField? "peer" = peer

/-- A request for the entry of a line, with its accounts in either order. -/
inductive AsksForEntry (params : Json) (a b currency : String) : Prop where
  | asked (state : Json) (hstate : params.field? "divvy_state" = some state)
      (haccounts : state.field? "accounts" = some (.array [.string a, .string b]) ∨
        state.field? "accounts" = some (.array [.string b, .string a]))
      (hcurrency : state.stringField? "currency" = some currency)

/-- The envelope of an answer. -/
def successReply (result : Json) : Json :=
  .object [("result", result), ("status", .string "success"), ("type", .string "response")]

def linesReply (account : String) (lines : List Json) : Json :=
  successReply (.object [("account", .string account), ("lines", .array lines)])

/-- What an entry among the lines of an account says of one of them. -/
structure LineShows (entry : Json) (view : LineView) : Prop where
  account : entry.field? "account" = some (.string view.peer)
  currency : entry.field? "currency" = some (.string view.currency)
  balance : entry.field? "balance" = some (.string (Decimal.textOf Decimal.plain view.balance))
  limit : entry.field? "limit" = some (.string (Decimal.textOf Decimal.plain view.own.limit))
  limitPeer :
    entry.field? "limit_peer" = some (.string (Decimal.textOf Decimal.plain view.peerSide.limit))
  noDivvy : entry.field? "no_divvy" = some (.bool view.own.noDivvy)
  noDivvyPeer : entry.field? "no_divvy_peer" = some (.bool view.peerSide.noDivvy)

/-- An issued amount as it is written in the entry of a line. -/
structure AmountShows (amount : Json) (value : Float) (currency issuer : String) : Prop where
  value : amount.field? "value" = some (.string (Decimal.textOf Decimal.plain value))
  currency : amount.field? "currency" = some (.string currency)
  issuer : amount.field? "issuer" = some (.string issuer)

/-- What the entry of a line says, told by what its low account sees. -/
structure EntryShows (node : Json) (low high currency : String) (view : LineView) : Prop where
  balance : ∃ amount, node.field? "Balance" = some amount ∧
    AmountShows amount view.balance currency noAccount
  lowLimit : ∃ amount, node.field? "LowLimit" = some amount ∧
    AmountShows amount view.own.limit currency low
  highLimit : ∃ amount, node.field? "HighLimit" = some amount ∧
    AmountShows amount view.peerSide.limit currency high
  flags : ∃ bits : UInt32, node.field? "Flags" = some (.number (.natural bits.toUInt64)) ∧
    (bits &&& LineFlags.lowNoDivvy != 0) = view.own.noDivvy ∧
    (bits &&& LineFlags.highNoDivvy != 0) = view.peerSide.noDivvy ∧
    bits &&& ~~~(LineFlags.lowNoDivvy ||| LineFlags.highNoDivvy) = 0

section Replies

variable {server : Server} {params : Json} {ledger : Ledger}

theorem request_accountLines (hopen : server.closed = false) {account : String}
    {peer : Option String} (hasks : AsksForLines params account peer)
    (hnames : server.Names params ledger) (haccount : (ledger.account? account).isSome) :
    server.request "account_lines" params =
      (.ok (linesReply account ((ledger.linesOf account peer).map lineJson)), server) := by
  have hnone : (ledger.account? account).isNone = false := by
    rw [← Option.not_isSome, haccount]
    rfl
  simp only [request, hopen, handle, accountLines, textParam, hasks.account, hasks.peer,
    hnames.selected, bind, Except.bind, hnone]
  rfl

theorem request_ledgerEntry (hopen : server.closed = false) {a b currency : String} {line : Line}
    (hasks : AsksForEntry params a b currency) (hnames : server.Names params ledger)
    (hline : ledger.line? a b currency = some line) :
    server.request "ledger_entry" params =
      (.ok (successReply (.object [("node", lineEntryJson (.between a b currency) line)])),
        server) := by
  obtain ⟨state, hstate, haccounts, hcurrency⟩ := hasks
  rcases haccounts with haccounts | haccounts
  · simp only [request, hopen, handle, ledgerEntry, hstate, haccounts, Option.bind_some,
      accountPair, textParam, hcurrency, hnames.selected, bind, Except.bind, hline]
    rfl
  · have hswapped : ledger.line? b a currency = some line := by
      rwa [Ledger.line?, LineKey.between_comm]
    rw [LineKey.between_comm]
    simp only [request, hopen, handle, ledgerEntry, hstate, haccounts, Option.bind_some,
      accountPair, textParam, hcurrency, hnames.selected, bind, Except.bind, hswapped]
    rfl

theorem lineJson_shows (view : LineView) : LineShows (lineJson view) view := by
  constructor <;> rfl

theorem lineJson_forall₂ (views : List LineView) :
    List.Forall₂ LineShows (views.map lineJson) views := by
  rw [List.forall₂_map_left_iff, List.forall₂_same]
  exact fun view _ => lineJson_shows view

theorem issued_shows (value : Float) (currency issuer : String) :
    AmountShows (Amount.issued value currency issuer).toJson value currency issuer := by
  constructor <;> rfl

theorem lineEntryJson_shows (low high currency : String) (line : Line) :
    EntryShows (lineEntryJson ⟨low, high, currency⟩ line) low high currency
      ⟨high, currency, line.balance, line.low, line.high⟩ where
  balance := ⟨_, rfl, issued_shows ..⟩
  lowLimit := ⟨_, rfl, issued_shows ..⟩
  highLimit := ⟨_, rfl, issued_shows ..⟩
  flags := ⟨_, rfl, LineFlags.ofSides_bits line.low.noDivvy line.high.noDivvy⟩

/-- The lines with a peer are those of all lines that name it. -/
theorem linesOf_some_json (ledger : Ledger) (account peer : String) :
    ((ledger.linesOf account none).map lineJson).filter
        (fun json => json.stringField? "account" == some peer) =
      (ledger.linesOf account (some peer)).map lineJson := by
  rw [Ledger.linesOf_some, List.filter_map]
  exact congrArg _ (List.filter_congr fun view _ => by
    change (some view.peer == some peer) = (view.peer == peer)
    simp)

end Replies

/-- On a line between two accounts, of which the low one comes first in byte order, both are told
the same: the lines between them in one order, each with the sides changed over and the balance of
the high account the negated one of the low account. The entry of the line is the same whichever
account is named first, and says what the low account sees. The lines with a peer are exactly those
of all lines that name it. -/
theorem line_sides_agree {server : Server} (h : server.Reachable) (hopen : server.closed = false)
    {ledger : Ledger} (hledger : ledger ∈ [server.current, server.validated])
    {low high currency : String} (hlt : Text.utf8 low.toList < Text.utf8 high.toList) {line : Line}
    (hline : ledger.line? low high currency = some line) :
    let view : LineView := ⟨high, currency, line.balance, line.low, line.high⟩
    ∃ (views : List LineView) (lowLines highLines : List Json) (node : Json),
      views.filter (fun other => other.currency == currency) = [view] ∧
      List.Forall₂ LineShows lowLines views ∧
      List.Forall₂ LineShows highLines (views.map fun other => other.fromPeer low) ∧
      EntryShows node low high currency view ∧
      (∀ params, server.Names params ledger → AsksForLines params low (some high) →
        server.request "account_lines" params = (.ok (linesReply low lowLines), server)) ∧
      (∀ params, server.Names params ledger → AsksForLines params high (some low) →
        server.request "account_lines" params = (.ok (linesReply high highLines), server)) ∧
      (∀ params, server.Names params ledger → AsksForEntry params low high currency →
        server.request "ledger_entry" params =
          (.ok (successReply (.object [("node", node)])), server)) ∧
      ∀ account peer, (account = low ∧ peer = high ∨ account = high ∧ peer = low) →
        ∃ lines,
          (∀ params, server.Names params ledger → AsksForLines params account none →
            server.request "account_lines" params = (.ok (linesReply account lines), server)) ∧
          ∀ params, server.Names params ledger → AsksForLines params account (some peer) →
            server.request "account_lines" params =
              (.ok (linesReply account
                (lines.filter fun json => json.stringField? "account" == some peer)), server) := by
  intro view
  have hl := h.ledger hledger
  have horiented := hl.oriented
  obtain ⟨hlow, hhigh⟩ := hl.anchored.account_isSome hline
  rw [Text.utf8_lt_iff] at hlt
  refine ⟨ledger.linesOf low (some high), _, _, lineEntryJson ⟨low, high, currency⟩ line,
    horiented.linesOf_currency hlt hline, lineJson_forall₂ _, lineJson_forall₂ _,
    lineEntryJson_shows .., ?_, ?_, ?_, ?_⟩
  · exact fun params hnames hasks => request_accountLines hopen hasks hnames hlow
  · intro params hnames hasks
    rw [← horiented.linesOf_swap hlt]
    exact request_accountLines hopen hasks hnames hhigh
  · intro params hnames hasks
    rw [← Ledger.between_of_lt hlt]
    exact request_ledgerEntry hopen hasks hnames hline
  · intro account peer hends
    have haccount : (ledger.account? account).isSome := by
      rcases hends with ⟨rfl, -⟩ | ⟨rfl, -⟩
      · exact hlow
      · exact hhigh
    refine ⟨(ledger.linesOf account none).map lineJson, fun params hnames hasks => ?_,
      fun params hnames hasks => ?_⟩
    · exact request_accountLines hopen hasks hnames haccount
    · rw [linesOf_some_json]
      exact request_accountLines hopen hasks hnames haccount

/-- The root account pays another one and trusts it. -/
def trustedCalls : List Call :=
  [.request "submit" (.object [("secret", .string genesisPassphrase),
      ("tx_json", (Transaction.payment genesisAddress "rAlice" (.native 1000) false).toJson)]),
    .request "submit" (.object [("secret", .string genesisPassphrase),
      ("tx_json", (Transaction.trustSet genesisAddress (.issued 100 "USD" "rAlice")
        TrustSetFlag.setNoDivvy.bits).toJson)])]

/-- A request for the lines between the two accounts, from the side of the first. -/
def sharedLinesParams (account peer : String) : Json :=
  .object [("account", .string account), ("peer", .string peer)]

theorem trusted_line_sides :
    let server := (start (.seeded 0)).after trustedCalls
    let line : Line := ⟨0, ⟨0, true⟩, ⟨100, true⟩⟩
    server.Reachable ∧ server.closed = false ∧
      Text.utf8 "rAlice".toList < Text.utf8 genesisAddress.toList ∧
      server.current.line? "rAlice" genesisAddress "USD" = some line ∧
      let view : LineView := ⟨genesisAddress, "USD", 0, ⟨0, true⟩, ⟨100, true⟩⟩
      ∃ (views : List LineView) (lowLines highLines : List Json) (node : Json),
        views.filter (fun other => other.currency == "USD") = [view] ∧
        List.Forall₂ LineShows lowLines views ∧
        List.Forall₂ LineShows highLines (views.map fun other => other.fromPeer "rAlice") ∧
        EntryShows node "rAlice" genesisAddress "USD" view ∧
        server.request "account_lines" (sharedLinesParams "rAlice" genesisAddress) =
          (.ok (linesReply "rAlice" lowLines), server) ∧
        server.request "account_lines" (sharedLinesParams genesisAddress "rAlice") =
          (.ok (linesReply genesisAddress highLines), server) := by
  intro server line
  have hreachable : server.Reachable := after_reachable _ _
  have hopen : server.closed = false := by decide +kernel
  have hlt : Text.utf8 "rAlice".toList < Text.utf8 genesisAddress.toList := by decide +kernel
  have hline : server.current.line? "rAlice" genesisAddress "USD" = some line := by decide +kernel
  obtain ⟨views, lowLines, highLines, node, hone, hlows, hhighs, hshows, hlow, hhigh, -, -⟩ :=
    line_sides_agree hreachable hopen List.mem_cons_self hlt hline
  have hnames : ∀ a b, server.Names (sharedLinesParams a b) server.current :=
    fun a b => .current List.mem_cons_self
  exact ⟨hreachable, hopen, hlt, hline, views, lowLines, highLines, node, hone, hlows, hhighs,
    hshows, hlow _ (hnames _ _) ⟨rfl, rfl⟩, hhigh _ (hnames _ _) ⟨rfl, rfl⟩⟩

end Server
end LedgerBench
