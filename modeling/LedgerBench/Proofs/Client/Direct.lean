import LedgerBench.Client.Basic
import LedgerBench.Proofs.Ledger.Codec
import LedgerBench.Server.Request

/-! Operations of a client carried out on the server itself, without a request in between, and the
records that a client reads in what a server answers. -/

namespace LedgerBench

section Reading

open Json (Shape readList)

theorem readList_map {α β : Type} {read : Json → Except String α} {write : β → Json} {view : β → α}
    (h : ∀ b, read (write b) = .ok (view b)) (items : List β) :
    readList read (.array (items.map write)) = .ok (items.map view) := by
  simp only [readList]
  induction items with
  | nil => rfl
  | cons b rest ih =>
    simp only [List.map_cons, List.mapM_cons, h, ih]
    rfl

theorem readNumberText_textOf (x : Float) :
    readNumberText (.string (Decimal.textOf Decimal.plain x)) = .ok x := by
  simp only [readNumberText, Json.readText, Decimal.readReal_textOf, bind, Except.bind]

theorem KeyPair.read_walletResult (pair : KeyPair) :
    KeyPair.shape.read (Server.walletResult pair) = .ok pair := rfl

theorem Submitted.read_submitResult (tx : Transaction) (result : EngineResult) :
    Submitted.shape.read (Server.submitResult tx result) = .ok ⟨.ofCode result.code, ""⟩ := rfl

/-! ### Lines -/

def TrustLine.ofView (view : LineView) : TrustLine where
  account := view.peer
  balance := view.balance
  currency := view.currency
  limit := view.own.limit
  limitPeer := view.peerSide.limit
  noDivvy := view.own.noDivvy
  noDivvyPeer := view.peerSide.noDivvy

theorem TrustLine.read_lineJson (view : LineView) :
    TrustLine.shape.read (Server.lineJson view) = .ok (ofView view) := by
  simp [TrustLine.shape, Server.lineJson, Shape.read, Shape.readMember, requiredField,
    optionalField, readNumberText_textOf, Json.readText, Json.readBool, ofView, bind, Except.bind,
    pure, Except.pure]

/-! ### Paths -/

/-- The accounts between the ends of a path as a client shows them. -/
def PathStep.ofPath (currency : String) (path : List String) : List PathStep :=
  ((path.drop 1).take (path.length - 2)).map fun account => ⟨some account, some currency⟩

/-- What a client is told of the paths that were found: those through other accounts, in one
alternative, and nothing if there are no paths at all. -/
def PathAlternative.ofPaths (currency : String) (paths : List (List String)) :
    List PathAlternative :=
  if paths.isEmpty then []
  else [⟨(paths.filter fun path => 2 < path.length).map (PathStep.ofPath currency)⟩]

theorem PathStep.readList_pathJson (currency : String) (path : List String) :
    readList PathStep.shape.read (Server.pathJson currency path) = .ok (ofPath currency path) := by
  have hstep : ∀ account : String, PathStep.shape.read
      (.object [("account", .string account), ("currency", .string currency)]) =
        .ok ⟨some account, some currency⟩ := fun _ => rfl
  have hinner : Server.inner path = (path.drop 1).take (path.length - 2) := by
    rw [Server.inner, List.dropLast_eq_take, List.length_tail, List.drop_one]
    rfl
  rw [ofPath, ← hinner]
  exact readList_map hstep _

theorem PathAlternative.readList_alternativesJson (source currency : String) (value : Float)
    (paths : List (List String)) :
    readList PathAlternative.shape.read
        (.array (Server.alternativesJson source currency value paths)) =
      .ok (ofPaths currency paths) := by
  have hpaths := readList_map (PathStep.readList_pathJson currency)
    (paths.filter fun path => 2 < path.length)
  have hread : ∀ amount, PathAlternative.shape.read
      (.object [("paths_computed", .array ((paths.filter fun path => 2 < path.length).map
        (Server.pathJson currency))), ("source_amount", amount)]) =
      .ok ⟨(paths.filter fun path => 2 < path.length).map (PathStep.ofPath currency)⟩ := by
    intro amount
    simp [PathAlternative.shape, Shape.read, Shape.readMember, optionalField, hpaths, bind,
      Except.bind, pure, Except.pure]
  cases hempty : paths.isEmpty with
  | true =>
    simp only [Server.alternativesJson, ofPaths, hempty, if_true]
    rfl
  | false =>
    simp only [Server.alternativesJson, ofPaths, hempty, Bool.false_eq_true, if_false, readList,
      List.mapM_cons, hread]
    rfl

end Reading

/-! ### Operations -/

def LedgerSelector.pick (server : Server) : LedgerSelector → Ledger
  | .current => server.current
  | .closed => server.validated
  | .validated => server.validated

namespace Client

open Server (Refusal)

def badSecret : Refusal := ⟨"badSecret", "Secret does not match account."⟩

def entryNotFound : Refusal := ⟨"entryNotFound", "Entry not found."⟩

def sourceNotFound : Refusal := ⟨"srcActNotFound", "Source account not found."⟩

def unknownPassphrase : Refusal :=
  Server.invalidParams "Only the genesis passphrase is known to this ledger."

/-- What a ledger answers about the paths of an amount. -/
def directPaths (ledger : Ledger) (source destination : String) (currencies : List String) :
    Amount → Except Refusal PathsFound
  | .native _ => .ok ⟨[]⟩
  | .issued value currency _ =>
    if ledger.account? source = none then .error sourceNotFound
    else if currency ∈ currencies then
      .ok ⟨PathAlternative.ofPaths currency (ledger.findPaths source destination currency value)⟩
    else .ok ⟨[]⟩

/-- An operation carried out on the server without a request. -/
def direct (server : Server) : Operation → Except Refusal Answer × Server
  | .walletPropose none =>
    (.ok (.keys server.keys.draw.1),
      { server with keys := server.keys.draw.2 }.withKeys server.keys.draw.1)
  | .walletPropose (some phrase) =>
    if phrase = genesisPassphrase then
      (.ok (.keys ⟨genesisAddress, genesisPassphrase⟩),
        server.withKeys ⟨genesisAddress, genesisPassphrase⟩)
    else (.error unknownPassphrase, server)
  | .submit tx secret =>
    if server.secrets.get? secret = some tx.account then
      (.ok (.submitted ⟨(server.current.apply tx).1, ""⟩),
        { server with current := (server.current.apply tx).2 })
    else (.error badSecret, server)
  | .ledgerAccept =>
    (.ok .done, { server with validated := server.current, index := server.index + 1 })
  | .disconnect => (.ok .done, server.close)
  | .accountFlags account ledger =>
    match (ledger.pick server).account? account with
    | some root => (.ok (.flags root.flags), server)
    | none => (.error Server.accountNotFound, server)
  | .accountLines account peer ledger =>
    match (ledger.pick server).account? account with
    | some _ => (.ok (.lines (((ledger.pick server).linesOf account peer).map .ofView)), server)
    | none => (.error Server.accountNotFound, server)
  | .lineEntry account issuer currency ledger =>
    match (ledger.pick server).line? account issuer currency with
    | some line =>
      let lowBit : UInt32 := if line.low.noDivvy then 0x00100000 else 0
      let highBit : UInt32 := if line.high.noDivvy then 0x00200000 else 0
      (.ok (.entry ⟨⟨lowBit ||| highBit⟩, line.balance⟩), server)
    | none => (.error entryNotFound, server)
  | .findPaths source destination amount currencies =>
    ((directPaths server.current source destination currencies amount).map .paths, server)

/-- The name under which an operation is recorded; the end of a connection is not. -/
def Operation.name? : Operation → Option String
  | .walletPropose _ => some "wallet_propose"
  | .submit _ _ => some "submit"
  | .ledgerAccept => some "ledger_accept"
  | .disconnect => none
  | .accountFlags _ _ => some "account_flags"
  | .accountLines _ _ _ => some "account_lines"
  | .lineEntry _ _ _ _ => some "divvy_balance"
  | .findPaths _ _ _ _ => some "path_find"

def faultOf (refusal : Refusal) : Fault :=
  .remote (.remote refusal.code refusal.message)

/-- How an operation of a client ends that ends so on the server itself. -/
def ended {α : Type} (reporter : Reporter) (name? : Option String)
    (outcome : Except Refusal α × Server) : Except Fault α × Session Server :=
  let failed := match outcome.1 with
    | .ok _ => false
    | .error _ => true
  (outcome.1.mapError faultOf,
    ⟨outcome.2, match name? with
      | some name => reporter.add ⟨name, some 0, failed⟩
      | none => reporter⟩)

end Client
end LedgerBench
