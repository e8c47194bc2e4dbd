import LedgerBench.Client.Error
import LedgerBench.Server.Basic

/-! The requests of the server. Each handler gives a result or refuses; a refusal leaves the server
as it was. `Server.request` wraps the answer into an envelope. -/

namespace LedgerBench.Server

structure Refusal where
  code : String
  message : String

abbrev Answer := Except Refusal Json

def invalidParams (message : String) : Refusal := ⟨"invalidParams", message⟩

def accountNotFound : Refusal := ⟨"actNotFound", "Account not found."⟩

def missingField (name : String) : Refusal := invalidParams s!"Missing field '{name}'."

def textParam (params : Json) (name : String) : Except Refusal String :=
  match params.stringField? name with
  | some s => .ok s
  | none => .error (missingField name)

/-- The ledger that a query asks for: the open one unless it names another. -/
def selected (server : Server) (params : Json) : Except Refusal Ledger :=
  match params.stringField? "ledger_index" with
  | none => .ok server.current
  | some name =>
    if name = "current" then .ok server.current
    else if name = "validated" ∨ name = "closed" then .ok server.validated
    else .error (invalidParams s!"Unknown ledger [{name}].")

/-! ### Changes -/

def withKeys (server : Server) (pair : KeyPair) : Server :=
  { server with secrets := server.secrets.insert pair.secret pair.address }

def walletResult (pair : KeyPair) : Json :=
  .object [("account_id", .string pair.address), ("master_seed", .string pair.secret)]

def learn (server : Server) (pair : KeyPair) : Answer × Server :=
  (.ok (walletResult pair), server.withKeys pair)

def walletPropose (server : Server) (params : Json) : Answer × Server :=
  match params.stringField? "passphrase" with
  | some phrase =>
    if phrase = genesisPassphrase then server.learn ⟨genesisAddress, genesisPassphrase⟩
    else (.error (invalidParams "Only the genesis passphrase is known to this ledger."), server)
  | none =>
    let (pair, keys) := server.keys.draw
    { server with keys }.learn pair

def signedTransaction (server : Server) (params : Json) : Except Refusal Transaction := do
  let secret ← textParam params "secret"
  let some txJson := params.field? "tx_json"
    | .error (missingField "tx_json")
  let buildPath := ((params.field? "build_path").bind Json.bool?).getD false
  match Transaction.ofJson txJson buildPath with
  | .error e => .error (invalidParams (RemoteError.decode e.message).message)
  | .ok tx =>
    if server.secrets.get? secret = some tx.account then .ok tx
    else .error ⟨"badSecret", "Secret does not match account."⟩

def submitResult (tx : Transaction) (result : EngineResult) : Json :=
  .object [("engine_result", .string result.code), ("engine_result_message", .string ""),
    ("tx_json", tx.toJson)]

def submit (server : Server) (params : Json) : Answer × Server :=
  match server.signedTransaction params with
  | .error refusal => (.error refusal, server)
  | .ok tx =>
    let (result, current) := server.current.apply tx
    (.ok (submitResult tx result), { server with current })

def accept (server : Server) : Answer × Server :=
  let index := server.index + 1
  (.ok (.object [("ledger_current_index", .number (.natural index))]),
    { server with validated := server.current, index })

/-! ### Queries -/

def accountInfo (server : Server) (params : Json) : Answer := do
  let address ← textParam params "account"
  let ledger ← server.selected params
  match ledger.account? address with
  | none => .error accountNotFound
  | some account =>
    .ok (.object [("account_data", .object [("Account", .string address),
      ("Balance", .string (toString account.balance.toNat)),
      ("Flags", .number (.natural account.flags.bits.toUInt64)),
      ("Sequence", .number (.natural account.sequence.toUInt64))])])

def lineJson (view : LineView) : Json :=
  let amount (x : Float) : Json := .string (Decimal.textOf Decimal.plain x)
  .object [("account", .string view.peer), ("balance", amount view.balance),
    ("currency", .string view.currency), ("limit", amount view.own.limit),
    ("limit_peer", amount view.peerSide.limit), ("no_divvy", .bool view.own.noDivvy),
    ("no_divvy_peer", .bool view.peerSide.noDivvy)]

def accountLines (server : Server) (params : Json) : Answer := do
  let address ← textParam params "account"
  let ledger ← server.selected params
  if (ledger.account? address).isNone then .error accountNotFound
  else
    let views := ledger.linesOf address (params.stringField? "peer")
    .ok (.object [("account", .string address), ("lines", .array (views.map lineJson))])

def accountPair : Json → Option (String × String)
  | .array [.string a, .string b] => some (a, b)
  | _ => none

/-- The entry of a line as the ledger keeps it, the same whichever account is named first. -/
def lineEntryJson (key : LineKey) (line : Line) : Json :=
  let issued (value : Float) (issuer : String) : Json :=
    (Amount.issued value key.currency issuer).toJson
  .object [("Balance", issued line.balance noAccount),
    ("Flags", .number (.natural
      (LineFlags.ofSides line.low.noDivvy line.high.noDivvy).bits.toUInt64)),
    ("HighLimit", issued line.high.limit key.high), ("LedgerEntryType", .string "DivvyState"),
    ("LowLimit", issued line.low.limit key.low)]

def ledgerEntry (server : Server) (params : Json) : Answer := do
  let some state := params.field? "divvy_state"
    | .error (invalidParams "Only divvy_state entries are supported.")
  let some (a, b) := (state.field? "accounts").bind accountPair
    | .error (invalidParams "divvy_state needs two accounts.")
  let currency ← textParam state "currency"
  let ledger ← server.selected params
  match ledger.line? a b currency with
  | none => .error ⟨"entryNotFound", "Entry not found."⟩
  | some line => .ok (.object [("node", lineEntryJson (.between a b currency) line)])

def inner (path : List String) : List String :=
  path.tail.dropLast

def pathJson (currency : String) (path : List String) : Json :=
  .array ((inner path).map fun account =>
    .object [("account", .string account), ("currency", .string currency)])

/-- Whether the request wants to spend the currency: it names it, or names none at all. -/
def wantsCurrency (params : Json) (currency : String) : Bool :=
  match (params.field? "source_currencies").bind Json.array? with
  | none => true
  | some wanted => wanted.any fun c => c.stringField? "currency" == some currency

/-- One alternative with the indirect paths, if there is any path at all. -/
def alternativesJson (source currency : String) (value : Float) (paths : List (List String)) :
    List Json :=
  if paths.isEmpty then []
  else
    let indirect := paths.filter fun path => 2 < path.length
    [.object [("paths_computed", .array (indirect.map (pathJson currency))),
      ("source_amount", (Amount.issued value currency source).toJson)]]

def pathFind (server : Server) (params : Json) : Answer := do
  let source ← textParam params "source_account"
  let destination ← textParam params "destination_account"
  let some amountJson := params.field? "destination_amount"
    | .error (missingField "destination_amount")
  match Amount.ofJson amountJson with
  | .error e => .error (invalidParams (RemoteError.decode e.message).message)
  | .ok (.native _) => .ok (.object [("alternatives", .array [])])
  | .ok (.issued value currency _) =>
    let ledger ← server.selected params
    if (ledger.account? source).isNone then
      .error ⟨"srcActNotFound", "Source account not found."⟩
    else if !wantsCurrency params currency then .ok (.object [("alternatives", .array [])])
    else
      let paths := ledger.findPaths source destination currency value
      .ok (.object [("alternatives", .array (alternativesJson source currency value paths)),
        ("destination_account", .string destination), ("source_account", .string source)])

/-! ### Dispatch -/

def handle (server : Server) (command : String) (params : Json) : Answer × Server :=
  match command with
  | "wallet_propose" => server.walletPropose params
  | "submit" => server.submit params
  | "ledger_accept" => server.accept
  | "account_info" => (server.accountInfo params, server)
  | "account_lines" => (server.accountLines params, server)
  | "ledger_entry" => (server.ledgerEntry params, server)
  | "divvy_path_find" => (server.pathFind params, server)
  | _ => (.error ⟨"unknownCmd", "Unknown method."⟩, server)

def envelope : Answer → Json
  | .ok result =>
    .object [("result", result), ("status", .string "success"), ("type", .string "response")]
  | .error refusal =>
    .object [("error", .string refusal.code), ("error_message", .string refusal.message),
      ("status", .string "error"), ("type", .string "response")]

/-- Answers a request with an envelope; a closed server answers nothing. -/
def request (server : Server) (command : String) (params : Json) :
    Except RemoteError Json × Server :=
  if server.closed then (.error .closed, server)
  else
    let (answer, after) := server.handle command params
    (.ok (envelope answer), after)

def close (server : Server) : Server :=
  { server with closed := true }

end LedgerBench.Server
