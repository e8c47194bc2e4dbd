import LedgerBench.Client.Transport
import LedgerBench.Client.View
import LedgerBench.Operation.Reporter

/-! The typed client. Each operation is one request; its answer is read into a record and the
operation goes into the reporter, failed when it ended with an error of any kind. -/

namespace LedgerBench

/-- How an operation can end without an answer. It breaks off when it asks for the lines of a result
that is neither an object nor null; then it is not recorded. -/
inductive Fault where
  | remote (error : RemoteError)
  | broken
  deriving Repr, DecidableEq

structure Session (σ : Type) where
  link : σ
  reporter : Reporter

abbrev ClientM (σ : Type) := ExceptT Fault (StateM (Session σ))

namespace Client

variable {σ : Type} [Transport σ]

def recorded {α : Type} (operation : String) (body : ClientM σ α) : ClientM σ α :=
  fun session =>
    let (result, session) := body session
    let add (failed : Bool) : Session σ :=
      { session with reporter := session.reporter.add ⟨operation, some 0, failed⟩ }
    match result with
    | .ok a => (.ok a, add false)
    | .error (.remote e) => (.error (.remote e), add true)
    | .error .broken => (.error .broken, session)

def fail {α : Type} (e : RemoteError) : ClientM σ α :=
  throw (.remote e)

def resultOf (command : String) (envelope : Json) : Except RemoteError Json :=
  match envelope.stringField? "status" with
  | some "success" =>
    match envelope.field? "result" with
    | some result => .ok result
    | none => .error (.decode (command ++ " response has no result"))
  | some "error" => .error (.ofEnvelope envelope)
  | _ => .error (.decode (command ++ " response has no status: " ++ envelope.compact))

def call (command : String) (params : Json) : ClientM σ Json := fun session =>
  let (reply, link) := Transport.request command params session.link
  (match reply with
    | .error e => .error (.remote e)
    | .ok envelope => (resultOf command envelope).mapError .remote,
    { session with link })

def decoded {α : Type} (command : String) (read : Json → Except String α) (j : Json) :
    ClientM σ α :=
  match read j with
  | .ok a => pure a
  | .error text => fail (.decode (command ++ " response: " ++ text))

def walletPropose (passphrase : Option String) : ClientM σ KeyPair :=
  let params := match passphrase with
    | some phrase => Json.object [("passphrase", .string phrase)]
    | none => .object []
  recorded "wallet_propose" do
    decoded "wallet_propose" KeyPair.shape.read (← call "wallet_propose" params)

def submitParams (tx : Transaction) (secret : String) : Json :=
  let signed := [("secret", Json.string secret), ("tx_json", tx.toJson)]
  .object (if tx.buildPath then ("build_path", .bool true) :: signed else signed)

def submit (tx : Transaction) (secret : String) : ClientM σ Submitted :=
  recorded "submit" do
    decoded "submit" Submitted.shape.read (← call "submit" (submitParams tx secret))

/-- Closes the open ledger, so that everything submitted so far is validated. -/
def ledgerAccept : ClientM σ Unit :=
  recorded "ledger_accept" do
    discard (call "ledger_accept" (.object []))

def accountFlags (account : String) (ledger : LedgerSelector) : ClientM σ RootFlags :=
  recorded "account_flags" do
    let info ← call "account_info"
      (.object [("account", .string account), ("ledger_index", .string ledger.name)])
    match (info.path? ["account_data", "Flags"]).bind Json.word? with
    | some bits => pure ⟨bits.toUInt32⟩
    | none => fail (.decode "account_info has no Flags")

/-- The lines in a result: null when it has none. -/
def linesOf : Json → ClientM σ Json
  | .object members => pure (((Json.object members).field? "lines").getD .null)
  | .null => pure .null
  | _ => throw .broken

def accountLines (account : String) (peer : Option String) (ledger : LedgerSelector) :
    ClientM σ (List TrustLine) :=
  let query := [("account", Json.string account), ("ledger_index", .string ledger.name)]
  let params := match peer with
    | some p => query ++ [("peer", Json.string p)]
    | none => query
  recorded "account_lines" do
    let lines ← linesOf (← call "account_lines" (.object params))
    decoded "account_lines" (Json.readList TrustLine.shape.read) lines

def lineEntry (account issuer currency : String) (ledger : LedgerSelector) :
    ClientM σ LineEntry :=
  recorded "divvy_balance" do
    let result ← call "ledger_entry"
      (.object [("divvy_state", .object
          [("accounts", .array [.string account, .string issuer]), ("currency", .string currency)]),
        ("ledger_index", .string ledger.name)])
    let flags := ((result.path? ["node", "Flags"]).bind Json.word?).getD 0
    match result.path? ["node", "Balance"] with
    | none => fail (.decode "line state has no Balance")
    | some balance =>
      match Amount.ofJson balance with
      | .error e => fail (.decode e.message)
      | .ok (.native _) => fail (.decode "line state balance is not an issued amount")
      | .ok (.issued value _ _) => pure ⟨⟨flags.toUInt32⟩, value⟩

/-- Ways in which the source could deliver an amount, spending one of the currencies. -/
def findPaths (source destination : String) (amount : Amount) (currencies : List String) :
    ClientM σ PathsFound :=
  recorded "path_find" do
    let result ← call "divvy_path_find"
      (.object [("destination_account", .string destination),
        ("destination_amount", amount.toJson), ("source_account", .string source),
        ("source_currencies",
          .array (currencies.map fun c => .object [("currency", .string c)]))])
    decoded "divvy_path_find" PathsFound.shape.read result

/-- Closes the connection; this is no operation and is not recorded. -/
def disconnect : ClientM σ Unit := fun session =>
  let (result, link) := Transport.close session.link
  (result.mapError .remote, { session with link })

inductive Operation where
  | walletPropose (passphrase : Option String)
  | submit (tx : Transaction) (secret : String)
  | ledgerAccept
  | disconnect
  | accountFlags (account : String) (ledger : LedgerSelector)
  | accountLines (account : String) (peer : Option String) (ledger : LedgerSelector)
  | lineEntry (account issuer currency : String) (ledger : LedgerSelector)
  | findPaths (source destination : String) (amount : Amount) (currencies : List String)

inductive Answer where
  | done
  | keys (pair : KeyPair)
  | submitted (event : Submitted)
  | flags (flags : RootFlags)
  | lines (lines : List TrustLine)
  | entry (entry : LineEntry)
  | paths (found : PathsFound)

def perform : Operation → ClientM σ Answer
  | .walletPropose passphrase => return .keys (← walletPropose passphrase)
  | .submit tx secret => return .submitted (← submit tx secret)
  | .ledgerAccept => do ledgerAccept; return .done
  | .disconnect => do disconnect; return .done
  | .accountFlags account ledger => return .flags (← accountFlags account ledger)
  | .accountLines account peer ledger => return .lines (← accountLines account peer ledger)
  | .lineEntry account issuer currency ledger =>
    return .entry (← lineEntry account issuer currency ledger)
  | .findPaths source destination amount currencies =>
    return .paths (← findPaths source destination amount currencies)

end Client
end LedgerBench
