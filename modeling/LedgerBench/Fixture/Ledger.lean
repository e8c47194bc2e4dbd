import LedgerBench.Fixture.Basic

/-! What steps do with a ledger server: they create and fund accounts, open trust lines, hand in
transactions and look at the outcome. Accounts go by their names or by their addresses. -/

namespace LedgerBench.Fixture

variable {σ ε : Type} [Transport σ]

/-- Hands in a transaction signed with the secret of its account, without accepting a ledger. -/
def submit (tx : Transaction) : FixtureM σ ε EngineResult := do
  connected
  let secret ← MonadExcept.ofExcept ((← get).value.book.secretFor tx.account)
  return (← call (Client.submit tx secret)).result

def ledgerAccept : FixtureM σ ε Unit :=
  call Client.ledgerAccept

/-- Hands in a transaction and accepts the ledger, whatever came of it. -/
def submitAndAccept (tx : Transaction) : FixtureM σ ε EngineResult := do
  let result ← submit tx
  ledgerAccept
  return result

def submitTransaction (tx : Transaction) : FixtureM σ ε Unit := do
  let result ← submit tx
  if result.isSuccess then ledgerAccept
  else throw (.plain (tx.typeName ++ " failed with " ++ result.code))

/-- Creates one account, pays it and lets lines to it ripple by default if asked for. -/
def createAccount (funder : String) (amount : Amount) (defaultDivvy : Bool) (name : String) :
    FixtureM σ ε Unit := do
  connected
  let keys ← (call (Client.walletPropose none)).inContext s!"Could not create keys for [{name}]"
  modifyBook (·.insert name keys)
  (submitTransaction (.payment funder keys.address amount false)).inContext
    s!"Could not fund [{name}]"
  if defaultDivvy then
    (submitTransaction (.accountSet keys.address 0 (some .defaultDivvy) none)).inContext
      s!"Could not set DefaultDivvy on [{name}]"

/-- Creates and funds accounts one after the other; each is validated before the next is made. -/
def createAccounts (funder amount : String) (names : List String) (defaultDivvy : Bool) :
    FixtureM σ ε Unit := do
  let funder ← address funder
  let amount ← Fixture.amount amount
  names.forM (createAccount funder amount defaultDivvy)

def creditLimit (account limit : String) : FixtureM σ ε Unit := do
  let tx := Transaction.trustSet (← address account) (← amount limit) 0
  (submitTransaction tx).inContext s!"Could not set credit limit {limit} for [{account}]"

def creditLimits (limits : List (String × String)) : FixtureM σ ε Unit :=
  limits.forM fun (account, limit) => creditLimit account limit

def accountFlags (account : String) (ledger : LedgerSelector) : FixtureM σ ε RootFlags := do
  connected
  call (Client.accountFlags (← address account) ledger)

def address? (name : Option String) : FixtureM σ ε (Option String) :=
  match name with
  | none => return none
  | some name => return some (← address name)

def accountLines (account : String) (peer : Option String) (ledger : LedgerSelector) :
    FixtureM σ ε (List TrustLine) := do
  connected
  let account ← address account
  let peer ← address? peer
  call (Client.accountLines account peer ledger)

/-- The entry of the line between two accounts. What the server refuses is an answer too, so that a
step can look for it; every other fault fails the step. -/
def lineEntry (account issuer currency : String) (ledger : LedgerSelector) :
    FixtureM σ ε (Except RemoteError LineEntry) := do
  connected
  let account ← address account
  let issuer ← address issuer
  match ← ask (Client.lineEntry account issuer currency ledger) with
  | .ok entry => return .ok entry
  | .error (.remote (.remote error message)) => return .error (.remote error message)
  | .error fault => throw fault.toFailure

def findPaths (source destination amount : String) (currencies : List String) :
    FixtureM σ ε PathsFound := do
  connected
  let source ← address source
  let destination ← address destination
  let amount ← Fixture.amount amount
  call (Client.findPaths source destination amount currencies)

end LedgerBench.Fixture
