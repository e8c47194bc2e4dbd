import LedgerBench.Suites.AccountSet

/-! The NoDivvy flag of trust lines, and the DefaultDivvy setting that decides it for new lines. -/

namespace LedgerBench.Suites

open Fixture

variable {ε : Type}

def firstLine (account : String) (peer : Option String) (ledger : LedgerSelector) :
    FixtureM Link ε TrustLine := do
  match ← accountLines account peer ledger with
  | line :: _ => return line
  | [] => throw (.plain (account ++ " has no trust lines"))

def trustSet (account limit : String) (flag : Option TrustSetFlag) :
    FixtureM Link ε Transaction := do
  let tx := Transaction.trustSet (← address account) (← amount limit) 0
  return match flag with
    | some flag => tx.withTrustSetFlag flag
    | none => tx

/-- Hands in a TrustSet, which has to succeed. -/
def submitTrustSet (account limit : String) (flag : Option TrustSetFlag) :
    FixtureM Link ε Unit := do
  submitTransaction (← trustSet account limit flag)

def paymentByPath (account destination text : String) : FixtureM Link ε Transaction := do
  return .payment (← address account) (← address destination) (← amount text) true

def createAliceBobCarol : FixtureM Link ε Unit :=
  createAccounts rootAccount "10000.0" ["alice", "bob", "carol"] true

def bobAndCarolLimits : FixtureM Link ε Unit :=
  creditLimits [("bob", "100/USD/alice"), ("carol", "100/USD/bob")]

def setAndClear : Chain (Bench ε) (Fixture Link) Unit where
  mode := .series
  steps :=
    [⟨"Create accounts.", fun _ => createAccounts rootAccount "10000.0" ["alice"] true⟩,
      ⟨"Check a non-existent credit limit", fun _ => do
        match ← lineEntry "alice" rootAccount "USD" .current with
        | .ok entry =>
          throw (.plain ("expected no line, found one with the balance " ++
            Decimal.textOf Decimal.plain entry.balance))
        | .error e =>
          ensure (e.subcategory? == some "entryNotFound") ("unexpected error " ++ e.message)⟩,
      ⟨"Create a credit limit with NoDivvy flag", fun _ =>
        submitTrustSet rootAccount "100/USD/alice" (some .setNoDivvy)⟩,
      ⟨"Check no-divvy sender", fun _ => do
        let line ← firstLine rootAccount none .validated
        ensure line.noDivvy "Condition failed: `line.no_divvy`"⟩,
      ⟨"Check no-divvy destination", fun _ => do
        let line ← firstLine "alice" none .validated
        ensure line.noDivvyPeer "Condition failed: `line.no_divvy_peer`"⟩,
      ⟨"Create a credit limit with ClearNoDivvy flag", fun _ =>
        submitTrustSet rootAccount "100/USD/alice" (some .clearNoDivvy)⟩,
      ⟨"Check no-divvy cleared sender", fun _ => do
        let line ← firstLine rootAccount none .validated
        ensure (!line.noDivvy) "Condition failed: `!line.no_divvy`"⟩,
      ⟨"Check no-divvy cleared destination", fun _ => do
        let line ← firstLine "alice" none .validated
        ensure (!line.noDivvyPeer) "Condition failed: `!line.no_divvy_peer`"⟩]

/-- An account that owes on a line cannot set NoDivvy on it. The request succeeds all the same; the
flag is just not applied, so value can still ripple. -/
def negativeBalance : Chain (Bench ε) (Fixture Link) Unit where
  mode := .series
  steps :=
    [⟨"Create accounts", fun _ => createAliceBobCarol⟩,
      ⟨"Set credit limits", fun _ => bobAndCarolLimits⟩,
      ⟨"Payment", fun _ => do
        submitTransaction (← paymentByPath "alice" "carol" "50/USD/carol")⟩,
      ⟨"Set NoDivvy alice", fun _ => submitTrustSet "alice" "100/USD/bob" (some .setNoDivvy)⟩,
      ⟨"Set NoDivvy carol", fun _ => submitTrustSet "bob" "100/USD/carol" (some .setNoDivvy)⟩,
      ⟨"Find path alice > carol", fun _ => do
        let found ← findPaths "alice" "carol" "1/USD/carol" ["USD"]
        ensure (found.alternatives.length == 1)
          s!"expected one alternative, found {found.alternatives.length}"⟩,
      ⟨"Check alice line", fun _ => do
        match ← accountLines "alice" none .current with
        | [line] => ensure (!line.noDivvy) "NoDivvy was set on a line in debt"
        | lines => throw (.plain s!"alice has {lines.length} lines")⟩]

/-- With NoDivvy on both of bob's lines nothing can ripple through bob. -/
def pairwise : Chain (Bench ε) (Fixture Link) Unit where
  mode := .series
  steps :=
    [⟨"Create accounts", fun _ => createAliceBobCarol⟩,
      ⟨"Set credit limits", fun _ => bobAndCarolLimits⟩,
      ⟨"Set NoDivvy alice", fun _ => submitTrustSet "bob" "100/USD/alice" (some .setNoDivvy)⟩,
      ⟨"Set NoDivvy carol", fun _ => submitTrustSet "bob" "100/USD/carol" (some .setNoDivvy)⟩,
      ⟨"Find path alice > carol", fun _ => do
        let found ← findPaths "alice" "carol" "1/USD/carol" ["USD"]
        ensure found.alternatives.isEmpty
          s!"expected no alternatives, found {found.alternatives.length}"⟩,
      ⟨"Payment", fun _ => do
        let result ← submitAndAccept (← paymentByPath "alice" "carol" "1/USD/carol")
        ensure (result == .pathDry) ("expected tecPATH_DRY, got " ++ result.code)⟩]

/-- A new line to an account without DefaultDivvy has NoDivvy set on that account's side. -/
def defaultDivvyNewLine : Chain (Bench ε) (Fixture Link) Unit where
  mode := .series
  steps :=
    [⟨"Create accounts", fun _ => createAccounts rootAccount "10000.0" ["alice", "bob"] false⟩,
      ⟨"Set DefaultDivvy on bob", fun _ => do
        submitTransaction (.accountSet (← address "bob") 0 (some .defaultDivvy) none)⟩,
      ⟨"Trust alice", fun _ => submitTrustSet rootAccount "100/USD/alice" none⟩,
      ⟨"Trust bob", fun _ => submitTrustSet rootAccount "100/USD/bob" none⟩,
      ⟨"Check root line to alice", fun _ => do
        let line ← firstLine rootAccount (some "alice") .current
        ensure line.noDivvyPeer "Trustline should have no_divvy_peer set"⟩,
      ⟨"Check alice line to root", fun _ => do
        let line ← firstLine "alice" (some rootAccount) .current
        ensure line.noDivvy "Trustline should have no_divvy set"⟩,
      ⟨"Check root line to bob", fun _ => do
        let line ← firstLine rootAccount (some "bob") .current
        ensure (!line.noDivvy) "Trustline should not have no_divvy set"⟩,
      ⟨"Check bob line to root", fun _ => do
        let line ← firstLine "bob" (some rootAccount) .current
        ensure (!line.noDivvyPeer) "Trustline should not have no_divvy_peer set"⟩]

def noDivvy : Suite (Bench ε) (Fixture Link) where
  name := "NoDivvy"
  setup := some connectRemote
  teardown := some disconnectRemote
  scenarios :=
    [{ name := "set and clear NoDivvy", carried := Unit, chain := setAndClear },
      { name := "set NoDivvy on line with negative balance", carried := Unit
        chain := negativeBalance },
      { name := "pairwise NoDivvy", carried := Unit, chain := pairwise }]

def defaultDivvy : Suite (Bench ε) (Fixture Link) where
  name := "Default divvy"
  setup := some connectRemote
  teardown := some disconnectRemote
  scenarios :=
    [{ name := "Set default divvy on account, check new trustline", carried := Unit
       chain := defaultDivvyNewLine }]

end LedgerBench.Suites
