import LedgerBench.Fixture.Ledger
import LedgerBench.Fixture.Server
import LedgerBench.Suite.Basic

/-! Account flags that are set and cleared with transactions. -/

namespace LedgerBench.Suites

open Fixture

variable {ε : Type}

def ensure (condition : Bool) (text : String) : FixtureM Link ε Unit :=
  if condition then pure () else throw (.plain text)

def rootAccountSet : FixtureM Link ε Transaction := do
  return .accountSet (← address rootAccount) 0 none none

def nullAccountSet : Chain (Bench ε) (Fixture Link) Unit where
  mode := .series
  steps :=
    [⟨"Send null AccountSet", fun _ => do
        let result ← submitAndAccept (← rootAccountSet)
        ensure result.isSuccess ("engine result " ++ result.code)⟩,
      ⟨"Check account flags", fun _ => do
        let flags ← accountFlags rootAccount .validated
        ensure (flags.bits == 0)
          ("flags are 0x" ++ String.ofList (Nat.toDigits 16 flags.bits.toNat))⟩]

def expectSuccess : Option EngineResult → FixtureM Link ε Unit
  | some result => ensure result.isSuccess ("submit returned " ++ result.code)
  | none => throw (.plain "nothing was submitted")

/-- Sets a flag, checks it, clears it and checks that it is gone. The steps hand on the result of
the transaction to the check after it. -/
def flagRoundTrip (name : String) (setFlag clearFlag : AccountSetFlag) (flag : RootFlags) :
    Chain (Bench ε) (Fixture Link) (Option EngineResult) where
  mode := .waterfall
  steps :=
    [⟨"Set " ++ name ++ ".", fun _ => do
        return some (← submitAndAccept ((← rootAccountSet).withAccountSetFlag setFlag))⟩,
      ⟨"Check " ++ name, fun submitted => do
        expectSuccess submitted
        let flags ← accountFlags rootAccount .validated
        ensure (flags.contains flag) ("flag missing, flags are " ++ flags.description)
        return none⟩,
      ⟨"Clear " ++ name ++ ".", fun _ => do
        return some (← submitAndAccept ((← rootAccountSet).withAccountSetFlag clearFlag))⟩,
      ⟨"Check No " ++ name, fun submitted => do
        expectSuccess submitted
        let flags ← accountFlags rootAccount .validated
        ensure (!flags.contains flag) ("flag still set, flags are " ++ flags.description)
        return none⟩]

/-- An account that owns a trust line cannot ask for authorisation of its lines any more. -/
def requireAuthWithOwnedLines : Chain (Bench ε) (Fixture Link) Unit where
  mode := .series
  steps :=
    [⟨"Create accounts", fun _ => createAccounts rootAccount "10000.0" ["alice"] true⟩,
      ⟨"Set credit limits", fun _ => creditLimits [(rootAccount, "100/USD/alice")]⟩,
      ⟨"Set RequireAuth.", fun _ => do
        let result ← submitAndAccept ((← rootAccountSet).withAccountSetFlag .requireAuth)
        ensure (result == .owners) ("expected tecOWNERS, got " ++ result.code)⟩,
      ⟨"Check No RequireAuth", fun _ => do
        let flags ← accountFlags rootAccount .validated
        ensure (!flags.contains .requireAuth)
          "Condition failed: `!flags.contains(AccountRootFlags::REQUIRE_AUTH)`"⟩]

def accountSet : Suite (Bench ε) (Fixture Link) where
  name := "account_set"
  setup := some connectRemote
  teardown := some disconnectRemote
  scenarios :=
    [{ name := "null AccountSet", carried := Unit, chain := nullAccountSet },
      { name := "set RequireDestTag", carried := Option EngineResult
        chain := flagRoundTrip "RequireDestTag" .requireDestTag .optionalDestTag .requireDestTag },
      { name := "set RequireAuth", carried := Option EngineResult
        chain := flagRoundTrip "RequireAuth" .requireAuth .optionalAuth .requireAuth },
      { name := "set DisallowXDV", carried := Option EngineResult
        chain := flagRoundTrip "DisallowXDV" .disallowXdv .allowXdv .disallowXdv },
      { name := "RequireAuth with trust lines", carried := Unit
        chain := requireAuthWithOwnedLines }]

end LedgerBench.Suites
