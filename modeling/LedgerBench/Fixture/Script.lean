import LedgerBench.Fixture.Ledger
import LedgerBench.Fixture.Server
import LedgerBench.Suite.Basic

/-! Scenarios against a ledger server that are written down as data: each step makes a list of
calls, and the answer of every call goes into the journal. -/

namespace LedgerBench.Fixture

inductive DraftKind where
  | accountSet
  | trustSet (limit : String)
  | payment (destination amount : String)
  deriving Repr, DecidableEq

/-- A transaction whose accounts go by name. Flags and settings are put on at the end. -/
structure Draft where
  account : String
  kind : DraftKind
  finish : Transaction → Transaction

inductive Call where
  | createAccounts (funder amount : String) (names : List String) (defaultDivvy : Bool)
  | creditLimits (limits : List (String × String))
  | submit (draft : Draft)
  | submitAndAccept (draft : Draft)
  | submitTransaction (draft : Draft)
  | ledgerAccept
  | address (name : String)
  | amount (text : String)
  | accountFlags (account : String) (ledger : LedgerSelector)
  | accountLines (account : String) (peer : Option String) (ledger : LedgerSelector)
  | lineEntry (account issuer currency : String) (ledger : LedgerSelector)
  | findPaths (source destination amount : String) (currencies : List String)
  | names
  | insert (name : String) (keys : KeyPair)
  | disconnect
  | startServer

inductive Answer where
  | done
  | result (result : EngineResult)
  | text (text : String)
  | amount (amount : Amount)
  | flags (flags : RootFlags)
  | lines (lines : List TrustLine)
  | entry (entry : Except RemoteError LineEntry)
  | paths (found : PathsFound)
  | names (names : List String)
  | started (isOwn : Bool)

abbrev Event := Except Failure Answer

variable {σ ε : Type} [Transport σ]

/-- Puts addresses for names: the account first, then the other party, then the amount. -/
def Draft.resolve (draft : Draft) : FixtureM σ ε Transaction := do
  let account ← address draft.account
  match draft.kind with
  | .accountSet => return draft.finish (.accountSet account 0 none none)
  | .trustSet limit => return draft.finish (.trustSet account (← Fixture.amount limit) 0)
  | .payment destination text =>
    let destination ← address destination
    return draft.finish (.payment account destination (← Fixture.amount text) false)

def makeCall : Call → FixtureM Link ε Answer
  | .createAccounts funder amount names defaultDivvy => do
    createAccounts funder amount names defaultDivvy
    return .done
  | .creditLimits limits => do
    creditLimits limits
    return .done
  | .submit draft => do return .result (← submit (← draft.resolve))
  | .submitAndAccept draft => do return .result (← submitAndAccept (← draft.resolve))
  | .submitTransaction draft => do
    submitTransaction (← draft.resolve)
    return .done
  | .ledgerAccept => do
    ledgerAccept
    return .done
  | .address name => do return .text (← address name)
  | .amount text => do return .amount (← Fixture.amount text)
  | .accountFlags account ledger => do return .flags (← accountFlags account ledger)
  | .accountLines account peer ledger => do return .lines (← accountLines account peer ledger)
  | .lineEntry account issuer currency ledger => do
    return .entry (← lineEntry account issuer currency ledger)
  | .findPaths source destination amount currencies => do
    return .paths (← findPaths source destination amount currencies)
  | .names => do return .names (← get).value.book.names
  | .insert name keys => do
    modifyBook (·.insert name keys)
    return .done
  | .disconnect => do
    call Client.disconnect
    return .done
  | .startServer => do return .started (← startServer)

/-- Makes calls one after the other and records their answers. A failed call ends the step, unless
failures are caught. -/
def makeCalls (caught : Bool) : List Call → FixtureM Link Event Unit
  | [] => return ()
  | call :: rest => do
    let (answer, scene) := makeCall call (← get)
    set scene
    record answer
    match answer with
    | .ok _ => makeCalls caught rest
    | .error failure => if caught then makeCalls caught rest else throw failure

structure ScriptStep where
  label : String
  calls : List Call
  caught : Bool

structure Script where
  name : String
  steps : List ScriptStep

def Script.toScenario (script : Script) : Scenario (Bench Event) (Fixture Link) where
  name := script.name
  carried := Unit
  chain := ⟨.series, script.steps.map fun step =>
    ⟨step.label, fun _ => makeCalls step.caught step.calls⟩⟩

/-- The suite of some scripts, connected before each of them unless that is left out. -/
def suite (name : String) (connects : Bool) (scripts : List Script) :
    Suite (Bench Event) (Fixture Link) where
  name := name
  setup := if connects then some connectRemote else none
  teardown := some disconnectRemote
  scenarios := scripts.map Script.toScenario

end LedgerBench.Fixture
