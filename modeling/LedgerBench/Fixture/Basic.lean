import LedgerBench.Client.Basic
import LedgerBench.Fixture.AccountBook
import LedgerBench.Net.Connect
import LedgerBench.Suite.Scene

/-! What scenarios against a ledger server carry from setup to teardown: the connection, the
accounts by name, and the server that was started for the scenario. -/

namespace LedgerBench

/-- The bench on which suites run, with the keys that are left to draw and what scripts have
recorded. -/
structure Bench (ε : Type) where
  machine : Machine
  network : Network
  keys : KeySource
  journal : List ε

structure ServerCommand where
  program : String
  conf : String
  deriving Repr, DecidableEq

structure Fixture (σ : Type) where
  remote : Option σ
  book : AccountBook
  server : Option ServerCommand

instance {σ : Type} : Inhabited (Fixture σ) := ⟨⟨none, .empty, none⟩⟩

abbrev FixtureM (σ ε α : Type) := StepM (Bench ε) (Fixture σ) α

/-- A fault of an operation as the failure of a step. A client that breaks off would take the whole
run down with it. That is left out here: the step fails instead, with a text that nobody reads. -/
def Fault.toFailure : Fault → Failure
  | .remote e => e.toFailure
  | .broken => .plain "the answer holds no lines"

namespace Fixture

variable {σ ε α : Type}

def notConnected : Failure :=
  .plain "Not connected, call 'connect_remote' in the suite setup"

def connected : FixtureM σ ε Unit := do
  if (← get).value.remote.isNone then throw notConnected

def ask (op : ClientM σ α) : FixtureM σ ε (Except Fault α) := fun scene =>
  match scene.value.remote with
  | none => (.error notConnected, scene)
  | some link =>
    let (result, session) := op ⟨link, scene.stage.reporter⟩
    (.ok result,
      { scene with
        stage := { scene.stage with reporter := session.reporter }
        value := { scene.value with remote := some session.link } })

def call (op : ClientM σ α) : FixtureM σ ε α := do
  match ← ask op with
  | .ok a => return a
  | .error fault => throw fault.toFailure

def modifyBook (change : AccountBook → AccountBook) : FixtureM σ ε Unit :=
  modify fun scene => { scene with value := { scene.value with book := change scene.value.book } }

def address (name : String) : FixtureM σ ε String := do
  MonadExcept.ofExcept ((← get).value.book.address name)

def amount (text : String) : FixtureM σ ε Amount := do
  MonadExcept.ofExcept ((← get).value.book.amount text)

def record (event : ε) : FixtureM σ ε Unit :=
  StepM.modifyWorld fun bench => { bench with journal := bench.journal ++ [event] }

end Fixture
end LedgerBench
