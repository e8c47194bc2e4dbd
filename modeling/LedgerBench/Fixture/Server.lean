import LedgerBench.Fixture.Basic
import LedgerBench.Machine.Image

/-! Setup and teardown of a scenario: starting a server of its own if one is asked for, connecting,
and recovering the keys of the root account. -/

namespace LedgerBench.Fixture

variable {σ ε : Type}

/-- Where to find the program of the server: an explicit path, or a look along the search path. -/
def serverProgram (machine : Machine) : Except Failure String :=
  let lookUp := match machine.which "divvyd" with
    | some path => .ok path
    | none => .error ⟨["divvyd binary not found in PATH. Please install divvyd or set " ++
        "'DIVVYD_PATH' to the correct path."], .plain "cannot find binary path"⟩
  match machine.setting? "DIVVYD_PATH" with
  | none => lookUp
  | some path =>
    if path = "" then .error (.plain "'DIVVYD_PATH' set to empty string")
    else if path = "divvyd" then lookUp
    else if machine.hasPath path then .ok path
    else .error (.plain ("Path to divvyd binary overwritten with 'DIVVYD_PATH=" ++ path ++
      "' but that path doesn't exist"))

/-- The server that the variables of the machine ask for; `none` if one is running elsewhere. -/
def serverCommand (machine : Machine) : Except Failure (Option ServerCommand) :=
  match machine.setting? "DIVVYD_CONF" with
  | none | some "" => .ok none
  | some conf =>
    if !machine.hasPath conf then
      .error (.plain ("'DIVVYD_CONF=" ++ conf ++ "' but that file doesn't exist"))
    else
      match serverProgram machine with
      | .error failure => .error failure
      | .ok program =>
        match machine.program program [] with
        | .ok _ => .ok (some ⟨program, conf⟩)
        | .error e =>
          .error ⟨["Failed to run divvyd server '" ++ program ++ "'"], .plain e.message⟩

def startServer : FixtureM Link ε Bool := do
  let scene ← get
  match serverCommand scene.stage.world.machine with
  | .error failure => throw failure
  | .ok none => return false
  | .ok (some command) =>
    set { scene with value := { scene.value with server := some command } }
    return true

/-- Connects to the address of the suite. A started server may take a while until it answers, so a
failed attempt is repeated then; whether an address can be reached does not change between attempts.
-/
def openLink : FixtureM Link ε Unit := do
  let scene ← get
  let bench := scene.stage.world
  match connect bench.network bench.keys scene.stage.connection with
  | .error failure =>
    throw (failure.inContext "Unable to connect to divvyd, is a server running?")
  | .ok link => set { scene with value := { scene.value with remote := some link } }

def dropLink : FixtureM σ ε Unit :=
  modify fun scene => { scene with value := { scene.value with remote := none } }

/-- The keys of the root account, recovered from its secret. A connection over which that fails is
given up. -/
def recoverRoot [Transport σ] : FixtureM σ ε KeyPair := do
  let secret := ((← get).stage.world.machine.setting? "DIVVYD_ROOT_SECRET").getD genesisPassphrase
  match ← ask (Client.walletPropose (some secret)) with
  | .ok keys => return keys
  | .error fault =>
    dropLink
    throw (fault.toFailure.inContext "Unable to recover the root account keys")

def connectRemote : FixtureM Link ε Unit := do
  discard startServer
  openLink
  let root ← recoverRoot
  modifyBook (·.insert rootAccount root)

/-- The teardown hook: closes the connection and stops the server of the scenario. Keys that were
not drawn go back to the bench. -/
def disconnectRemote : FixtureM Link ε Unit :=
  modify fun scene =>
    let bench := scene.stage.world
    let keys := (scene.value.remote.bind Link.keys?).getD bench.keys
    { scene with
      stage := { scene.stage with world := { bench with keys } }
      value := { scene.value with remote := none, server := none } }

end LedgerBench.Fixture
