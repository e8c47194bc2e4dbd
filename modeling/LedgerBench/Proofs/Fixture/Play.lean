import LedgerBench.Fixture.Server
import LedgerBench.Proofs.Fixture.Accounts
import LedgerBench.Proofs.SuiteRun

/-! Scenarios that are played against a ledger in memory. Setup leads to the situation of a fresh
ledger, the steps lead on from there, and teardown gives the keys that are left back to the bench. -/

namespace LedgerBench.Fixture

open StepM (bind_ok bind_error)

variable {ε τ : Type}

/-! ### Steps -/

/-- Wherever the one situation is met, all the steps succeed and leave the other. -/
def StepsLead [Inhabited τ] (base : Scene (Bench ε) (Fixture Link)) (mode : ChainMode)
    (steps : List (Step (Bench ε) (Fixture Link) τ)) (carried : τ) (s s' : Situation) : Prop :=
  ∀ index scene, At base s scene → ∃ given scene',
    Chain.runFrom mode index steps carried scene = (.ok given, scene') ∧ At base s' scene'

section Steps

variable {base : Scene (Bench ε) (Fixture Link)} {sent : Nat} {s s' s'' : Situation}

theorem At.quiet {scene : Scene (Bench ε) (Fixture Link)} (h : At base s scene)
    (hquiet : base.Quiet sent) : scene.Quiet sent := by
  obtain ⟨reporter, server, rfl, -⟩ := h
  exact ⟨⟨hquiet.stage.sent, hquiet.stage.handles⟩, hquiet.listener⟩

theorem StepsLead.nil [Inhabited τ] (mode : ChainMode) (carried : τ) :
    StepsLead base mode [] carried s s :=
  fun _ scene hat => ⟨carried, scene, rfl, hat⟩

theorem StepsLead.cons [Inhabited τ] (hquiet : base.Quiet sent) {mode : ChainMode}
    {step : Step (Bench ε) (Fixture Link) τ} {rest : List (Step (Bench ε) (Fixture Link) τ)}
    {carried given : τ} (h : Leads base (step.run (mode.input carried)) s given s')
    (hrest : StepsLead base mode rest given s' s'') :
    StepsLead base mode (step :: rest) carried s s'' := by
  intro index scene hat
  obtain ⟨middle, hran, hmiddle⟩ := h scene hat
  obtain ⟨last, scene', hrun, hlast⟩ := hrest (index + 1) middle hmiddle
  exact ⟨last, scene', (Chain.runFrom_of_ok (hat.quiet hquiet) hran index rest).trans hrun, hlast⟩

end Steps

/-- From a fresh ledger all steps of the scenario succeed, if the keys that it draws are distinct. -/
def Passes (scenario : Scenario (Bench ε) (Fixture Link)) (n : Nat) : Prop :=
  ∀ (base : Scene (Bench ε) (Fixture Link)) (sent : Nat) (keys : KeySource), base.Quiet sent →
    keys.Distinct n → ∃ s', StepsLead base scenario.chain.mode scenario.chain.steps default
      (Situation.start keys) s' ∧ s'.keys = keys.rest n

/-! ### Hooks -/

/-- A stage whose scenarios run against a fresh ledger in memory each. -/
structure InMemory (stage : Stage (Bench ε)) : Prop where
  connection : stage.connection = "memory://"
  conf : stage.world.machine.setting? "DIVVYD_CONF" = none
  rootSecret : (stage.world.machine.setting? "DIVVYD_ROOT_SECRET").getD genesisPassphrase =
    genesisPassphrase

theorem connect_memory (network : Network) (keys : KeySource) :
    connect network keys "memory://" = .ok (.memory (.start keys)) := by
  rfl

theorem discard_ok {α : Type} {work : FixtureM Link ε α} {scene scene' : Scene (Bench ε) (Fixture Link)}
    {a : α} (h : work scene = (.ok a, scene')) :
    (discard work : FixtureM Link ε PUnit) scene = (.ok (), scene') := by
  simp only [discard, Functor.discard, Functor.mapConst, Function.comp, ExceptT.map,
    ExceptT.mk, bind, StateT.bind, h]
  rfl

theorem startServer_ok (scene : Scene (Bench ε) (Fixture Link))
    (h : serverCommand scene.stage.world.machine = .ok none) :
    startServer scene = (.ok false, scene) := by
  rw [startServer, bind_ok (get_ok scene), h]
  rfl

theorem openLink_ok {scene : Scene (Bench ε) (Fixture Link)} {link : Link}
    (h : connect scene.stage.world.network scene.stage.world.keys scene.stage.connection =
      .ok link) :
    openLink scene = (.ok (), { scene with value := { scene.value with remote := some link } }) := by
  rw [openLink, bind_ok (get_ok scene), h]
  rfl

theorem recoverRoot_ok (base : Scene (Bench ε) (Fixture Link)) {reporter reporter' : Reporter}
    {server later : Server} {keys : KeyPair}
    (hsecret : (base.stage.world.machine.setting? "DIVVYD_ROOT_SECRET").getD genesisPassphrase =
      genesisPassphrase)
    (h : Client.walletPropose (some genesisPassphrase) ⟨Link.memory server, reporter⟩ =
      (.ok keys, ⟨.memory later, reporter'⟩)) (book : AccountBook) :
    recoverRoot (onServer base reporter server book) =
      (.ok keys, onServer base reporter' later book) := by
  have hask : ask (Client.walletPropose (some genesisPassphrase))
      (onServer base reporter server book) = (.ok (.ok keys), onServer base reporter' later book) := by
    simp only [ask, onServer, h]
  rw [recoverRoot, bind_ok (get_ok _)]
  show ((ask (Client.walletPropose (some ((base.stage.world.machine.setting?
    "DIVVYD_ROOT_SECRET").getD genesisPassphrase))) : FixtureM Link ε _) >>= _) _ = _
  rw [hsecret]
  exact bind_ok hask _

theorem serves_start (keys : KeySource) :
    Serves ((Server.start keys).withKeys rootKeys) (.start keys) := by
  refine ⟨rfl, rfl, rfl, rfl, fun pair hpair => ?_⟩
  rcases mem_values_insert hpair with rfl | hold
  · exact Register.get?_insert_self ..
  · cases hold

theorem connectRemote_at {stage : Stage (Bench ε)} (h : InMemory stage) (name : String) :
    ∃ scene, connectRemote (stage.open name) = (.ok (), scene) ∧
      At (stage.open name) (.start stage.world.keys) scene := by
  have hcommand : serverCommand stage.world.machine = .ok none := by
    simp only [serverCommand, h.conf]
  have hstart := discard_ok (startServer_ok (stage.open name) hcommand)
  have hconnect : connect stage.world.network stage.world.keys stage.connection =
      .ok (.memory (.start stage.world.keys)) := by
    rw [h.connection, connect_memory]
  have hlink : openLink (stage.open name) = _ := openLink_ok hconnect
  obtain ⟨reporter, hrecover⟩ := Client.recoverGenesis_memory
    (show (Server.start stage.world.keys).closed = false from rfl) stage.reporter
  have hroot := recoverRoot_ok (stage.open name) h.rootSecret hrecover .empty
  refine ⟨_, ?_, reporter, _, rfl, serves_start stage.world.keys⟩
  rw [connectRemote, bind_ok hstart, bind_ok hlink]
  exact bind_ok hroot _

/-- Teardown leaves the stage as it was, but for the operations recorded and the keys drawn. -/
theorem disconnectRemote_at {base scene : Scene (Bench ε) (Fixture Link)} {s : Situation}
    (h : At base s scene) : ∃ reporter, (disconnectRemote scene).2.stage =
      { base.stage with reporter, world := { base.stage.world with keys := s.keys } } := by
  obtain ⟨reporter, server, rfl, hserves⟩ := h
  refine ⟨reporter, ?_⟩
  rw [← hserves.keys]
  rfl

/-! ### Suites -/

section Suites

variable {suite : Suite (Bench ε) (Fixture Link)} {sent : Nat}

theorem runScenario_passes (hsetup : suite.setup = some connectRemote)
    (hteardown : suite.teardown = some disconnectRemote)
    {scenario : Scenario (Bench ε) (Fixture Link)} {n : Nat} (hpasses : Passes scenario n)
    {stage : Stage (Bench ε)} (hmemory : InMemory stage) (hquiet : stage.Quiet sent)
    (hkeys : stage.world.keys.Distinct n) :
    ∃ reporter, suite.runScenario scenario stage = (none,
      { stage with
        reporter
        world := { stage.world with keys := stage.world.keys.rest n } }) := by
  have hopen : Scene.Quiet (stage.open scenario.name : Scene (Bench ε) (Fixture Link)) sent :=
    hquiet.open scenario.name
  obtain ⟨ready, hconnect, hready⟩ := connectRemote_at hmemory scenario.name
  obtain ⟨s', hsteps, hdrawn⟩ := hpasses _ sent _ hopen hkeys
  obtain ⟨given, done, hran, hdone⟩ := hsteps 0 ready hready
  obtain ⟨reporter, hlast⟩ := disconnectRemote_at hdone
  have hrun : scenario.run ready = (none, done) := by
    simp only [Scenario.run, Chain.run]
    rw [hran]
  rw [hdrawn] at hlast
  refine ⟨reporter, ?_⟩
  simp only [Suite.runScenario, Suite.runMain, Suite.runHook, hsetup, hteardown, hconnect, hrun,
    hlast]
  rfl

def keysOf (draws : String → Nat) (scenarios : List (Scenario (Bench ε) (Fixture Link))) : Nat :=
  (scenarios.map fun scenario => draws scenario.name).sum

theorem runEach_passes (hsetup : suite.setup = some connectRemote)
    (hteardown : suite.teardown = some disconnectRemote) {draws : String → Nat}
    {scenarios : List (Scenario (Bench ε) (Fixture Link))}
    (hpasses : ∀ scenario ∈ scenarios, Passes scenario (draws scenario.name))
    {stage : Stage (Bench ε)} (hmemory : InMemory stage) (hquiet : stage.Quiet sent)
    (hkeys : stage.world.keys.Distinct (keysOf draws scenarios)) :
    ∃ last, suite.runEach scenarios ⟨⟨sent⟩, false⟩ none stage =
        (scenarios.map fun scenario => ⟨scenario.name, .passed, 0⟩, last) ∧
      last.world =
        { stage.world with keys := stage.world.keys.rest (keysOf draws scenarios) } := by
  -- what carries over is that the stage is quiet and in memory; the keys are used up in order
  induction scenarios generalizing stage with
  | nil => exact ⟨stage, rfl, rfl⟩
  | cons scenario rest ih =>
    obtain ⟨hscenario, hrest⟩ := List.forall_mem_cons.1 hpasses
    obtain ⟨hfirst, hothers⟩ := KeySource.Distinct.split hkeys
    obtain ⟨reporter, hran⟩ := runScenario_passes hsetup hteardown hscenario hmemory hquiet hfirst
    let middle : Stage (Bench ε) := { stage with
      reporter
      world := { stage.world with keys := stage.world.keys.rest (draws scenario.name) } }
    have hmiddle : InMemory middle := ⟨hmemory.connection, hmemory.conf, hmemory.rootSecret⟩
    have hquiet' : middle.Quiet sent := ⟨hquiet.sent, hquiet.handles⟩
    obtain ⟨last, hlater, hlast⟩ := ih hrest hmiddle hquiet' hothers
    refine ⟨last, Suite.runEach_cons hquiet hran hlater, hlast.trans ?_⟩
    rw [← KeySource.rest_add]
    rfl

end Suites

end LedgerBench.Fixture
