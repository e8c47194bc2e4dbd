import LedgerBench.Proofs.Fixture.Helper
import LedgerBench.Proofs.Fixture.Play
import LedgerBench.Proofs.Suite.Asked
import LedgerBench.Suites.NoDivvy

/-! A lost connection ends the suite, and nothing else that can come of a request does. -/

namespace LedgerBench

open Shutdown (Listener)

variable {ω ν : Type}

namespace Suite

/-- Where a run is when it is about to play a scenario, with the reports of those before. -/
structure Position (ω ν : Type) where
  reports : List ScenarioReport
  scenario : Scenario ω ν
  later : List (Scenario ω ν)
  listener : Listener
  stage : Stage ω

variable [Inhabited ν] {suite : Suite ω ν}

/-- Scenarios are played one after the other until it is the turn of one of them: no stop signal has
been found, and no failure before has been a reason to skip the rest. -/
inductive Comes (suite : Suite ω ν) :
    List (Scenario ω ν) → Listener → Stage ω → Position ω ν → Prop
  | here {scenario : Scenario ω ν} {later : List (Scenario ω ν)} {listener listener' : Listener}
      {stage : Stage ω} (looked : listener.shouldShutdown stage.channel = (false, listener')) :
      Comes suite (scenario :: later) listener stage ⟨[], scenario, later, listener', stage⟩
  | next {scenario : Scenario ω ν} {rest : List (Scenario ω ν)} {listener listener' : Listener}
      {stage middle : Stage ω} {failed : Option StepFailure} {position : Position ω ν}
      (looked : listener.shouldShutdown stage.channel = (false, listener'))
      (ran : suite.runScenario scenario stage = (failed, middle)) (goesOn : abortOf failed = none)
      (others : Comes suite rest listener' middle position) :
      Comes suite (scenario :: rest) listener stage
        { position with reports := ⟨scenario.name, outcomeOf failed, 0⟩ :: position.reports }

section Comes

variable {scenarios : List (Scenario ω ν)} {listener : Listener} {stage middle : Stage ω}
  {position : Position ω ν} {failed : Option StepFailure}

theorem Comes.runEach (h : suite.Comes scenarios listener stage position)
    (hran : suite.runScenario position.scenario position.stage = (failed, middle)) :
    suite.runEach scenarios listener none stage =
      (position.reports ++ ⟨position.scenario.name, outcomeOf failed, 0⟩ ::
          (suite.runEach position.later position.listener (abortOf failed) middle).1,
        (suite.runEach position.later position.listener (abortOf failed) middle).2) := by
  induction h with
  | here looked => simp only [Suite.runEach, looked, hran, List.nil_append]
  | next looked ran goesOn others ih =>
    simp only [Suite.runEach, looked, ran, goesOn, ih hran, List.cons_append]

theorem Comes.further (h : suite.Comes scenarios listener stage position)
    (hran : suite.runScenario position.scenario position.stage = (failed, middle))
    (hgoesOn : abortOf failed = none) {next : Scenario ω ν} {rest : List (Scenario ω ν)}
    (hlater : position.later = next :: rest) {listener' : Listener}
    (hlook : position.listener.shouldShutdown middle.channel = (false, listener')) :
    suite.Comes scenarios listener stage
      ⟨position.reports ++ [⟨position.scenario.name, outcomeOf failed, 0⟩], next, rest, listener',
        middle⟩ := by
  induction h with
  | here looked =>
    obtain rfl := hlater
    exact .next looked hran hgoesOn (.here hlook)
  | next looked ran goesOn others ih => exact .next looked ran goesOn (ih hran hlater hlook)

end Comes

structure Reaches (suite : Suite ω ν) (options : SuiteOptions) (world : ω)
    (position : Position ω ν) : Prop where
  names : (suite.scenarios.map Scenario.name).Nodup
  comes : suite.Comes (suite.selected options.filter)
    (openStage options world : Stage ω).channel.listen (openStage options world) position

theorem Reaches.run {options : SuiteOptions} {world : ω} {position : Position ω ν}
    {failed : Option StepFailure} {middle : Stage ω} (h : suite.Reaches options world position)
    (hran : suite.runScenario position.scenario position.stage = (failed, middle)) :
    suite.run options world =
      (.ok ⟨suite.name, position.reports ++ ⟨position.scenario.name, outcomeOf failed, 0⟩ ::
          (suite.runEach position.later position.listener (abortOf failed) middle).1⟩,
        (suite.runEach position.later position.listener (abortOf failed) middle).2) := by
  have hfound : firstRepeated [] (suite.scenarios.map Scenario.name) = none :=
    (firstRepeated_eq_none_iff List.nodup_nil).mpr h.names
  simp only [Suite.run, hfound, h.comes.runEach hran]

/-- Setup or a step of a scenario returns a failure; of a step there is the label. Teardown leaves
the stage that stands last. -/
inductive Returns (suite : Suite ω ν) (scenario : Scenario ω ν) (stage : Stage ω) :
    String → Failure → Stage ω → Prop
  | setup {failure : Failure} {ready last : Scene ω ν} {opening closing : List Work}
      {result : Except Failure Unit}
      (setup : HookRuns .setup suite.setup (stage.open scenario.name) opening (.error failure) ready)
      (teardown : HookRuns .teardown suite.teardown ready closing result last) :
      Returns suite scenario stage "setup" failure last.stage
  | step {failure : Failure} {ready middle done last : Scene ω ν} {listener : Listener}
      {before after : List (Step ω ν scenario.carried)} {step : Step ω ν scenario.carried}
      {carried : scenario.carried} {opening closing : List Work} {result : Except Failure Unit}
      (setup : HookRuns .setup suite.setup (stage.open scenario.name) opening (.ok ()) ready)
      (steps : scenario.chain.steps = before ++ step :: after)
      (succeed : Chain.runFrom scenario.chain.mode 0 before default ready = (.ok carried, middle))
      (looked : middle.listener.shouldShutdown middle.stage.channel = (false, listener))
      (fails : step.run (scenario.chain.mode.input carried) { middle with listener } =
        (.error failure, done))
      (teardown : HookRuns .teardown suite.teardown done closing result last) :
      Returns suite scenario stage step.label failure last.stage

theorem Returns.runScenario {scenario : Scenario ω ν} {stage last : Stage ω} {label : String}
    {failure : Failure} (h : suite.Returns scenario stage label failure last) :
    ∃ index, suite.runScenario scenario stage = (some ⟨index, label, failure⟩, last) := by
  cases h with
  | setup setup teardown =>
    exact ⟨0, runScenario_of_setup_error (hookRuns_iff.1 setup).2 (hookRuns_iff.1 teardown).2⟩
  | @step _ ready _ done _ _ before after step _ _ _ _ setup steps succeed looked fails teardown =>
    have hchain : Chain.runFrom scenario.chain.mode 0 scenario.chain.steps default ready =
        (.error ⟨0 + before.length, step.label, failure⟩, done) := by
      rw [steps, Chain.runFrom_append, succeed]
      simp only [Chain.runFrom, looked, fails]
    exact ⟨_, runScenario_of_setup_ok (hookRuns_iff.1 setup).2 (Scenario.run_eq hchain)
      (hookRuns_iff.1 teardown).2⟩

section Returns

variable {options : SuiteOptions} {world : ω} {position : Position ω ν} {label : String}
  {failure : Failure} {last : Stage ω}

theorem Returns.aborts {reason : String} (hreaches : suite.Reaches options world position)
    (h : suite.Returns position.scenario position.stage label failure last)
    (hreason : failure.abortReason? = some reason) :
    suite.run options world =
      (.ok ⟨suite.name, position.reports ++
        ⟨position.scenario.name, .failed label failure.text, 0⟩ ::
          position.later.map fun other => ⟨other.name, .skipped reason, 0⟩⟩, last) := by
  obtain ⟨index, hran⟩ := h.runScenario
  have habort : abortOf (some ⟨index, label, failure⟩) = some reason := hreason
  rw [hreaches.run hran, habort, runEach_skipping]
  rfl

theorem Returns.goesOn (hreaches : suite.Reaches options world position)
    (h : suite.Returns position.scenario position.stage label failure last)
    (hreason : failure.abortReason? = none) :
    let reports := position.reports ++ [⟨position.scenario.name, .failed label failure.text, 0⟩]
    let others := suite.runEach position.later position.listener none last
    suite.run options world = (.ok ⟨suite.name, reports ++ others.1⟩, others.2) ∧
      ∀ next rest listener, position.later = next :: rest →
        position.listener.shouldShutdown last.channel = (false, listener) →
          suite.Reaches options world ⟨reports, next, rest, listener, last⟩ := by
  obtain ⟨index, hran⟩ := h.runScenario
  have habort : abortOf (some ⟨index, label, failure⟩) = none := hreason
  refine ⟨?_, fun next rest listener hlater hlook => ⟨hreaches.names, ?_⟩⟩
  · rw [hreaches.run hran, habort, List.append_assoc]
    rfl
  · exact hreaches.comes.further hran habort hlater hlook

end Returns

end Suite

namespace Fixture

variable {σ ε : Type} [Transport σ]

open StepM (bind_ok bind_error)
open Suite (Position)

/-- A helper that finds the connection closed fails with that, under whatever contexts, whichever of
its requests it was. A suite in which setup or a step returns the failure reports the scenario as
failed and skips all later ones. After any other failure of a helper the suite goes on: unless the
stop signal is there the next scenario is played. -/
theorem only_lost_connection_aborts (helper : Helper) (scene : Scene (Bench ε) (Fixture σ)) :
    helper.run scene =
      ((helper.run (watched scene)).1, unwatched (helper.run (watched scene)).2) ∧
    (.error .closed ∈ helper.replies scene → ∃ before contexts,
      helper.replies scene = before ++ [.error .closed] ∧ .error .closed ∉ before ∧
        (helper.run scene).1 = .error ⟨contexts, .connectionLost⟩) ∧
    ∀ failure, (helper.run scene).1 = .error failure →
      ∀ (suite : Suite (Bench ε) (Fixture σ)) (options : SuiteOptions) (bench : Bench ε)
        (position : Position (Bench ε) (Fixture σ)) (label : String) (added : List String)
        (last : Stage (Bench ε)),
        let returned : Failure := ⟨added ++ failure.contexts, failure.cause⟩
        suite.Reaches options bench position →
        suite.Returns position.scenario position.stage label returned last →
        let reports := position.reports ++
          [⟨position.scenario.name, .failed label returned.text, 0⟩]
        (.error .closed ∈ helper.replies scene →
          suite.run options bench = (.ok ⟨suite.name, reports ++ position.later.map fun other =>
            ⟨other.name, .skipped "connection to the server was lost", 0⟩⟩, last)) ∧
        (.error .closed ∉ helper.replies scene →
          let others := suite.runEach position.later position.listener none last
          suite.run options bench = (.ok ⟨suite.name, reports ++ others.1⟩, others.2) ∧
          ∀ next rest listener, position.later = next :: rest →
            position.listener.shouldShutdown last.channel = (false, listener) →
            suite.Reaches options bench ⟨reports, next, rest, listener, last⟩) := by
  have hcloses := helper.closing scene
  have hsame := helper.run_watched (watched scene)
  rw [unwatched_watched] at hsame
  refine ⟨hsame, hcloses.lost_of_mem, ?_⟩
  intro failure hfailure suite options bench position label added last returned hreaches hreturns
    reports
  refine ⟨fun hclosed => ?_, fun hopen => ?_⟩
  · obtain ⟨before, contexts, -, -, hlost⟩ := hcloses.lost_of_mem hclosed
    have hreason : returned.abortReason? = some "connection to the server was lost" := by
      cases hfailure.symm.trans hlost
      rfl
    rw [hreturns.aborts hreaches hreason, List.append_assoc]
    rfl
  · rw [hfailure] at hcloses
    have hreason : returned.abortReason? = none := hcloses.goesOn hopen
    exact hreturns.goesOn hreaches hreason

/-- A bench on which the server can be reached and hangs up at once. -/
def hangingUp : Bench Unit :=
  ⟨.bare "/home/divvy", ⟨fun _ => .ok { Net.WebSocket.start with incoming := [.frame .close] }⟩,
    .seeded 1, []⟩

theorem connect_hangingUp : connect hangingUp.network hangingUp.keys "ws://[::1]:6006" =
    .ok (.socket { Net.WebSocket.start with incoming := [.frame .close] }) := by
  have hscheme : (Net.Url.parse "ws://[::1]:6006").toOption.map (·.scheme) = some "ws" := by
    decide +kernel
  rcases hparse : Net.Url.parse "ws://[::1]:6006" with e | url
  · rw [hparse] at hscheme
    cases hscheme
  · rw [hparse] at hscheme
    have hws : url.scheme = "ws" := by simpa [Except.toOption] using hscheme
    simp [connect, hparse, hws, hangingUp]

theorem hangingUp_ends_suite :
    let options : SuiteOptions := ⟨"ws://[::1]:6006", none, true⟩
    ∃ last, Suites.noDivvy.run options hangingUp =
      (.ok ⟨"NoDivvy", [⟨"set and clear NoDivvy", .failed "setup" ("Unable to recover the root " ++
          "account keys: Suite aborted: connection to the server was lost"), 0⟩,
        ⟨"set NoDivvy on line with negative balance",
          .skipped "connection to the server was lost", 0⟩,
        ⟨"pairwise NoDivvy", .skipped "connection to the server was lost", 0⟩]⟩, last) := by
  intro options
  let stage : Stage (Bench Unit) := Suite.openStage options hangingUp
  let scene : Scene (Bench Unit) (Fixture Link) := stage.open "set and clear NoDivvy"
  let ready : Scene (Bench Unit) (Fixture Link) := { scene with
    value := { scene.value with
      remote := some (.socket { Net.WebSocket.start with incoming := [.frame .close] }) } }
  let failure : Failure := ⟨["Unable to recover the root account keys"], .connectionLost⟩
  have hserver : (discard startServer : FixtureM Link Unit PUnit) scene = (.ok (), scene) :=
    discard_ok (startServer_ok scene rfl)
  have hlink : openLink scene = (.ok (), ready) := openLink_ok connect_hangingUp
  have hroot : recoverRoot ready = (.error failure, (recoverRoot ready).2) := rfl
  have hsetup : connectRemote scene = (.error failure, (recoverRoot ready).2) := by
    rw [connectRemote, bind_ok hserver, bind_ok hlink]
    exact bind_error hroot _
  have hreaches : Suites.noDivvy.Reaches options hangingUp
      ⟨[], _, _, stage.channel.listen, stage⟩ := ⟨by decide, .here rfl⟩
  have hreturns : Suites.noDivvy.Returns ⟨"set and clear NoDivvy", Unit, Suites.setAndClear⟩ stage
      "setup" failure _ :=
    .setup (hookRuns_of_runHook _ hsetup) (hookRuns_of_runHook _ rfl)
  have hclosed : .error .closed ∈ Helper.recoverRoot.replies ready := List.mem_singleton.mpr rfl
  have haborts := ((only_lost_connection_aborts .recoverRoot ready).2.2 failure rfl _ _ _ _ _ [] _
    hreaches hreturns).1 hclosed
  exact ⟨_, haborts⟩

end Fixture
end LedgerBench
