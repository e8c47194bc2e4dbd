import LedgerBench.Proofs.Suite.Orderly
import LedgerBench.Proofs.SuiteRun

/-! A scenario in which the stop is asked for. Where the first look after it stands depends on who
asks: before the next step if there is one, and otherwise before the next scenario. -/

namespace LedgerBench

open Shutdown (Touches Attuned)

variable {ω ν τ : Type}

def Scene.told (scene : Scene ω ν) : Scene ω ν := { scene with listener := ⟨⟨1⟩, true⟩ }

theorem Scene.Quiet.attuned {scene : Scene ω ν} (h : scene.Quiet 0) : Attuned scene.signals where
  handles := h.stage.handles
  before _ := h.listener
  after _ := .inl h.listener

theorem Scene.quiet_of_attuned {scene : Scene ω ν} (h : Attuned scene.signals)
    (hsent : scene.stage.channel.sent = 0) : scene.Quiet 0 :=
  ⟨⟨hsent, h.handles⟩, h.before hsent⟩

/-- Steps of which one asks for the stop, before which nobody has asked. The labels are those of the
steps that ran. The next step after the one that asked stands for the failure, unless that one
failed itself or was the last. -/
inductive StepsAsk [Inhabited τ] (mode : ChainMode) :
    List (Step ω ν τ) → τ → Scene ω ν → List String → Option (String × Failure) → Scene ω ν → Prop
  | later {step : Step ω ν τ} {rest : List (Step ω ν τ)} {carried given : τ}
      {scene middle last : Scene ω ν} {labels : List String} {failed : Option (String × Failure)}
      (succeeds : step.run (mode.input carried) scene = (.ok given, middle))
      (unasked : middle.stage.channel.sent = 0)
      (others : StepsAsk mode rest given middle labels failed last) :
      StepsAsk mode (step :: rest) carried scene (step.label :: labels) failed last
  | last {step : Step ω ν τ} {carried given : τ} {scene last : Scene ω ν}
      (succeeds : step.run (mode.input carried) scene = (.ok given, last))
      (asks : last.stage.channel.sent = 1) :
      StepsAsk mode [step] carried scene [step.label] none last
  | cancelled {step next : Step ω ν τ} {rest : List (Step ω ν τ)} {carried given : τ}
      {scene last : Scene ω ν}
      (succeeds : step.run (mode.input carried) scene = (.ok given, last))
      (asks : last.stage.channel.sent = 1) :
      StepsAsk mode (step :: next :: rest) carried scene [step.label]
        (some (next.label, .ofCause .cancelled)) last.told
  | failed {step : Step ω ν τ} {rest : List (Step ω ν τ)} {carried : τ} {scene last : Scene ω ν}
      {failure : Failure} (fails : step.run (mode.input carried) scene = (.error failure, last))
      (asks : last.stage.channel.sent = 1) :
      StepsAsk mode (step :: rest) carried scene [step.label] (some (step.label, failure)) last

namespace Chain

variable [Inhabited τ]

theorem runFrom_asked {scene : Scene ω ν} (h : Attuned scene.signals)
    (hsent : scene.stage.channel.sent = 1) (mode : ChainMode) (index : Nat) (step : Step ω ν τ)
    (rest : List (Step ω ν τ)) (carried : τ) :
    runFrom mode index (step :: rest) carried scene =
      (.error ⟨index, step.label, .ofCause .cancelled⟩, scene.told) := by
  have hlook := h.shouldShutdown hsent
  simp only [runFrom, hlook, Scene.told]

theorem runFrom_cases {steps : List (Step ω ν τ)} {scene last : Scene ω ν}
    {result : Except StepFailure τ} {mode : ChainMode} {index : Nat} {carried : τ}
    (hsteps : ∀ step ∈ steps, ∀ carried, StepM.Orderly (step.run carried))
    (hquiet : scene.Quiet 0) (hrun : runFrom mode index steps carried scene = (result, last))
    (hone : last.stage.channel.sent ≤ 1) :
    ∃ labels,
      last.stage.channel.sent = 0 ∧
          StepsRun mode steps carried scene labels ((failureOf result).map StepFailure.noted) last ∨
        last.stage.channel.sent = 1 ∧
          StepsAsk mode steps carried scene labels ((failureOf result).map StepFailure.noted)
            last := by
  induction steps generalizing scene index carried with
  | nil =>
    cases hrun
    exact ⟨[], .inl ⟨hquiet.stage.sent, .finished⟩⟩
  | cons step rest ih =>
    obtain ⟨hstep, hrest⟩ := List.forall_mem_cons.mp hsteps
    rcases hran : step.run (mode.input carried) scene with ⟨failure | given, middle⟩
    · rw [runFrom_of_error hquiet hran] at hrun
      cases hrun
      rcases Nat.le_one_iff_eq_zero_or_eq_one.mp hone with hsent | hsent
      · exact ⟨[step.label], .inl ⟨hsent, .failed hran⟩⟩
      · exact ⟨[step.label], .inr ⟨hsent, .failed hran hsent⟩⟩
    · rw [runFrom_of_ok hquiet hran] at hrun
      have hmiddle := ((hstep _).touches hran).attuned hquiet.attuned
      have hle : middle.stage.channel.sent ≤ last.stage.channel.sent := by
        have htouches := touches_runFrom hrest mode (index + 1) given middle
        rw [hrun] at htouches
        exact htouches.sent_le
      rcases Nat.le_one_iff_eq_zero_or_eq_one.mp (hle.trans hone) with hsent | hsent
      · obtain ⟨labels, ⟨hlast, hruns⟩ | ⟨hlast, hasks⟩⟩ :=
          ih hrest (Scene.quiet_of_attuned hmiddle hsent) hrun
        · exact ⟨step.label :: labels, .inl ⟨hlast, .next hran hruns⟩⟩
        · exact ⟨step.label :: labels, .inr ⟨hlast, .later hran hsent hasks⟩⟩
      · -- the step has asked, and the look before the next one finds it
        cases rest with
        | nil =>
          cases hrun
          exact ⟨[step.label], .inr ⟨hsent, .last hran hsent⟩⟩
        | cons next rest =>
          rw [runFrom_asked hmiddle hsent] at hrun
          cases hrun
          exact ⟨[step.label], .inr ⟨hsent, .cancelled hran hsent⟩⟩

end Chain

namespace Scenario

theorem run_eq {scenario : Scenario ω ν} {scene last : Scene ω ν}
    {result : Except StepFailure scenario.carried}
    (hrun : Chain.runFrom scenario.chain.mode 0 scenario.chain.steps default scene =
      (result, last)) :
    scenario.run scene = (Chain.failureOf result, last) := by
  rw [← Chain.run] at hrun
  cases result <;> simp only [run, hrun, Chain.failureOf]

theorem touches_run {scenario : Scenario ω ν}
    (hsteps : ∀ step ∈ scenario.chain.steps, ∀ carried, StepM.Orderly (step.run carried))
    (scene : Scene ω ν) : Touches scene.signals (scenario.run scene).2.signals := by
  rw [run_eq rfl]
  exact Chain.touches_runFrom hsteps scenario.chain.mode 0 default scene

end Scenario

namespace Suite

/-- A scenario in which the stop is asked for, in setup, in a step or in teardown, before which
nobody has asked. After setup no step runs, and the first one, if there is one, stands for the
failure. What teardown does comes too late for the outcome. -/
inductive PlaysAsked [Inhabited ν] (suite : Suite ω ν) (scenario : Scenario ω ν) (stage : Stage ω) :
    List Work → Option (String × Failure) → Stage ω → Prop
  | setupFailed {failure : Failure} {ready last : Scene ω ν} {opening closing : List Work}
      {result : Except Failure Unit}
      (setup : HookRuns .setup suite.setup ⟨stage, scenario.name, stage.channel.listen, default⟩
        opening (.error failure) ready)
      (asks : ready.stage.channel.sent = 1)
      (teardown : HookRuns .teardown suite.teardown ready closing result last) :
      PlaysAsked suite scenario stage (opening ++ closing) (some ("setup", failure)) last.stage
  | setupAlone {ready last : Scene ω ν} {opening closing : List Work} {result : Except Failure Unit}
      (setup : HookRuns .setup suite.setup ⟨stage, scenario.name, stage.channel.listen, default⟩
        opening (.ok ()) ready)
      (asks : ready.stage.channel.sent = 1) (noSteps : scenario.chain.steps = [])
      (teardown : HookRuns .teardown suite.teardown ready closing result last) :
      PlaysAsked suite scenario stage (opening ++ closing) none last.stage
  | setup {ready last : Scene ω ν} {opening closing : List Work} {result : Except Failure Unit}
      {first : Step ω ν scenario.carried} {rest : List (Step ω ν scenario.carried)}
      (setup : HookRuns .setup suite.setup ⟨stage, scenario.name, stage.channel.listen, default⟩
        opening (.ok ()) ready)
      (asks : ready.stage.channel.sent = 1) (steps : scenario.chain.steps = first :: rest)
      (teardown : HookRuns .teardown suite.teardown ready.told closing result last) :
      PlaysAsked suite scenario stage (opening ++ closing)
        (some (first.label, .ofCause .cancelled)) last.stage
  | step {ready done last : Scene ω ν} {labels : List String} {failed : Option (String × Failure)}
      {opening closing : List Work} {result : Except Failure Unit}
      (setup : HookRuns .setup suite.setup ⟨stage, scenario.name, stage.channel.listen, default⟩
        opening (.ok ()) ready)
      (unasked : ready.stage.channel.sent = 0)
      (steps : StepsAsk scenario.chain.mode scenario.chain.steps default ready labels failed done)
      (teardown : HookRuns .teardown suite.teardown done closing result last) :
      PlaysAsked suite scenario stage (opening ++ labels.map .step ++ closing) failed last.stage
  | teardownAfterSetup {failure : Failure} {ready last : Scene ω ν} {opening closing : List Work}
      {result : Except Failure Unit}
      (setup : HookRuns .setup suite.setup ⟨stage, scenario.name, stage.channel.listen, default⟩
        opening (.error failure) ready)
      (unasked : ready.stage.channel.sent = 0)
      (teardown : HookRuns .teardown suite.teardown ready closing result last)
      (asks : last.stage.channel.sent = 1) :
      PlaysAsked suite scenario stage (opening ++ closing) (some ("setup", failure)) last.stage
  | teardown {ready done last : Scene ω ν} {labels : List String}
      {failed : Option (String × Failure)} {opening closing : List Work}
      {result : Except Failure Unit}
      (setup : HookRuns .setup suite.setup ⟨stage, scenario.name, stage.channel.listen, default⟩
        opening (.ok ()) ready)
      (steps : StepsRun scenario.chain.mode scenario.chain.steps default ready labels failed done)
      (unasked : done.stage.channel.sent = 0)
      (teardown : HookRuns .teardown suite.teardown done closing result last)
      (asks : last.stage.channel.sent = 1) :
      PlaysAsked suite scenario stage (opening ++ labels.map .step ++ closing) failed last.stage

variable [Inhabited ν] {suite : Suite ω ν}

theorem PlaysAsked.hooksOnce {scenario : Scenario ω ν} {stage last : Stage ω} {works : List Work}
    {failed : Option (String × Failure)} (h : suite.PlaysAsked scenario stage works failed last) :
    suite.HooksOnce works := by
  cases h with
  | setupFailed setup _ teardown => exact (hooksOnce_of_runs setup teardown).1
  | setupAlone setup _ _ teardown => exact (hooksOnce_of_runs setup teardown).1
  | setup setup _ _ teardown => exact (hooksOnce_of_runs setup teardown).1
  | step setup _ _ teardown => exact (hooksOnce_of_runs setup teardown).2 _
  | teardownAfterSetup setup _ teardown => exact (hooksOnce_of_runs setup teardown).1
  | teardown setup _ _ teardown => exact (hooksOnce_of_runs setup teardown).2 _

section Scenario

variable {scenario : Scenario ω ν} {stage last : Stage ω} {failed : Option StepFailure}

theorem runScenario_of_setup_error {failure : Failure} {ready done : Scene ω ν}
    {closing : Except Failure Unit}
    (hsetup : runHook suite.setup (stage.open scenario.name) = (.error failure, ready))
    (hteardown : runHook suite.teardown ready = (closing, done)) :
    suite.runScenario scenario stage = (some ⟨0, "setup", failure⟩, done.stage) := by
  simp only [runScenario, runMain, hsetup, hteardown]

theorem runScenario_of_setup_ok {ready done last : Scene ω ν} {closing : Except Failure Unit}
    (hsetup : runHook suite.setup (stage.open scenario.name) = (.ok (), ready))
    (hran : scenario.run ready = (failed, done))
    (hteardown : runHook suite.teardown done = (closing, last)) :
    suite.runScenario scenario stage = (failed, last.stage) := by
  simp only [runScenario, runMain, hsetup, hran, hteardown]

theorem runScenario_sent_le (h : suite.Orderly) (hmem : scenario ∈ suite.scenarios)
    (stage : Stage ω) : stage.channel.sent ≤ (suite.runScenario scenario stage).2.channel.sent := by
  rcases hsetup : runHook suite.setup (stage.open scenario.name) with ⟨failure | ⟨⟩, ready⟩
  · rcases hteardown : runHook suite.teardown ready with ⟨closing, done⟩
    rw [runScenario_of_setup_error hsetup hteardown]
    exact (touches_runHook h.setup hsetup).sent_le.trans
      (touches_runHook h.teardown hteardown).sent_le
  · rcases hran : scenario.run ready with ⟨failed, done⟩
    rcases hteardown : runHook suite.teardown done with ⟨closing, last⟩
    rw [runScenario_of_setup_ok hsetup hran hteardown]
    have hsteps := (Scenario.touches_run (h.steps scenario hmem) ready).sent_le
    rw [hran] at hsteps
    exact ((touches_runHook h.setup hsetup).sent_le.trans hsteps).trans
      (touches_runHook h.teardown hteardown).sent_le

/-- After a setup that has asked for the stop the look before the first step, if there is one, finds
it. -/
theorem playsAsked_of_setup {ready done last : Scene ω ν} {closing : Except Failure Unit}
    {result : Except StepFailure scenario.carried}
    (hsetup : runHook suite.setup (stage.open scenario.name) = (.ok (), ready))
    (hready : Attuned ready.signals) (hasks : ready.stage.channel.sent = 1)
    (hsteps : Chain.runFrom scenario.chain.mode 0 scenario.chain.steps default ready =
      (result, done))
    (hteardown : runHook suite.teardown done = (closing, last)) :
    suite.PlaysAsked scenario stage
      (hookWork .setup suite.setup ++ hookWork .teardown suite.teardown)
      ((Chain.failureOf result).map StepFailure.noted) last.stage := by
  cases hchain : scenario.chain.steps with
  | nil =>
    rw [hchain, Chain.runFrom_nil] at hsteps
    cases hsteps
    exact .setupAlone (hookRuns_of_runHook _ hsetup) hasks hchain
      (hookRuns_of_runHook _ hteardown)
  | cons first rest =>
    rw [hchain, Chain.runFrom_asked hready hasks] at hsteps
    cases hsteps
    exact .setup (hookRuns_of_runHook _ hsetup) hasks hchain (hookRuns_of_runHook _ hteardown)

theorem runScenario_cases (h : suite.Orderly) (hmem : scenario ∈ suite.scenarios)
    (hquiet : stage.Quiet 0) (hone : (suite.runScenario scenario stage).2.channel.sent ≤ 1) :
    ∃ works failed last, suite.runScenario scenario stage = (failed, last) ∧
      (last.Quiet 0 ∧ suite.Plays scenario stage works (failed.map StepFailure.noted) last ∨
        last.channel.sent = 1 ∧
          suite.PlaysAsked scenario stage works (failed.map StepFailure.noted) last) := by
  have hopen : Scene.Quiet (stage.open scenario.name : Scene ω ν) 0 := hquiet.open scenario.name
  rcases hsetup : runHook suite.setup (stage.open scenario.name) with ⟨failure | ⟨⟩, ready⟩
  · rcases hteardown : runHook suite.teardown ready with ⟨closing, last⟩
    have hready := (touches_runHook h.setup hsetup).attuned hopen.attuned
    have hlast := (touches_runHook h.teardown hteardown).attuned hready
    have hle := (touches_runHook h.teardown hteardown).sent_le
    have hran := runScenario_of_setup_error hsetup hteardown
    have hopening := hookRuns_of_runHook .setup hsetup
    have hclosing := hookRuns_of_runHook .teardown hteardown
    rw [hran] at hone
    rcases Nat.le_one_iff_eq_zero_or_eq_one.mp (hle.trans hone) with hasked | hasked
    · rcases Nat.le_one_iff_eq_zero_or_eq_one.mp hone with hsent | hsent
      · exact ⟨_, _, _, hran, .inl ⟨⟨hsent, hlast.handles⟩, .setupFailed hopening hclosing⟩⟩
      · exact ⟨_, _, _, hran, .inr ⟨hsent, .teardownAfterSetup hopening hasked hclosing hsent⟩⟩
    · have hsent : last.stage.channel.sent = 1 := Nat.le_antisymm hone (hasked ▸ hle)
      exact ⟨_, _, _, hran, .inr ⟨hsent, .setupFailed hopening hasked hclosing⟩⟩
  · rcases hsteps : Chain.runFrom scenario.chain.mode 0 scenario.chain.steps default ready with
      ⟨result, done⟩
    rcases hteardown : runHook suite.teardown done with ⟨closing, last⟩
    have hready := (touches_runHook h.setup hsetup).attuned hopen.attuned
    have htouches : Touches ready.signals done.signals := by
      have htouches := Chain.touches_runFrom (h.steps scenario hmem) scenario.chain.mode 0 default
        ready
      rwa [hsteps] at htouches
    have hlast := (touches_runHook h.teardown hteardown).attuned (htouches.attuned hready)
    have hle := (touches_runHook h.teardown hteardown).sent_le
    have hran := runScenario_of_setup_ok hsetup (Scenario.run_eq hsteps) hteardown
    have hopening := hookRuns_of_runHook .setup hsetup
    have hclosing := hookRuns_of_runHook .teardown hteardown
    rw [hran] at hone
    have hdone := hle.trans hone
    rcases Nat.le_one_iff_eq_zero_or_eq_one.mp (htouches.sent_le.trans hdone) with hasked | hasked
    · obtain ⟨labels, ⟨hsent, hruns⟩ | ⟨hsent, hasks⟩⟩ :=
        Chain.runFrom_cases (h.steps scenario hmem) (Scene.quiet_of_attuned hready hasked) hsteps
          hdone
      · rcases Nat.le_one_iff_eq_zero_or_eq_one.mp hone with hend | hend
        · exact ⟨_, _, _, hran, .inl ⟨⟨hend, hlast.handles⟩, .ran hopening hruns hclosing⟩⟩
        · exact ⟨_, _, _, hran, .inr ⟨hend, .teardown hopening hruns hsent hclosing hend⟩⟩
      · have hend : last.stage.channel.sent = 1 := Nat.le_antisymm hone (hsent ▸ hle)
        exact ⟨_, _, _, hran, .inr ⟨hend, .step hopening hasked hasks hclosing⟩⟩
    · have hend : last.stage.channel.sent = 1 :=
        Nat.le_antisymm hone (hasked ▸ htouches.sent_le.trans hle)
      exact ⟨_, _, _, hran, .inr ⟨hend, playsAsked_of_setup hsetup hready hasked hsteps hteardown⟩⟩

end Scenario

end Suite
end LedgerBench
