import LedgerBench.Suite.Chain
import LedgerBench.Suite.Report
import LedgerBench.Text.Blank

/-! Suites of scenarios that share a setup and a teardown hook. The hooks run around every scenario.
A failed scenario does not end the suite; a failure that aborts it and the stop signal do, and then
the scenarios that are left are skipped. -/

namespace LedgerBench

open Shutdown (Channel Listener)

/-- A named chain; scenarios with different carried types can stand in one suite. -/
structure Scenario (ω ν : Type) where
  name : String
  carried : Type
  [inhabited : Inhabited carried]
  chain : Chain ω ν carried

/-- Scenarios with what is run before and after each of them. How teardown ends changes nothing. -/
structure Suite (ω ν : Type) where
  name : String
  setup : Option (StepM ω ν Unit)
  teardown : Option (StepM ω ν Unit)
  scenarios : List (Scenario ω ν)

structure SuiteOptions where
  connection : String
  filter : Option String
  summary : Bool
  deriving Repr, DecidableEq

def stopReason : String := "shutdown requested"

variable {ω ν : Type}

namespace Scenario

def run (scenario : Scenario ω ν) (scene : Scene ω ν) : Option StepFailure × Scene ω ν :=
  have := scenario.inhabited
  match scenario.chain.run scene with
  | (.ok _, scene) => (none, scene)
  | (.error failed, scene) => (some failed, scene)

end Scenario

/-- The first name that stands twice. -/
def firstRepeated : List String → List String → Option String
  | _, [] => none
  | seen, name :: rest =>
    if seen.contains name then some name else firstRepeated (name :: seen) rest

namespace Suite

/-- The scenarios whose names contain the filter's text, in the order of the suite. -/
def selected (suite : Suite ω ν) (filter : Option String) : List (Scenario ω ν) :=
  suite.scenarios.filter fun scenario =>
    match filter with
    | some part => Text.occursIn part.toList scenario.name.toList
    | none => true

def runHook (hook : Option (StepM ω ν Unit)) (scene : Scene ω ν) :
    Except Failure Unit × Scene ω ν :=
  match hook with
  | some hook => hook scene
  | none => (.ok (), scene)

def runMain (suite : Suite ω ν) (scenario : Scenario ω ν) (scene : Scene ω ν) :
    Option StepFailure × Scene ω ν :=
  match runHook suite.setup scene with
  | (.ok (), scene) => scenario.run scene
  | (.error failure, scene) => (some ⟨0, "setup", failure⟩, scene)

def outcomeOf : Option StepFailure → Outcome
  | none => .passed
  | some failed => .failed failed.label failed.failure.text

/-- Why the rest of the suite is skipped after a scenario that ended like this. -/
def abortOf (failed : Option StepFailure) : Option String :=
  failed.bind (·.failure.abortReason?)

variable [Inhabited ν]

/-- One scenario in a scene of its own: setup, steps, and teardown at the end. -/
def runScenario (suite : Suite ω ν) (scenario : Scenario ω ν) (stage : Stage ω) :
    Option StepFailure × Stage ω :=
  let (failed, scene) := suite.runMain scenario (stage.open scenario.name)
  (failed, (runHook suite.teardown scene).2.stage)

/-- Scenarios one after the other, until there is a reason to skip the rest. -/
def runEach (suite : Suite ω ν) :
    List (Scenario ω ν) → Listener → Option String → Stage ω → List ScenarioReport × Stage ω
  | [], _, _, stage => ([], stage)
  | scenario :: rest, listener, some reason, stage =>
    let (reports, stage) := runEach suite rest listener (some reason) stage
    (⟨scenario.name, .skipped reason, 0⟩ :: reports, stage)
  | scenario :: rest, listener, none, stage =>
    match listener.shouldShutdown stage.channel with
    | (true, listener) =>
      let (reports, stage) := runEach suite rest listener (some stopReason) stage
      (⟨scenario.name, .skipped stopReason, 0⟩ :: reports, stage)
    | (false, listener) =>
      let (failed, stage) := suite.runScenario scenario stage
      let (reports, stage) := runEach suite rest listener (abortOf failed) stage
      (⟨scenario.name, outcomeOf failed, 0⟩ :: reports, stage)

def openStage (options : SuiteOptions) (world : ω) : Stage ω where
  channel := .start
  reporter := .start options.summary
  connection := options.connection
  background := []
  world := world

/-- Runs the selected scenarios in order. A suite in which two scenarios have one name is refused
and nothing runs. -/
def run (suite : Suite ω ν) (options : SuiteOptions) (world : ω) :
    Except Failure SuiteReport × Stage ω :=
  let stage := openStage options world
  match firstRepeated [] (suite.scenarios.map Scenario.name) with
  | some name =>
    (.error (.plain s!"Scenario [{name}] is defined more than once in suite [{suite.name}]"), stage)
  | none =>
    let (reports, stage) :=
      suite.runEach (suite.selected options.filter) stage.channel.listen none stage
    (.ok ⟨suite.name, reports⟩, stage)

end Suite
end LedgerBench
