import LedgerBench.Suite.Basic

/-! Scenarios that are written down as data: each step performs a list of actions on a 64-bit
number, and what can be observed goes into a journal. -/

namespace LedgerBench.Script

inductive Sequel where
  | succeed
  | fail
  | stopAndSucceed
  | stopAndWait
  deriving Repr, DecidableEq

inductive Action where
  | add (k : Int64)
  | mul (k : Int64)
  | event (tag : String)
  | notes
  | scenarioName
  | connection
  | note (text : String)
  | operation (id : String) (failed : Bool)
  | summary
  | fail (cause : Cause) (contexts : List String)
  | forceStop
  | shouldShutdown
  | runInPlace (sequel : Sequel)
  | spawn (tag : String)
  | settle
  | nested (mode : ChainMode) (steps : List (String × List Action)) (propagate : Bool)

inductive Event where
  | step (label : String) (value : Int64)
  | setup (scenario : String)
  | teardown (scenario : String)
  | value (tag : String) (value : Int64)
  | notes (notes : List String)
  | scenarioName (name : String)
  | connection (text : String)
  | summary (operations : List OperationSummary)
  | shouldShutdown (answer : Bool)
  | spawned (tag : String)
  | nested (mode : ChainMode) (length : Nat)
  | nestedFailed (failed : StepFailure)

abbrev Journal := List Event

abbrev ScriptM (α : Type) := StepM Journal (List String) α

def record (event : Event) : ScriptM Unit :=
  StepM.modifyWorld (· ++ [event])

def runSequel (value : Int64) : Sequel → ScriptM (Option Int64)
  | .succeed => return some (value + 1)
  | .fail => throw (.plain "async failure")
  | .stopAndSucceed => do
    StepM.forceStop
    return some (value + 1)
  | .stopAndWait => do
    StepM.forceStop
    return none

def runNested (chain : Chain Journal (List String) Int64) (propagate : Bool) (value : Int64) :
    ScriptM Int64 := do
  record (.nested chain.mode chain.steps.length)
  let (result, scene) := chain.run (← get)
  set scene
  match result with
  | .ok next => return next
  | .error failed =>
    record (.nestedFailed failed)
    if propagate then throw (.ofCause failed.toCause)
    return value

def runPlain (value : Int64) : Action → ScriptM Int64
  | .add k => return value + k
  | .mul k => return value * k
  | .event tag => do
    record (.value tag value)
    return value
  | .notes => do
    record (.notes (← get).value)
    return value
  | .scenarioName => do
    record (.scenarioName (← get).scenario)
    return value
  | .connection => do
    record (.connection (← get).stage.connection)
    return value
  | .note text => do
    modify fun scene => { scene with value := scene.value ++ [text] }
    return value
  | .operation id failed => do
    StepM.report id failed
    return value
  | .summary => do
    record (.summary (← get).stage.reporter.summary)
    return value
  | .fail cause contexts => throw (contexts.foldl Failure.inContext (.ofCause cause))
  | .forceStop => do
    StepM.forceStop
    return value
  | .shouldShutdown => do
    record (.shouldShutdown (← StepM.shouldShutdown))
    return value
  | .runInPlace sequel => StepM.inPlace do
    StepM.giveWay
    runSequel value sequel
  | .spawn tag => do
    StepM.spawn (· ++ [.spawned tag])
    return value
  | .settle => do
    StepM.settle
    return value
  | .nested .. => return value

mutual

def runAction : Action → Int64 → ScriptM Int64
  | .nested mode steps propagate, value => runNested ⟨mode, stepsOf steps⟩ propagate value
  | action, value => runPlain value action

def runActions : List Action → Int64 → ScriptM Int64
  | [], value => return value
  | action :: rest, value => do runActions rest (← runAction action value)

def stepOf : String × List Action → Step Journal (List String) Int64
  | (label, actions) =>
    ⟨label, fun value => do
      record (.step label value)
      runActions actions value⟩

def stepsOf : List (String × List Action) → List (Step Journal (List String) Int64)
  | [] => []
  | step :: rest => stepOf step :: stepsOf rest

end

/-- A hook that acts in the named scenarios, or in all of them if none is named. -/
structure Hook where
  actions : List Action
  only : List String

def Hook.run (announce : String → Event) (hook : Hook) : ScriptM Unit := do
  let name := (← get).scenario
  record (announce name)
  if hook.only.isEmpty || hook.only.contains name then
    discard (runActions hook.actions 0)

structure Scenario where
  name : String
  mode : ChainMode
  steps : List (String × List Action)

def Scenario.toScenario (scenario : Script.Scenario) :
    LedgerBench.Scenario Journal (List String) where
  name := scenario.name
  carried := Int64
  chain := ⟨scenario.mode, stepsOf scenario.steps⟩

def suite (name : String) (setup teardown : Option Hook) (scenarios : List Scenario) :
    Suite Journal (List String) where
  name := name
  setup := setup.map (Hook.run .setup)
  teardown := teardown.map (Hook.run .teardown)
  scenarios := scenarios.map Scenario.toScenario

end LedgerBench.Script
