import LedgerBench.Failure
import LedgerBench.Operation.Reporter
import LedgerBench.Shutdown.Listener

/-! What hooks and steps work on. A stage is shared by all scenarios of a suite; a scene is the part
that one scenario gets for itself, fresh each time. A failure keeps what was done before it. -/

namespace LedgerBench

open Shutdown (Channel Listener)

/-- What the scenarios of a suite share. The work in the background waits for a moment at which
something else waits, and the world is what hooks and steps change outside the suite. -/
structure Stage (ω : Type) where
  channel : Channel
  reporter : Reporter
  connection : String
  background : List (ω → ω)
  world : ω

structure Scene (ω ν : Type) where
  stage : Stage ω
  scenario : String
  listener : Listener
  value : ν

abbrev StepM (ω ν α : Type) := ExceptT Failure (StateM (Scene ω ν)) α

def Stage.open [Inhabited ν] (stage : Stage ω) (scenario : String) : Scene ω ν :=
  ⟨stage, scenario, stage.channel.listen, default⟩

namespace StepM

variable {ω ν α β : Type}

theorem bind_ok {work : StepM ω ν α} {scene scene' : Scene ω ν} {a : α}
    (h : work scene = (.ok a, scene')) (next : α → StepM ω ν β) :
    (work >>= next) scene = next a scene' := by
  simp only [Bind.bind, ExceptT.bind, ExceptT.mk, StateT.bind, h, ExceptT.bindCont]

theorem bind_error {work : StepM ω ν α} {scene scene' : Scene ω ν} {failure : Failure}
    (h : work scene = (.error failure, scene')) (next : α → StepM ω ν β) :
    (work >>= next) scene = (.error failure, scene') := by
  simp only [Bind.bind, ExceptT.bind, ExceptT.mk, StateT.bind, h, ExceptT.bindCont]
  rfl

def modifyStage (change : Stage ω → Stage ω) : StepM ω ν Unit :=
  modify fun scene => { scene with stage := change scene.stage }

def modifyWorld (change : ω → ω) : StepM ω ν Unit :=
  modifyStage fun stage => { stage with world := change stage.world }

/-- Asks for the suite to stop: no further step and no further scenario starts. -/
def forceStop : StepM ω ν Unit :=
  modifyStage fun stage => { stage with channel := stage.channel.send }

def shouldShutdown : StepM ω ν Bool := do
  let scene ← get
  let (stop, listener) := scene.listener.shouldShutdown scene.stage.channel
  set { scene with listener }
  return stop

def report (operation : String) (failed : Bool) : StepM ω ν Unit :=
  modifyStage fun stage => { stage with reporter := stage.reporter.add ⟨operation, some 0, failed⟩ }

def spawn (work : ω → ω) : StepM ω ν Unit :=
  modifyStage fun stage => { stage with background := stage.background ++ [work] }

def doBackground (count : Nat) : StepM ω ν Unit :=
  modifyStage fun stage => { stage with
    background := stage.background.drop count
    world := (stage.background.take count).foldl (fun world work => work world) stage.world }

/-- How many pieces of background work are done before it is looked whether what runs in place can
go on. -/
def turnSize : Nat := 61

def giveWay : StepM ω ν Unit :=
  doBackground turnSize

def settle : StepM ω ν Unit := do
  doBackground (← get).stage.background.length

def inContext (context : String) (step : StepM ω ν α) : StepM ω ν α := fun scene =>
  let (result, scene) := step scene
  (result.mapError (·.inContext context), scene)

/-- Runs work in place. Work that comes to no end of its own, here `none`, is cut short by the stop
signal; work that ends is looked at first. -/
def inPlace (work : StepM ω ν (Option α)) : StepM ω ν α := do
  match ← work with
  | some a => return a
  | none => throw (.ofCause .cancelled)

end StepM
end LedgerBench
