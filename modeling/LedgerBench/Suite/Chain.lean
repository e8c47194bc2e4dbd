import LedgerBench.Suite.Scene

/-! Chains of labelled steps. A step starts only after the one before it has succeeded, and the
first failure ends the chain. -/

namespace LedgerBench

/-- How values move between the steps of a chain. In a series each step gets the default value, and
in a waterfall what the step before it gave. -/
inductive ChainMode where
  | series
  | waterfall
  deriving Repr, DecidableEq

structure Step (ω ν τ : Type) where
  label : String
  run : τ → StepM ω ν τ

structure Chain (ω ν τ : Type) where
  mode : ChainMode
  steps : List (Step ω ν τ)

/-- The first step of a chain that did not succeed, counted from zero. -/
structure StepFailure where
  index : Nat
  label : String
  failure : Failure
  deriving Repr, DecidableEq

namespace StepFailure

def toCause (failed : StepFailure) : Cause :=
  .step failed.label failed.failure.contexts failed.failure.cause

def text (failed : StepFailure) : String :=
  failed.label ++ ": " ++ failed.failure.text

end StepFailure

def ChainMode.input [Inhabited τ] : ChainMode → τ → τ
  | .series, _ => default
  | .waterfall, carried => carried

namespace Chain

variable {ω ν τ : Type} [Inhabited τ]

def runFrom (mode : ChainMode) :
    Nat → List (Step ω ν τ) → τ → Scene ω ν → Except StepFailure τ × Scene ω ν
  | _, [], carried, scene => (.ok carried, scene)
  | index, step :: rest, carried, scene =>
    match scene.listener.shouldShutdown scene.stage.channel with
    | (true, listener) =>
      (.error ⟨index, step.label, .ofCause .cancelled⟩, { scene with listener })
    | (false, listener) =>
      match step.run (mode.input carried) { scene with listener } with
      | (.ok next, scene) => runFrom mode (index + 1) rest next scene
      | (.error failure, scene) => (.error ⟨index, step.label, failure⟩, scene)

def run (chain : Chain ω ν τ) (scene : Scene ω ν) : Except StepFailure τ × Scene ω ν :=
  runFrom chain.mode 0 chain.steps default scene

@[simp] theorem runFrom_nil (mode : ChainMode) (index : Nat) (carried : τ) (scene : Scene ω ν) :
    runFrom mode index [] carried scene = (.ok carried, scene) := rfl

theorem runFrom_append (mode : ChainMode) (index : Nat) (xs ys : List (Step ω ν τ)) (carried : τ)
    (scene : Scene ω ν) :
    runFrom mode index (xs ++ ys) carried scene =
      match runFrom mode index xs carried scene with
      | (.ok next, scene) => runFrom mode (index + xs.length) ys next scene
      | (.error failed, scene) => (.error failed, scene) := by
  induction xs generalizing index carried scene with
  | nil => rfl
  | cons step rest ih =>
    simp only [List.cons_append, runFrom, List.length_cons]
    split
    · rfl
    · split
      · rw [ih, Nat.add_right_comm, Nat.add_assoc]
      · rfl

end Chain
end LedgerBench
