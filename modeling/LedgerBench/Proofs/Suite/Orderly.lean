import LedgerBench.Proofs.Suite.Quiet
import LedgerBench.Suite.Script
import Mathlib.Logic.Relation

/-! Hooks and steps that deal with the stop signal only by sending it, looking for it and waiting
for it, and what such work leaves of a listener that was made before the signal. They do so with the
one listener of their scenario: a second one on the same receiver would take the signal away from
it. -/

namespace LedgerBench

namespace Shutdown

/-- One thing that a hook or a step does with the channel and the listener of its scenario. -/
inductive Touch : Channel × Listener → Channel × Listener → Prop
  | send (channel : Channel) (listener : Listener) :
      Touch (channel, listener) (channel.send, listener)
  | look (channel : Channel) (listener : Listener) :
      Touch (channel, listener) (channel, (listener.shouldShutdown channel).2)
  | wait (channel : Channel) (listener : Listener) :
      Touch (channel, listener) (channel, (listener.waitIsOver channel).2)

abbrev Touches : Channel × Listener → Channel × Listener → Prop :=
  Relation.ReflTransGen Touch

/-- While there is at most one signal, a listener from before it has either found it or can find it
with the next look. -/
structure Attuned (state : Channel × Listener) : Prop where
  handles : 0 < state.1.handles
  before : state.1.sent = 0 → state.2 = ⟨⟨0⟩, false⟩
  after : state.1.sent = 1 → state.2 = ⟨⟨0⟩, false⟩ ∨ state.2 = ⟨⟨1⟩, true⟩

theorem Attuned.shouldShutdown {channel : Channel} {listener : Listener}
    (h : Attuned (channel, listener)) (hsent : channel.sent = 1) :
    listener.shouldShutdown channel = (true, ⟨⟨1⟩, true⟩) := by
  rcases h.after hsent with hlistener | hlistener <;> obtain rfl : listener = _ := hlistener
  · exact Listener.shouldShutdown_of_succ hsent
  · rfl

theorem Attuned.waitIsOver {channel : Channel} {listener : Listener}
    (h : Attuned (channel, listener)) (hsent : channel.sent = 1) :
    listener.waitIsOver channel = (true, ⟨⟨1⟩, true⟩) := by
  rcases h.after hsent with hlistener | hlistener <;> obtain rfl : listener = _ := hlistener
  · simp [Listener.waitIsOver, Receiver.receive, hsent]
  · rfl

theorem Touch.sent_le {state state' : Channel × Listener} (h : Touch state state') :
    state.1.sent ≤ state'.1.sent := by
  cases h with
  | send => exact Nat.le_succ _
  | look | wait => exact Nat.le_refl _

theorem Touch.attuned {state state' : Channel × Listener} (h : Touch state state')
    (hstate : Attuned state) : Attuned state' := by
  cases h with
  | send channel listener =>
    refine ⟨hstate.handles, fun hsent => ?_, fun hsent => ?_⟩
    · exact absurd hsent (Nat.succ_ne_zero _)
    · exact .inl (hstate.before (Nat.succ.inj hsent))
  | look channel listener =>
    refine ⟨hstate.handles, fun hsent => ?_, fun hsent => ?_⟩
    · obtain rfl : listener = _ := hstate.before hsent
      exact congrArg Prod.snd (Listener.shouldShutdown_of_eq hstate.handles hsent)
    · exact .inr (congrArg Prod.snd (hstate.shouldShutdown hsent))
  | wait channel listener =>
    refine ⟨hstate.handles, fun hsent => ?_, fun hsent => ?_⟩
    · obtain rfl : listener = _ := hstate.before hsent
      exact congrArg Prod.snd (Listener.waitIsOver_of_eq hstate.handles hsent)
    · exact .inr (congrArg Prod.snd (hstate.waitIsOver hsent))

theorem Touches.sent_le {state state' : Channel × Listener} (h : Touches state state') :
    state.1.sent ≤ state'.1.sent := by
  induction h with
  | refl => exact Nat.le_refl _
  | tail _ htouch ih => exact Nat.le_trans ih htouch.sent_le

theorem Touches.attuned {state state' : Channel × Listener} (h : Touches state state')
    (hstate : Attuned state) : Attuned state' := by
  induction h with
  | refl => exact hstate
  | tail _ htouch ih => exact htouch.attuned ih

end Shutdown

open Shutdown (Touch Touches Attuned)

variable {ω ν τ α β : Type}

/-- What of a scene has to do with the stop signal. -/
def Scene.signals (scene : Scene ω ν) : Shutdown.Channel × Shutdown.Listener :=
  (scene.stage.channel, scene.listener)

namespace StepM

def Orderly (work : StepM ω ν α) : Prop :=
  ∀ scene : Scene ω ν, Touches scene.signals (work.run.run scene).2.signals

theorem Orderly.touches {work : StepM ω ν α} (h : work.Orderly) {scene last : Scene ω ν}
    {result : Except Failure α} (hran : work scene = (result, last)) :
    Touches scene.signals last.signals := by
  have hlast := h scene
  rwa [ExceptT.run, StateT.run, hran] at hlast

theorem orderly_of_signals {work : StepM ω ν α}
    (h : ∀ scene, (work.run.run scene).2.signals = scene.signals) : work.Orderly :=
  fun scene => (h scene).symm ▸ .refl

theorem orderly_pure (a : α) : Orderly (pure a : StepM ω ν α) :=
  orderly_of_signals fun _ => rfl

theorem orderly_throw (failure : Failure) : Orderly (throw failure : StepM ω ν α) :=
  orderly_of_signals fun _ => rfl

theorem orderly_get : Orderly (get : StepM ω ν (Scene ω ν)) :=
  orderly_of_signals fun _ => rfl

theorem run_get_bind (next : Scene ω ν → StepM ω ν α) (scene : Scene ω ν) :
    ((get >>= next : StepM ω ν α).run.run scene) = (next scene).run.run scene := rfl

theorem Orderly.bind {work : StepM ω ν α} (h : work.Orderly) {next : α → StepM ω ν β}
    (hnext : ∀ a, (next a).Orderly) : (work >>= next).Orderly := by
  intro scene
  rcases hran : work scene with ⟨failure | a, middle⟩
  · rw [ExceptT.run, StateT.run, bind_error hran]
    exact h.touches hran
  · rw [ExceptT.run, StateT.run, bind_ok hran]
    exact (h.touches hran).trans (hnext a middle)

theorem orderly_modifyWorld (change : ω → ω) : Orderly (modifyWorld change : StepM ω ν Unit) :=
  orderly_of_signals fun _ => rfl

theorem orderly_report (operation : String) (failed : Bool) :
    Orderly (report operation failed : StepM ω ν Unit) :=
  orderly_of_signals fun _ => rfl

theorem orderly_spawn (work : ω → ω) : Orderly (spawn work : StepM ω ν Unit) :=
  orderly_of_signals fun _ => rfl

theorem orderly_doBackground (count : Nat) : Orderly (doBackground count : StepM ω ν Unit) :=
  orderly_of_signals fun _ => rfl

theorem orderly_settle : Orderly (settle : StepM ω ν Unit) :=
  orderly_get.bind fun _ => orderly_doBackground _

theorem orderly_forceStop : Orderly (forceStop : StepM ω ν Unit) :=
  fun _ => .single (.send _ _)

theorem orderly_shouldShutdown : Orderly (shouldShutdown : StepM ω ν Bool) :=
  fun _ => .single (.look _ _)

theorem Orderly.inPlace {work : StepM ω ν (Option α)} (h : work.Orderly) :
    (StepM.inPlace work).Orderly := by
  refine h.bind fun result => ?_
  cases result with
  | none => exact orderly_throw _
  | some a => exact orderly_pure a

end StepM

theorem Chain.touches_runFrom [Inhabited τ] {steps : List (Step ω ν τ)}
    (h : ∀ step ∈ steps, ∀ carried, StepM.Orderly (step.run carried)) (mode : ChainMode)
    (index : Nat) (carried : τ) (scene : Scene ω ν) :
    Touches scene.signals (runFrom mode index steps carried scene).2.signals := by
  induction steps generalizing index carried scene with
  | nil => exact .refl
  | cons step rest ih =>
    obtain ⟨hstep, hrest⟩ := List.forall_mem_cons.mp h
    have hlook : Touches scene.signals
        (scene.stage.channel, (scene.listener.shouldShutdown scene.stage.channel).2) :=
      .single (.look _ _)
    rcases hlooked : scene.listener.shouldShutdown scene.stage.channel with ⟨found, listener⟩
    rw [hlooked] at hlook
    cases found with
    | true =>
      simp only [runFrom, hlooked]
      exact hlook
    | false =>
      rcases hran : step.run (mode.input carried) { scene with listener } with
        ⟨failure | next, middle⟩
      · simp only [runFrom, hlooked, hran]
        exact hlook.trans ((hstep _).touches hran)
      · simp only [runFrom, hlooked, hran]
        exact (hlook.trans ((hstep _).touches hran)).trans (ih hrest _ _ _)

/-- All that the hooks and the steps do with the stop signal is to send it, to look for it and to
wait for it. -/
structure Suite.Orderly (suite : Suite ω ν) : Prop where
  setup : ∀ hook ∈ suite.setup, StepM.Orderly hook
  teardown : ∀ hook ∈ suite.teardown, StepM.Orderly hook
  steps : ∀ scenario ∈ suite.scenarios, ∀ step ∈ scenario.chain.steps, ∀ carried,
    StepM.Orderly (step.run carried)

theorem Suite.touches_runHook {hook : Option (StepM ω ν Unit)}
    (h : ∀ work ∈ hook, StepM.Orderly work) {scene last : Scene ω ν}
    {result : Except Failure Unit} (hran : Suite.runHook hook scene = (result, last)) :
    Touches scene.signals last.signals := by
  cases hook with
  | none =>
    cases hran
    exact .refl
  | some work => exact (h work rfl).touches hran

namespace Script

theorem orderly_runSequel (value : Int64) (sequel : Sequel) :
    StepM.Orderly (runSequel value sequel) := by
  cases sequel with
  | succeed => exact StepM.orderly_pure _
  | fail => exact StepM.orderly_throw _
  | stopAndSucceed => exact StepM.orderly_forceStop.bind fun _ => StepM.orderly_pure _
  | stopAndWait => exact StepM.orderly_forceStop.bind fun _ => StepM.orderly_pure _

theorem orderly_record (event : Event) : StepM.Orderly (record event) :=
  StepM.orderly_modifyWorld _

theorem orderly_runNested {chain : Chain Journal (List String) Int64}
    (h : ∀ step ∈ chain.steps, ∀ carried, StepM.Orderly (step.run carried)) (propagate : Bool)
    (value : Int64) : StepM.Orderly (runNested chain propagate value) := by
  refine (orderly_record _).bind fun _ scene => ?_
  have hchain : Touches scene.signals (chain.run scene).2.signals :=
    Chain.touches_runFrom h chain.mode 0 default scene
  rw [StepM.run_get_bind]
  -- the scene after the chain is the one that the rest of the step works on
  rcases hran : chain.run scene with ⟨failed | next, last⟩
  · rw [hran] at hchain
    have hrest : StepM.Orderly (ω := Journal) (ν := List String) (do
        record (.nestedFailed failed)
        if propagate then throw (.ofCause failed.toCause)
        return value) := by
      refine (orderly_record _).bind fun _ => ?_
      cases propagate with
      | true => exact (StepM.orderly_throw _).bind fun _ => StepM.orderly_pure _
      | false => exact StepM.orderly_pure _
    exact hchain.trans (hrest last)
  · rw [hran] at hchain
    exact hchain

theorem orderly_runPlain (value : Int64) (action : Action) :
    StepM.Orderly (runPlain value action) := by
  cases action with
  | add | mul | nested => exact StepM.orderly_pure _
  | event => exact (orderly_record _).bind fun _ => StepM.orderly_pure _
  | notes | scenarioName | connection | summary =>
    exact StepM.orderly_get.bind fun _ => (orderly_record _).bind fun _ => StepM.orderly_pure _
  | note => exact StepM.orderly_of_signals fun _ => rfl
  | operation => exact (StepM.orderly_report _ _).bind fun _ => StepM.orderly_pure _
  | fail => exact StepM.orderly_throw _
  | forceStop => exact StepM.orderly_forceStop.bind fun _ => StepM.orderly_pure _
  | shouldShutdown =>
    exact StepM.orderly_shouldShutdown.bind fun _ =>
      (orderly_record _).bind fun _ => StepM.orderly_pure _
  | runInPlace sequel =>
    exact ((StepM.orderly_doBackground _).bind fun _ => orderly_runSequel value sequel).inPlace
  | spawn => exact (StepM.orderly_spawn _).bind fun _ => StepM.orderly_pure _
  | settle => exact StepM.orderly_settle.bind fun _ => StepM.orderly_pure _

theorem orderly_runAction_steps :
    (∀ action value, StepM.Orderly (runAction action value)) ∧
      (∀ steps, ∀ step ∈ stepsOf steps, ∀ value, StepM.Orderly (step.run value)) ∧
      (∀ step value, StepM.Orderly ((stepOf step).run value)) ∧
      ∀ actions value, StepM.Orderly (runActions actions value) := by
  -- the recursion of the four functions, in which a nested chain holds steps of its own
  refine runAction.mutual_induct (fun action value => StepM.Orderly (runAction action value))
    (fun steps => ∀ step ∈ stepsOf steps, ∀ value, StepM.Orderly (step.run value))
    (fun step => ∀ value, StepM.Orderly ((stepOf step).run value))
    (fun actions value => StepM.Orderly (runActions actions value))
    ?nested ?plain ?noSteps ?steps ?step ?noActions ?actions
  case nested =>
    intro mode steps propagate value hsteps
    rw [runAction]
    exact orderly_runNested hsteps propagate value
  case plain =>
    intro action value hplain
    rw [runAction]
    · exact orderly_runPlain value action
    · exact hplain
  case noSteps =>
    rw [stepsOf]
    exact List.forall_mem_nil _
  case steps =>
    intro step rest hstep hrest
    rw [stepsOf]
    exact List.forall_mem_cons.2 ⟨hstep, hrest⟩
  case step =>
    intro label actions hactions value
    rw [stepOf]
    exact (orderly_record _).bind fun _ => hactions value
  case noActions =>
    intro value
    rw [runActions]
    exact StepM.orderly_pure value
  case actions =>
    intro action rest value haction hrest
    rw [runActions]
    exact haction.bind hrest

theorem Hook.orderly_run (announce : String → Event) (hook : Hook) :
    StepM.Orderly (hook.run announce) := by
  refine StepM.orderly_get.bind fun scene => (orderly_record _).bind fun _ => ?_
  by_cases hacts : (hook.only.isEmpty || hook.only.contains scene.scenario) = true
  · rw [if_pos hacts]
    exact (orderly_runAction_steps.2.2.2 _ _).bind fun _ => StepM.orderly_pure _
  · rw [if_neg hacts]
    exact StepM.orderly_pure _

/-- Every suite that is written down as data is orderly. -/
theorem orderly_suite (name : String) (setup teardown : Option Hook) (scenarios : List Scenario) :
    (suite name setup teardown scenarios).Orderly where
  setup hook hhook := by
    obtain ⟨written, -, rfl⟩ := Option.map_eq_some_iff.1 hhook
    exact written.orderly_run _
  teardown hook hhook := by
    obtain ⟨written, -, rfl⟩ := Option.map_eq_some_iff.1 hhook
    exact written.orderly_run _
  steps scenario hscenario := by
    obtain ⟨written, -, rfl⟩ := List.mem_map.1 hscenario
    exact orderly_runAction_steps.2.1 written.steps

end Script
end LedgerBench
