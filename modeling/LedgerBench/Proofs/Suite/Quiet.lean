import LedgerBench.Suite.Basic

/-! Scenes in which the stop signal has not come, and hooks and steps that do not send it. -/

namespace LedgerBench

variable {ω ν α β : Type}

/-- The channel of the stage has carried this many signals, and more can still come. -/
structure Stage.Quiet (stage : Stage ω) (sent : Nat) : Prop where
  sent : stage.channel.sent = sent
  handles : 0 < stage.channel.handles

/-- No signal has come after the first `sent` of them, which the scenario's listener has behind
it. -/
structure Scene.Quiet (scene : Scene ω ν) (sent : Nat) : Prop where
  stage : scene.stage.Quiet sent
  listener : scene.listener = ⟨⟨sent⟩, false⟩

theorem Stage.Quiet.listen {stage : Stage ω} {sent : Nat} (h : stage.Quiet sent) :
    stage.channel.listen = ⟨⟨sent⟩, false⟩ := by
  rw [← h.sent]
  rfl

theorem Stage.Quiet.shouldShutdown {stage : Stage ω} {sent : Nat} (h : stage.Quiet sent) :
    Shutdown.Listener.shouldShutdown ⟨⟨sent⟩, false⟩ stage.channel = (false, ⟨⟨sent⟩, false⟩) := by
  have hempty := Shutdown.Receiver.receive_subscribe stage.channel h.handles
  rw [Shutdown.Channel.subscribe, h.sent] at hempty
  simp [Shutdown.Listener.shouldShutdown, hempty]

theorem Stage.Quiet.open [Inhabited ν] {stage : Stage ω} {sent : Nat} (h : stage.Quiet sent)
    (name : String) : Scene.Quiet (stage.open name : Scene ω ν) sent :=
  ⟨h, h.listen⟩

namespace StepM

/-- Wherever no signal has come, none has come afterwards either, however the work ends. -/
def AsksNoStop (work : StepM ω ν α) : Prop :=
  ∀ (sent : Nat) (scene : Scene ω ν), scene.Quiet sent → (work.run.run scene).2.Quiet sent

theorem AsksNoStop.quiet {work : StepM ω ν α} (h : work.AsksNoStop) {sent : Nat}
    {scene last : Scene ω ν} {result : Except Failure α} (hquiet : scene.Quiet sent)
    (hran : work scene = (result, last)) : last.Quiet sent := by
  have hlast := h sent scene hquiet
  rwa [ExceptT.run, StateT.run, hran] at hlast

theorem asksNoStop_throw (failure : Failure) : AsksNoStop (throw failure : StepM ω ν α) :=
  fun _ _ h => h

theorem asksNoStop_modifyWorld (change : ω → ω) :
    AsksNoStop (modifyWorld change : StepM ω ν Unit) :=
  fun _ _ h => ⟨⟨h.stage.sent, h.stage.handles⟩, h.listener⟩

theorem AsksNoStop.bind {work : StepM ω ν α} (h : work.AsksNoStop) {next : α → StepM ω ν β}
    (hnext : ∀ a, (next a).AsksNoStop) : (work >>= next).AsksNoStop := by
  intro sent scene hquiet
  rcases hran : work scene with ⟨failure | a, middle⟩
  · rw [ExceptT.run, StateT.run, bind_error hran]
    exact h.quiet hquiet hran
  · rw [ExceptT.run, StateT.run, bind_ok hran]
    exact hnext a sent middle (h.quiet hquiet hran)

theorem AsksNoStop.inContext {work : StepM ω ν α} (h : work.AsksNoStop) (context : String) :
    (StepM.inContext context work).AsksNoStop :=
  fun sent scene hquiet => h sent scene hquiet

end StepM

/-- No hook and no step of the suite asks for a stop. -/
structure Suite.AsksNoStop (suite : Suite ω ν) : Prop where
  setup : ∀ hook ∈ suite.setup, StepM.AsksNoStop hook
  teardown : ∀ hook ∈ suite.teardown, StepM.AsksNoStop hook
  steps : ∀ scenario ∈ suite.scenarios, ∀ step ∈ scenario.chain.steps, ∀ carried,
    StepM.AsksNoStop (step.run carried)

theorem Suite.quiet_of_runHook {hook : Option (StepM ω ν Unit)}
    (h : ∀ work ∈ hook, StepM.AsksNoStop work) {sent : Nat} {scene last : Scene ω ν}
    {result : Except Failure Unit} (hquiet : scene.Quiet sent)
    (hran : Suite.runHook hook scene = (result, last)) : last.Quiet sent := by
  cases hook with
  | none =>
    cases hran
    exact hquiet
  | some work => exact (h work rfl).quiet hquiet hran

end LedgerBench
