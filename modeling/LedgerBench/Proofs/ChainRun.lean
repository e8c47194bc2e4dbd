import LedgerBench.Proofs.Suite.Quiet

/-! What a run of a chain executes. Each execution of a step is noted beside the scenario's own
value, so the notes of a run tell which steps ran, in which order, on which values and in which
scenes, and noting changes nothing else about the run. -/

namespace LedgerBench

variable {ω ν τ : Type}

/-- One execution of a step: its place in the chain, what it got and in which scene, and how it
ended. -/
structure Visit (ω ν τ : Type) where
  index : Nat
  input : τ
  before : Scene ω ν
  result : Except Failure τ
  after : Scene ω ν

def Visit.outputs (visits : List (Visit ω ν τ)) : List τ :=
  visits.filterMap fun visit => visit.result.toOption

namespace Scene

/-- The look for the stop signal before a step, and the scene after it. -/
def look (scene : Scene ω ν) : Bool × Scene ω ν :=
  let (stop, listener) := scene.listener.shouldShutdown scene.stage.channel
  (stop, { scene with listener })

def noting (scene : Scene ω ν) (visits : List (Visit ω ν τ)) :
    Scene ω (ν × List (Visit ω ν τ)) :=
  ⟨scene.stage, scene.scenario, scene.listener, scene.value, visits⟩

def noted (scene : Scene ω (ν × List (Visit ω ν τ))) : Scene ω ν :=
  ⟨scene.stage, scene.scenario, scene.listener, scene.value.1⟩

theorem look_noting {scene after : Scene ω ν} {stop : Bool} (h : scene.look = (stop, after))
    (visits : List (Visit ω ν τ)) : (scene.noting visits).look = (stop, after.noting visits) := by
  cases h
  rfl

theorem Quiet.look {scene : Scene ω ν} {sent : Nat} (h : scene.Quiet sent) :
    scene.look = (false, scene) := by
  obtain ⟨stage, name, listener, value⟩ := scene
  obtain ⟨hstage, rfl⟩ := h
  simp only [Scene.look, hstage.shouldShutdown]

end Scene

/-- The step, noting each of its executions. -/
def Step.noting (step : Step ω ν τ) (index : Nat) : Step ω (ν × List (Visit ω ν τ)) τ where
  label := step.label
  run input := fun scene =>
    let (result, after) := step.run input scene.noted
    (result, after.noting (scene.value.2 ++ [⟨index, input, scene.noted, result, after⟩]))

theorem Step.run_noting {step : Step ω ν τ} {input : τ} {before after : Scene ω ν}
    {result : Except Failure τ} (h : step.run input before = (result, after)) (index : Nat)
    (visits : List (Visit ω ν τ)) :
    (step.noting index).run input (before.noting visits) =
      (result, after.noting (visits ++ [⟨index, input, before, result, after⟩])) := by
  have hbefore : (before.noting visits).noted = before := rfl
  simp only [Step.noting, hbefore, h]
  rfl

/-- A failure of steps that others stand before. -/
def StepFailure.after (failed : StepFailure) (count : Nat) : StepFailure :=
  { failed with index := count + failed.index }

namespace Chain

def notingFrom : Nat → List (Step ω ν τ) → List (Step ω (ν × List (Visit ω ν τ)) τ)
  | _, [] => []
  | index, step :: rest => step.noting index :: notingFrom (index + 1) rest

def noting (chain : Chain ω ν τ) : Chain ω (ν × List (Visit ω ν τ)) τ :=
  ⟨chain.mode, notingFrom 0 chain.steps⟩

theorem notingFrom_append (index : Nat) (xs ys : List (Step ω ν τ)) :
    notingFrom index (xs ++ ys) = notingFrom index xs ++ notingFrom (index + xs.length) ys := by
  induction xs generalizing index with
  | nil => rfl
  | cons step rest ih =>
    simp only [List.cons_append, notingFrom, ih, List.length_cons]
    rw [Nat.add_right_comm, Nat.add_assoc]

@[simp] theorem length_notingFrom (index : Nat) (steps : List (Step ω ν τ)) :
    (notingFrom index steps).length = steps.length := by
  induction steps generalizing index with
  | nil => rfl
  | cons step rest ih => simp only [notingFrom, List.length_cons, ih]

variable [Inhabited τ]

/-- Steps that all succeed, where no look before any of them finds the signal. The scene and what a
step gave go on to the next one. -/
inductive Succeeds (mode : ChainMode) : Nat → List (Step ω ν τ) → τ → Scene ω ν →
    List (Visit ω ν τ) → τ → Scene ω ν → Prop
  | nil {index : Nat} {carried : τ} {scene : Scene ω ν} :
      Succeeds mode index [] carried scene [] carried scene
  | cons {index : Nat} {step : Step ω ν τ} {rest : List (Step ω ν τ)} {carried given output : τ}
      {scene ready middle last : Scene ω ν} {visits : List (Visit ω ν τ)}
      (look : scene.look = (false, ready))
      (succeeds : step.run (mode.input carried) ready = (.ok given, middle))
      (others : Succeeds mode (index + 1) rest given middle visits output last) :
      Succeeds mode index (step :: rest) carried scene
        (⟨index, mode.input carried, ready, .ok given, middle⟩ :: visits) output last

/-- How steps come to an end: after the last one, in the first one that fails, or before the first
one at which the signal is found. The steps before that one have succeeded, and no other has run. -/
inductive Ends (mode : ChainMode) (index : Nat) (steps : List (Step ω ν τ)) (carried : τ)
    (scene : Scene ω ν) : List (Visit ω ν τ) → Except StepFailure τ → Scene ω ν → Prop
  | finished {visits : List (Visit ω ν τ)} {output : τ} {last : Scene ω ν}
      (all : Succeeds mode index steps carried scene visits output last) :
      Ends mode index steps carried scene visits (.ok output) last
  | failed {done rest : List (Step ω ν τ)} {step : Step ω ν τ} {visits : List (Visit ω ν τ)}
      {given : τ} {middle ready last : Scene ω ν} {failure : Failure}
      (split : steps = done ++ step :: rest)
      (before : Succeeds mode index done carried scene visits given middle)
      (look : middle.look = (false, ready))
      (fails : step.run (mode.input given) ready = (.error failure, last)) :
      Ends mode index steps carried scene
        (visits ++ [⟨index + done.length, mode.input given, ready, .error failure, last⟩])
        (.error ⟨index + done.length, step.label, failure⟩) last
  | stopped {done rest : List (Step ω ν τ)} {step : Step ω ν τ} {visits : List (Visit ω ν τ)}
      {given : τ} {middle last : Scene ω ν}
      (split : steps = done ++ step :: rest)
      (before : Succeeds mode index done carried scene visits given middle)
      (look : middle.look = (true, last)) :
      Ends mode index steps carried scene visits
        (.error ⟨index + done.length, step.label, .ofCause .cancelled⟩) last

theorem runFrom_cons (mode : ChainMode) (index : Nat) (step : Step ω ν τ)
    (rest : List (Step ω ν τ)) (carried : τ) (scene : Scene ω ν) :
    runFrom mode index (step :: rest) carried scene =
      match scene.look with
      | (true, told) => (.error ⟨index, step.label, .ofCause .cancelled⟩, told)
      | (false, ready) =>
        match step.run (mode.input carried) ready with
        | (.ok next, scene) => runFrom mode (index + 1) rest next scene
        | (.error failure, scene) => (.error ⟨index, step.label, failure⟩, scene) := by
  rw [runFrom, Scene.look]
  rcases scene.listener.shouldShutdown scene.stage.channel with ⟨stop, listener⟩
  cases stop <;> rfl

namespace Succeeds

variable {mode : ChainMode} {index : Nat} {steps : List (Step ω ν τ)} {carried output : τ}
  {scene last : Scene ω ν} {visits : List (Visit ω ν τ)}

theorem runFrom_append (h : Succeeds mode index steps carried scene visits output last)
    (rest : List (Step ω ν τ)) :
    runFrom mode index (steps ++ rest) carried scene =
      runFrom mode (index + steps.length) rest output last := by
  induction h with
  | nil => rfl
  | cons look succeeds others ih =>
    simp only [List.cons_append, runFrom_cons, look, succeeds, ih, List.length_cons]
    rw [Nat.add_right_comm, Nat.add_assoc]

/-- Where the steps note what they do, they note these visits. -/
theorem noting (h : Succeeds mode index steps carried scene visits output last)
    (past : List (Visit ω ν τ)) :
    ∃ noted, Succeeds mode index (notingFrom index steps) carried (scene.noting past) noted output
      (last.noting (past ++ visits)) := by
  induction h generalizing past with
  | nil => exact ⟨[], by simpa only [List.append_nil] using .nil⟩
  | cons look succeeds others ih =>
    obtain ⟨noted, hnoted⟩ := ih (past ++ [⟨_, _, _, _, _⟩])
    rw [List.append_assoc, List.singleton_append] at hnoted
    exact ⟨_, .cons (Scene.look_noting look past) (Step.run_noting succeeds _ past) hnoted⟩

theorem length_eq (h : Succeeds mode index steps carried scene visits output last) :
    visits.length = steps.length := by
  induction h with
  | nil => rfl
  | cons look succeeds others ih => simp only [List.length_cons, ih]

theorem indices (h : Succeeds mode index steps carried scene visits output last) :
    visits.map Visit.index = List.range' index visits.length := by
  induction h with
  | nil => rfl
  | cons look succeeds others ih =>
    rw [List.map_cons, ih, List.length_cons, List.range'_succ]

theorem inputs_waterfall
    (h : Succeeds .waterfall index steps carried scene visits output last) :
    visits.map Visit.input ++ [output] = carried :: Visit.outputs visits := by
  induction h with
  | nil => rfl
  | cons look succeeds others ih =>
    rw [List.map_cons, List.cons_append, ih]
    rfl

theorem inputs_series (h : Succeeds .series index steps carried scene visits output last) :
    ∀ visit ∈ visits, visit.input = default := by
  induction h with
  | nil => simp
  | cons look succeeds others ih =>
    intro visit hvisit
    rcases List.mem_cons.mp hvisit with rfl | hvisit
    · rfl
    · exact ih visit hvisit

theorem output_eq (h : Succeeds mode index steps carried scene visits output last) :
    output = (Visit.outputs visits).getLast?.getD carried := by
  induction h with
  | nil => rfl
  | @cons index _ _ carried given _ _ ready middle _ visits look succeeds others ih =>
    have houtputs : Visit.outputs
        (⟨index, mode.input carried, ready, .ok given, middle⟩ :: visits) =
          given :: Visit.outputs visits := rfl
    rw [houtputs, List.getLast?_cons, Option.getD_some, ← ih]

theorem quiet (h : Succeeds mode index steps carried scene visits output last) {sent : Nat}
    (hsteps : ∀ step ∈ steps, ∀ input, StepM.AsksNoStop (step.run input))
    (hquiet : scene.Quiet sent) : last.Quiet sent := by
  induction h with
  | nil => exact hquiet
  | cons look succeeds others ih =>
    obtain ⟨hstep, hrest⟩ := List.forall_mem_cons.mp hsteps
    rw [hquiet.look] at look
    cases look
    exact ih hrest ((hstep _).quiet hquiet succeeds)

end Succeeds

namespace Ends

variable {mode : ChainMode} {index : Nat} {steps : List (Step ω ν τ)} {carried : τ}
  {scene last : Scene ω ν} {visits : List (Visit ω ν τ)} {result : Except StepFailure τ}

theorem cons {step : Step ω ν τ} {given : τ} {before ready middle : Scene ω ν}
    (look : before.look = (false, ready))
    (succeeds : step.run (mode.input carried) ready = (.ok given, middle))
    (h : Ends mode (index + 1) steps given middle visits result last) :
    Ends mode index (step :: steps) carried before
      (⟨index, mode.input carried, ready, .ok given, middle⟩ :: visits) result last := by
  have hplace (done : List (Step ω ν τ)) :
      index + 1 + done.length = index + (step :: done).length := by
    simp only [List.length_cons]
    omega
  cases h with
  | finished all => exact .finished (.cons look succeeds all)
  | failed split others looked fails =>
    rw [hplace]
    exact .failed (congrArg (step :: ·) split) (.cons look succeeds others) looked fails
  | stopped split others looked =>
    rw [hplace]
    exact .stopped (congrArg (step :: ·) split) (.cons look succeeds others) looked

theorem exists_of (mode : ChainMode) (index : Nat) (steps : List (Step ω ν τ)) (carried : τ)
    (scene : Scene ω ν) : ∃ visits result last, Ends mode index steps carried scene visits result
      last := by
  induction steps generalizing index carried scene with
  | nil => exact ⟨[], .ok carried, scene, .finished .nil⟩
  | cons step rest ih =>
    rcases hlook : scene.look with ⟨_ | _, ready⟩
    · rcases hran : step.run (mode.input carried) ready with ⟨failure | given, middle⟩
      · exact ⟨_, _, middle, .failed rfl .nil hlook hran⟩
      · obtain ⟨visits, result, last, hends⟩ := ih (index + 1) given middle
        exact ⟨_, result, last, hends.cons hlook hran⟩
    · exact ⟨[], _, ready, .stopped rfl .nil hlook⟩

theorem runFrom_eq (h : Ends mode index steps carried scene visits result last) :
    runFrom mode index steps carried scene = (result, last) := by
  cases h with
  | finished all =>
    have hrun := all.runFrom_append []
    rwa [List.append_nil, runFrom_nil] at hrun
  | failed split before look fails =>
    simp only [split, before.runFrom_append, runFrom_cons, look, fails]
  | stopped split before look =>
    simp only [split, before.runFrom_append, runFrom_cons, look]

/-- Where the steps note what they do, they end alike and note these visits. -/
theorem noting (h : Ends mode index steps carried scene visits result last)
    (past : List (Visit ω ν τ)) :
    ∃ noted, Ends mode index (notingFrom index steps) carried (scene.noting past) noted result
      (last.noting (past ++ visits)) := by
  cases h with
  | finished all =>
    obtain ⟨noted, hnoted⟩ := all.noting past
    exact ⟨noted, .finished hnoted⟩
  | failed split before look fails =>
    obtain ⟨noted, hnoted⟩ := before.noting past
    have hsplit := (congrArg (notingFrom index) split).trans (notingFrom_append index _ _)
    have hends := Ends.failed hsplit hnoted (Scene.look_noting look _)
      (Step.run_noting fails _ _)
    rw [length_notingFrom, List.append_assoc] at hends
    exact ⟨_, hends⟩
  | stopped split before look =>
    obtain ⟨noted, hnoted⟩ := before.noting past
    have hsplit := (congrArg (notingFrom index) split).trans (notingFrom_append index _ _)
    have hends := Ends.stopped hsplit hnoted (Scene.look_noting look _)
    rw [length_notingFrom] at hends
    exact ⟨noted, hends⟩

theorem indices (h : Ends mode index steps carried scene visits result last) :
    visits.map Visit.index = List.range' index visits.length := by
  cases h with
  | finished all => exact all.indices
  | failed split before look fails =>
    rw [List.map_append, before.indices, before.length_eq, List.length_append, before.length_eq,
      List.length_singleton, List.range'_concat, Nat.one_mul]
    rfl
  | stopped split before look => exact before.indices

theorem inputs_waterfall (h : Ends .waterfall index steps carried scene visits result last) :
    visits.map Visit.input = (carried :: Visit.outputs visits).take visits.length := by
  cases h with
  | finished all => rw [← all.inputs_waterfall, List.take_left' (List.length_map _)]
  | stopped split before look =>
    rw [← before.inputs_waterfall, List.take_left' (List.length_map _)]
  | @failed _ _ _ visits given _ _ _ failure split before look fails =>
    -- the failed step gives nothing, so its input is the last thing given
    have houtputs (visit : Visit ω ν τ) (hfailed : visit.result = .error failure) :
        Visit.outputs (visits ++ [visit]) = Visit.outputs visits := by
      simp [Visit.outputs, hfailed, Except.toOption]
    have hlength : (visits.map Visit.input ++ [given]).length = visits.length + 1 := by simp
    rw [houtputs _ rfl, ← before.inputs_waterfall, List.map_append, List.length_append,
      List.length_singleton, List.take_of_length_le (Nat.le_of_eq hlength)]
    rfl

theorem inputs_series (h : Ends .series index steps carried scene visits result last) :
    ∀ visit ∈ visits, visit.input = default := by
  cases h with
  | finished all => exact all.inputs_series
  | failed split before look fails =>
    intro visit hvisit
    rcases List.mem_append.mp hvisit with hvisit | hvisit
    · exact before.inputs_series visit hvisit
    · rw [List.mem_singleton.mp hvisit]
      rfl
  | stopped split before look => exact before.inputs_series

theorem output_eq {output : τ} (h : Ends mode index steps carried scene visits (.ok output) last) :
    output = (Visit.outputs visits).getLast?.getD carried := by
  cases h with
  | finished all => exact all.output_eq

theorem failure_of_quiet {failed : StepFailure} {sent : Nat}
    (h : Ends mode index steps carried scene visits (.error failed) last)
    (hsteps : ∀ step ∈ steps, ∀ input, StepM.AsksNoStop (step.run input))
    (hquiet : scene.Quiet sent) :
    ∃ visit, visits.getLast? = some visit ∧ visit.index = failed.index ∧
      visit.result = .error failed.failure := by
  cases h with
  | failed split before look fails =>
    exact ⟨_, List.getLast?_concat .., rfl, rfl⟩
  | stopped split before look =>
    rw [split] at hsteps
    have hmiddle := before.quiet (List.forall_mem_append.mp hsteps).1 hquiet
    rw [hmiddle.look] at look
    cases look

end Ends

theorem runFrom_after (mode : ChainMode) (count index : Nat) (steps : List (Step ω ν τ))
    (carried : τ) (scene : Scene ω ν) :
    runFrom mode (count + index) steps carried scene =
      ((runFrom mode index steps carried scene).1.mapError (·.after count),
        (runFrom mode index steps carried scene).2) := by
  induction steps generalizing index carried scene with
  | nil => rfl
  | cons step rest ih =>
    rcases hlook : scene.look with ⟨_ | _, ready⟩
    · rcases hran : step.run (mode.input carried) ready with ⟨failure | given, middle⟩
      · simp only [runFrom_cons, hlook, hran]
        rfl
      · simp only [runFrom_cons, hlook, hran]
        exact ih (index + 1) given middle
    · simp only [runFrom_cons, hlook]
      rfl

/-- Steps after others start from what those gave; their places are counted from there. -/
theorem run_append (mode : ChainMode) (xs ys : List (Step ω ν τ)) (scene : Scene ω ν) :
    (⟨mode, xs ++ ys⟩ : Chain ω ν τ).run scene =
      match (⟨mode, xs⟩ : Chain ω ν τ).run scene with
      | (.ok given, middle) =>
        ((runFrom mode 0 ys given middle).1.mapError (·.after xs.length),
          (runFrom mode 0 ys given middle).2)
      | (.error failed, last) => (.error failed, last) := by
  simp only [run, runFrom_append, Nat.zero_add]
  rcases runFrom mode 0 xs default scene with ⟨failed | given, middle⟩
  · rfl
  · exact runFrom_after mode xs.length 0 ys given middle

/-- What the visits of a run tell: each step that ran did so once, in its place, and got the default
value or, in a waterfall, what the one before it gave. Where nobody asks for a stop, a failure is
that of the last one. -/
structure Ran (chain : Chain ω ν τ) (scene : Scene ω ν) (visits : List (Visit ω ν τ))
    (result : Except StepFailure τ) : Prop where
  inOrder : visits.map Visit.index = List.range visits.length
  waterfall : chain.mode = .waterfall →
    visits.map Visit.input = (default :: Visit.outputs visits).take visits.length
  series : chain.mode = .series → ∀ visit ∈ visits, visit.input = default
  output : ∀ given, result = .ok given → given = (Visit.outputs visits).getLast?.getD default
  unasked : ∀ sent, scene.Quiet sent →
    (∀ step ∈ chain.steps, ∀ input, StepM.AsksNoStop (step.run input)) →
    ∀ failed, result = .error failed → ∃ visit, visits.getLast? = some visit ∧
      visit.index = failed.index ∧ visit.result = .error failed.failure

theorem Ends.ran {chain : Chain ω ν τ} {scene last : Scene ω ν} {visits : List (Visit ω ν τ)}
    {result : Except StepFailure τ}
    (h : Ends chain.mode 0 chain.steps default scene visits result last) :
    chain.Ran scene visits result where
  inOrder := h.indices.trans List.range_eq_range'.symm
  waterfall hmode := by
    rw [hmode] at h
    exact h.inputs_waterfall
  series hmode := by
    rw [hmode] at h
    exact h.inputs_series
  output given hgiven := by
    subst hgiven
    exact h.output_eq
  unasked sent hquiet hsteps failed hfailed := by
    subst hfailed
    exact h.failure_of_quiet hsteps hquiet

/-- The steps of a chain come to an end in one of the three ways, and the run ends that way. A chain
that notes its visits ends as it does without the notes, and the notes are those of the steps that
have run: each once, in its place, until one fails or the signal is found. -/
theorem run_law (chain : Chain ω ν τ) (scene : Scene ω ν) :
    (∃ visits result last, Ends chain.mode 0 chain.steps default scene visits result last) ∧
    (∀ visits result last, Ends chain.mode 0 chain.steps default scene visits result last →
      chain.run scene = (result, last) ∧
      chain.noting.run (scene.noting []) = (result, last.noting visits) ∧
      chain.Ran scene visits result) ∧
    ∀ xs ys, chain.steps = xs ++ ys →
      chain.run scene =
        match (⟨chain.mode, xs⟩ : Chain ω ν τ).run scene with
        | (.ok given, middle) =>
          ((runFrom chain.mode 0 ys given middle).1.mapError (·.after xs.length),
            (runFrom chain.mode 0 ys given middle).2)
        | (.error failed, last) => (.error failed, last) := by
  refine ⟨Ends.exists_of chain.mode 0 chain.steps default scene, ?_, ?_⟩
  · intro visits result last hends
    obtain ⟨noted, hnoted⟩ := hends.noting []
    exact ⟨hends.runFrom_eq, hnoted.runFrom_eq, hends.ran⟩
  · intro xs ys hsplit
    rw [← run_append, ← hsplit]

/-- Three steps, of which the second fails. -/
def halted : Chain Unit Unit Nat :=
  ⟨.waterfall, [⟨"start", fun n => pure (n + 1)⟩, ⟨"halt", fun _ => throw (.plain "no")⟩,
    ⟨"record", fun n => pure n⟩]⟩

/-- A scene in which nobody has asked for a stop. -/
def calm : Scene Unit Unit :=
  Stage.open ⟨⟨0, 1⟩, .start false, "", [], ()⟩ "calm"

theorem halted_law : ∃ visits last,
    Ends .waterfall 0 halted.steps 0 calm visits (.error ⟨1, "halt", .plain "no"⟩) last ∧
      halted.run calm = (.error ⟨1, "halt", .plain "no"⟩, last) ∧
      visits.map Visit.input = [0, 1] ∧
      ∃ visit, visits.getLast? = some visit ∧ visit.index = 1 ∧
        visit.result = .error (.plain "no") := by
  obtain ⟨⟨visits, result, last, hends⟩, hall, -⟩ := run_law halted calm
  obtain ⟨hrun, hnoting, hran⟩ := hall visits result last hends
  have hresult : result = .error ⟨1, "halt", .plain "no"⟩ := (congrArg Prod.fst hrun).symm
  have hvisits : visits = (halted.noting.run (calm.noting [])).2.value.2 := by
    rw [hnoting]
    rfl
  have hquiet : calm.Quiet 0 := Stage.Quiet.open ⟨rfl, by decide⟩ "calm"
  have hsteps : ∀ step ∈ halted.steps, ∀ input, StepM.AsksNoStop (step.run input) := by
    intro step hstep input
    simp only [halted, List.mem_cons, List.not_mem_nil, or_false] at hstep
    rcases hstep with rfl | rfl | rfl
    · exact fun _ _ h => h
    · exact StepM.asksNoStop_throw _
    · exact fun _ _ h => h
  subst hresult
  refine ⟨visits, last, hends, hrun, ?_, hran.unasked 0 hquiet hsteps _ rfl⟩
  rw [hvisits]
  rfl

end Chain
end LedgerBench
