import LedgerBench.Proofs.Suite.Performance
import LedgerBench.Proofs.Suite.Quiet
import Mathlib.Data.List.Infix
import Mathlib.Data.List.Nodup

/-! A suite that is never asked to stop is refused for a name that stands twice and is performed
otherwise. -/

namespace LedgerBench

/-! ### The names and the filter -/

theorem Text.occursIn_iff (part text : List Char) :
    Text.occursIn part text = true ↔ part <:+: text := by
  induction text with
  | nil => simp [Text.occursIn]
  | cons c rest ih => simp [Text.occursIn, List.infix_cons_iff, ih]

/-- Nothing is found exactly when the names are distinct, from each other and from those that were
seen before. -/
theorem firstRepeated_eq_none_iff {seen names : List String} (hseen : seen.Nodup) :
    firstRepeated seen names = none ↔ (seen ++ names).Nodup := by
  induction names generalizing seen with
  | nil => simp [firstRepeated, hseen]
  | cons name rest ih =>
    by_cases h : name ∈ seen
    · have hrepeated : ¬(seen ++ name :: rest).Nodup := fun hnodup =>
        (List.nodup_append'.mp hnodup).2.2 h List.mem_cons_self
      simp [firstRepeated, h, hrepeated]
    · have hseen' : (name :: seen).Nodup := List.nodup_cons.mpr ⟨h, hseen⟩
      -- a name that is new goes over to those seen before
      rw [firstRepeated, if_neg (by simpa using h), ih hseen', List.cons_append]
      exact List.perm_middle.symm.nodup_iff

theorem firstRepeated_eq_some {seen names : List String} {name : String}
    (h : firstRepeated seen names = some name) :
    ∃ earlier later, names = earlier ++ name :: later ∧ name ∈ seen ++ earlier ∧
      firstRepeated seen earlier = none := by
  induction names generalizing seen with
  | nil => cases h
  | cons first rest ih =>
    rw [firstRepeated] at h
    by_cases hfirst : seen.contains first
    · rw [if_pos hfirst] at h
      cases h
      exact ⟨[], rest, rfl, by simpa using hfirst, rfl⟩
    · rw [if_neg hfirst] at h
      obtain ⟨earlier, later, rfl, hmem, hnone⟩ := ih h
      refine ⟨first :: earlier, later, rfl, ?_, ?_⟩
      · exact List.perm_middle.symm.mem_iff.mp hmem
      · rw [firstRepeated, if_neg hfirst, hnone]

theorem firstRepeated_of_not_nodup {names : List String} (h : ¬names.Nodup) :
    ∃ earlier name later, names = earlier ++ name :: later ∧ earlier.Nodup ∧ name ∈ earlier ∧
      firstRepeated [] names = some name := by
  have hsome : firstRepeated [] names ≠ none := by
    rwa [Ne, firstRepeated_eq_none_iff List.nodup_nil]
  obtain ⟨name, hname⟩ := Option.ne_none_iff_exists'.mp hsome
  obtain ⟨earlier, later, hnames, hmem, hnone⟩ := firstRepeated_eq_some hname
  exact ⟨earlier, name, later, hnames, (firstRepeated_eq_none_iff List.nodup_nil).mp hnone, hmem,
    hname⟩

/-- What is selected are the scenarios whose names contain the text of the filter. -/
theorem Suite.selected_eq {ω ν : Type} (suite : Suite ω ν) (filter : Option String) :
    suite.selected filter = suite.scenarios.filter fun scenario =>
      decide (∀ part ∈ filter, part.toList <:+: scenario.name.toList) := by
  unfold Suite.selected
  congr 1
  funext scenario
  cases filter with
  | none => simp
  | some part =>
    rw [Bool.eq_iff_iff, Text.occursIn_iff]
    simp

/-! ### The run -/

variable {ω ν τ : Type} {sent : Nat}

def StepFailure.noted (failed : StepFailure) : String × Failure := (failed.label, failed.failure)

namespace Chain

variable [Inhabited τ]

def failureOf : Except StepFailure τ → Option StepFailure
  | .ok _ => none
  | .error failed => some failed

theorem runFrom_of_ok {scene middle : Scene ω ν} (hquiet : scene.Quiet sent) {mode : ChainMode}
    {step : Step ω ν τ} {carried given : τ}
    (hran : step.run (mode.input carried) scene = (.ok given, middle)) (index : Nat)
    (rest : List (Step ω ν τ)) :
    runFrom mode index (step :: rest) carried scene =
      runFrom mode (index + 1) rest given middle := by
  obtain ⟨stage, name, listener, value⟩ := scene
  obtain ⟨hstage, rfl⟩ := hquiet
  simp only [runFrom, hstage.shouldShutdown, hran]

theorem runFrom_of_error {scene last : Scene ω ν} (hquiet : scene.Quiet sent) {mode : ChainMode}
    {step : Step ω ν τ} {carried : τ} {failure : Failure}
    (hran : step.run (mode.input carried) scene = (.error failure, last)) (index : Nat)
    (rest : List (Step ω ν τ)) :
    runFrom mode index (step :: rest) carried scene =
      (.error ⟨index, step.label, failure⟩, last) := by
  obtain ⟨stage, name, listener, value⟩ := scene
  obtain ⟨hstage, rfl⟩ := hquiet
  simp only [runFrom, hstage.shouldShutdown, hran]

theorem stepsRun_runFrom {steps : List (Step ω ν τ)} {scene : Scene ω ν}
    (hsteps : ∀ step ∈ steps, ∀ carried, StepM.AsksNoStop (step.run carried))
    (hquiet : scene.Quiet sent) (mode : ChainMode) (index : Nat) (carried : τ) :
    ∃ result labels last, runFrom mode index steps carried scene = (result, last) ∧
      last.Quiet sent ∧
      StepsRun mode steps carried scene labels ((failureOf result).map StepFailure.noted) last := by
  -- each step hands a quiet scene to the next, so the listener stays as it was
  induction steps generalizing scene index carried with
  | nil => exact ⟨.ok carried, [], scene, rfl, hquiet, .finished⟩
  | cons step rest ih =>
    obtain ⟨hstep, hrest⟩ := List.forall_mem_cons.mp hsteps
    rcases hran : step.run (mode.input carried) scene with ⟨failure | given, middle⟩
    · exact ⟨.error ⟨index, step.label, failure⟩, [step.label], middle,
        runFrom_of_error hquiet hran index rest, (hstep _).quiet hquiet hran, .failed hran⟩
    · obtain ⟨result, labels, last, hlater, hlast, hruns⟩ :=
        ih hrest ((hstep _).quiet hquiet hran) (index + 1) given
      exact ⟨result, step.label :: labels, last,
        (runFrom_of_ok hquiet hran index rest).trans hlater, hlast, .next hran hruns⟩

end Chain

theorem Scenario.stepsRun_run {scenario : Scenario ω ν} {scene : Scene ω ν}
    (hsteps : ∀ step ∈ scenario.chain.steps, ∀ carried, StepM.AsksNoStop (step.run carried))
    (hquiet : scene.Quiet sent) :
    ∃ failed labels last, scenario.run scene = (failed, last) ∧ last.Quiet sent ∧
      StepsRun scenario.chain.mode scenario.chain.steps default scene labels
        (failed.map StepFailure.noted) last := by
  obtain ⟨result, labels, last, hrun, hlast, hruns⟩ :=
    Chain.stepsRun_runFrom hsteps hquiet scenario.chain.mode 0 default
  refine ⟨Chain.failureOf result, labels, last, ?_, hlast, hruns⟩
  rw [← Chain.run] at hrun
  cases result <;> simp only [Scenario.run, hrun, Chain.failureOf]

namespace Suite

variable [Inhabited ν] {suite : Suite ω ν}

theorem plays_runScenario (h : suite.AsksNoStop) {scenario : Scenario ω ν}
    (hmem : scenario ∈ suite.scenarios) {stage : Stage ω} (hquiet : stage.Quiet sent) :
    ∃ works failed last, suite.runScenario scenario stage = (failed, last) ∧ last.Quiet sent ∧
      suite.Plays scenario stage works (failed.map StepFailure.noted) last := by
  have hopen : Scene.Quiet (stage.open scenario.name : Scene ω ν) sent := hquiet.open scenario.name
  rcases hsetup : runHook suite.setup (stage.open scenario.name) with ⟨failure | ⟨⟩, ready⟩
  · rcases hteardown : runHook suite.teardown ready with ⟨closing, last⟩
    have hready := quiet_of_runHook h.setup hopen hsetup
    have hlast := quiet_of_runHook h.teardown hready hteardown
    refine ⟨_, some ⟨0, "setup", failure⟩, last.stage, ?_, hlast.stage,
      .setupFailed (hookRuns_of_runHook _ hsetup) (hookRuns_of_runHook _ hteardown)⟩
    simp only [runScenario, runMain, hsetup, hteardown]
  · have hready := quiet_of_runHook h.setup hopen hsetup
    obtain ⟨failed, labels, done, hrun, hdone, hruns⟩ :=
      Scenario.stepsRun_run (h.steps scenario hmem) hready
    rcases hteardown : runHook suite.teardown done with ⟨closing, last⟩
    have hlast := quiet_of_runHook h.teardown hdone hteardown
    refine ⟨_, failed, last.stage, ?_, hlast.stage,
      .ran (hookRuns_of_runHook _ hsetup) hruns (hookRuns_of_runHook _ hteardown)⟩
    simp only [runScenario, runMain, hsetup, hrun, hteardown]

theorem runEach_cons {scenario : Scenario ω ν} {rest : List (Scenario ω ν)}
    {stage middle last : Stage ω} {failed : Option StepFailure} {reports : List ScenarioReport}
    (hquiet : stage.Quiet sent) (hplayed : suite.runScenario scenario stage = (failed, middle))
    (hrest : suite.runEach rest ⟨⟨sent⟩, false⟩ (abortOf failed) middle = (reports, last)) :
    suite.runEach (scenario :: rest) ⟨⟨sent⟩, false⟩ none stage =
      (⟨scenario.name, outcomeOf failed, 0⟩ :: reports, last) := by
  simp only [runEach, hquiet.shouldShutdown, hplayed, hrest]

theorem runEach_skipping (suite : Suite ω ν) (scenarios : List (Scenario ω ν))
    (listener : Shutdown.Listener) (reason : String) (stage : Stage ω) :
    suite.runEach scenarios listener (some reason) stage =
      (scenarios.map fun other => ⟨other.name, .skipped reason, 0⟩, stage) := by
  induction scenarios with
  | nil => rfl
  | cons scenario rest ih => simp only [runEach, ih, List.map_cons]

theorem abortOf_eq_some_iff {failed : Option StepFailure} {reason : String} :
    abortOf failed = some reason ↔ Aborts (failed.map StepFailure.noted) reason := by
  cases failed with
  | none => exact ⟨nofun, nofun⟩
  | some failed => exact aborts_iff.symm

theorem abortOf_eq_none_iff {failed : Option StepFailure} :
    abortOf failed = none ↔ ∀ reason, ¬Aborts (failed.map StepFailure.noted) reason := by
  rw [Option.eq_none_iff_forall_ne_some]
  exact forall_congr' fun _ => not_congr abortOf_eq_some_iff

theorem played_noted (name : String) (failed : Option StepFailure) :
    played name (failed.map StepFailure.noted) = ⟨name, outcomeOf failed, 0⟩ := by
  cases failed <;> rfl

theorem performance_runEach (h : suite.AsksNoStop) {scenarios : List (Scenario ω ν)}
    (hmem : ∀ scenario ∈ scenarios, scenario ∈ suite.scenarios) {stage : Stage ω}
    (hquiet : stage.Quiet sent) :
    ∃ trace reports last,
      suite.runEach scenarios ⟨⟨sent⟩, false⟩ none stage = (reports, last) ∧
      suite.Performance scenarios stage trace reports last := by
  induction scenarios generalizing stage with
  | nil => exact ⟨[], [], stage, rfl, .finished⟩
  | cons scenario rest ih =>
    obtain ⟨hscenario, hrest⟩ := List.forall_mem_cons.mp hmem
    obtain ⟨works, failed, middle, hplayed, hmiddle, hplays⟩ :=
      plays_runScenario h hscenario hquiet
    -- only without a reason to skip does the rest run, again from a quiet stage
    cases habort : abortOf failed with
    | none =>
      obtain ⟨trace, reports, last, hreports, hperformed⟩ := ih hrest hmiddle
      refine ⟨_, _, last, ?_, .next hplays (abortOf_eq_none_iff.mp habort) hperformed⟩
      rw [← habort] at hreports
      rw [runEach_cons hquiet hplayed hreports, played_noted]
    | some reason =>
      have hskipped := suite.runEach_skipping rest ⟨⟨sent⟩, false⟩ reason middle
      rw [← habort] at hskipped
      refine ⟨_, _, middle, ?_, .aborted hplays (abortOf_eq_some_iff.mp habort)⟩
      rw [runEach_cons hquiet hplayed hskipped, played_noted]

theorem runEach_teardown {teardown : Option (StepM ω ν Unit)}
    (h : suite.LeavesAsTeardown teardown) (scenarios : List (Scenario ω ν))
    (listener : Shutdown.Listener) (reason : Option String) (stage : Stage ω) :
    runEach { suite with teardown } scenarios listener reason stage =
      suite.runEach scenarios listener reason stage := by
  have hplayed : ∀ scenario stage,
      runScenario { suite with teardown } scenario stage = suite.runScenario scenario stage := by
    intro scenario stage
    change ((suite.runMain scenario _).1, (runHook teardown (suite.runMain scenario _).2).2.stage) = _
    rw [h.runHook_eq]
    rfl
  induction scenarios generalizing listener reason stage with
  | nil => rfl
  | cons scenario rest ih =>
    cases reason with
    | some reason => simp only [runEach, ih]
    | none => simp only [runEach, ih, hplayed]

/-- A suite in which a name stands twice is refused, and nothing runs. Any other suite reports the
scenarios that the filter selects, and it does so after the one performance of them that there is,
in which the hooks of a scenario that is not skipped run once. How teardown ends makes no
difference. -/
theorem run_performs (h : suite.AsksNoStop) (options : SuiteOptions) (world : ω) :
    let names := suite.scenarios.map Scenario.name
    let chosen := suite.scenarios.filter fun scenario =>
      decide (∀ part ∈ options.filter, part.toList <:+: scenario.name.toList)
    (¬names.Nodup → ∃ earlier name later, names = earlier ++ name :: later ∧ earlier.Nodup ∧
      name ∈ earlier ∧ suite.run options world =
        (.error (.plain s!"Scenario [{name}] is defined more than once in suite [{suite.name}]"),
          openStage options world)) ∧
    (names.Nodup → ∃ trace reports last,
      suite.run options world = (.ok ⟨suite.name, reports⟩, last) ∧
      (∀ trace' reports' last',
        suite.Performance chosen (openStage options world) trace' reports' last' ↔
          trace' = trace ∧ reports' = reports ∧ last' = last) ∧
      reports.map (·.name) = chosen.map Scenario.name ∧
      ∀ report ∈ reports, suite.RanOnce trace report) ∧
    ∀ teardown, suite.LeavesAsTeardown teardown →
      Suite.run { suite with teardown } options world = suite.run options world := by
  intro names chosen
  refine ⟨fun hrepeated => ?_, fun hnodup => ?_, fun teardown hsame => ?_⟩
  · obtain ⟨earlier, name, later, hnames, hearlier, hmem, hfound⟩ :=
      firstRepeated_of_not_nodup hrepeated
    have hfound : firstRepeated [] (suite.scenarios.map Scenario.name) = some name := hfound
    refine ⟨earlier, name, later, hnames, hearlier, hmem, ?_⟩
    simp only [run, hfound]
  · have hfound : firstRepeated [] (suite.scenarios.map Scenario.name) = none :=
      (firstRepeated_eq_none_iff List.nodup_nil).mpr hnodup
    have hselected : suite.selected options.filter = chosen := suite.selected_eq options.filter
    have hmem : ∀ scenario ∈ chosen, scenario ∈ suite.scenarios :=
      fun scenario hscenario => (List.mem_filter.mp hscenario).1
    have hquiet : (openStage options world).Quiet 0 := ⟨rfl, Nat.one_pos⟩
    obtain ⟨trace, reports, last, hruns, hperformed⟩ := performance_runEach h hmem hquiet
    refine ⟨trace, reports, last, ?_, fun trace' reports' last' => ⟨?_, ?_⟩, hperformed.names, ?_⟩
    · simp only [run, hfound, hquiet.listen, hselected, hruns]
    · exact hperformed.unique
    · rintro ⟨rfl, rfl, rfl⟩
      exact hperformed
    · exact hperformed.ranOnce (hnodup.sublist (List.filter_sublist.map Scenario.name))
  · simp only [run, runEach_teardown hsame]
    rfl

/-- Two scenarios, of which the first loses its connection. Its failure comes out of a context, and
teardown gives up as well. The hooks leave word that they ran. -/
def lostConnection : Suite (List String) Unit where
  name := "payments"
  setup := some (StepM.modifyWorld (· ++ ["setup"]))
  teardown := some (do
    StepM.modifyWorld (· ++ ["teardown"])
    throw (.ofCause (.aborted "no teardown")))
  scenarios :=
    [⟨"send", Unit, ⟨.series, [⟨"submit", fun _ =>
      StepM.inContext "sending" (throw (.ofCause .connectionLost))⟩]⟩⟩,
    ⟨"receive", Unit, ⟨.series, []⟩⟩]

theorem lostConnection_performed :
    let options : SuiteOptions := ⟨"ws://127.0.0.1:6006", some "e", false⟩
    let reports : List ScenarioReport :=
      [⟨"send", .failed "submit"
        "sending: Suite aborted: connection to the server was lost", 0⟩,
      ⟨"receive", .skipped "connection to the server was lost", 0⟩]
    lostConnection.AsksNoStop ∧ ∃ trace last,
      lostConnection.run options [] = (.ok ⟨"payments", reports⟩, last) ∧
      lostConnection.Performance lostConnection.scenarios (openStage options []) trace reports last ∧
      last.world = ["setup", "teardown"] ∧ ∀ report ∈ reports, lostConnection.RanOnce trace report := by
  intro options reports
  have hquiet : lostConnection.AsksNoStop := by
    constructor
    · rintro hook ⟨⟩
      exact StepM.asksNoStop_modifyWorld _
    · rintro hook ⟨⟩
      exact (StepM.asksNoStop_modifyWorld _).bind fun _ => StepM.asksNoStop_throw _
    · intro scenario hscenario step hstep carried
      rcases List.mem_pair.mp hscenario with rfl | rfl
      · obtain rfl := List.mem_singleton.mp hstep
        exact (StepM.asksNoStop_throw _).inContext _
      · cases hstep
  obtain ⟨trace, reports', last, hrun, hperformed, -, honce⟩ :=
    (run_performs hquiet options []).2.1 (by decide)
  have hreports : (lostConnection.run options []).1 = .ok ⟨"payments", reports⟩ := by rfl
  have hworld : (lostConnection.run options []).2.world = ["setup", "teardown"] := by rfl
  rw [hrun] at hreports hworld
  cases hreports
  exact ⟨hquiet, trace, last, hrun, (hperformed _ _ _).2 ⟨rfl, rfl, rfl⟩, hworld, honce⟩

end Suite
end LedgerBench
