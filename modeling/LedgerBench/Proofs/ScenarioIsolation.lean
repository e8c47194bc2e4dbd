import LedgerBench.Proofs.SuiteRun

/-! Nothing goes over from one scenario of a suite to the next. If each of them depends on its own
value alone, a filter takes reports away and changes none, and the order of the scenarios decides
nothing but the order of the reports. -/

/-! ### Scenes that are alike

Scenes that a scenario cannot tell apart by what is its own, and work that goes by nothing else.
Such work comes to the same end in any of them, so a scenario made of it ends in the same way
wherever it is played. -/

namespace LedgerBench

variable {ω ν α : Type} {sent sent' : Nat}

/-- Two scenes of one scenario with the same value. No stop signal has come in either; what else the
stages hold is left open. -/
structure Scene.Alike (sent sent' : Nat) (scene scene' : Scene ω ν) : Prop where
  scenario : scene'.scenario = scene.scenario
  value : scene'.value = scene.value
  quiet : scene.Quiet sent
  quiet' : scene'.Quiet sent'

theorem Stage.Quiet.open_alike [Inhabited ν] {stage stage' : Stage ω} (h : stage.Quiet sent)
    (h' : stage'.Quiet sent') (name : String) :
    Scene.Alike sent sent' (stage.open name : Scene ω ν) (stage'.open name) :=
  ⟨rfl, rfl, h.open name, h'.open name⟩

/-- In scenes that are alike the work comes to the same result, and leaves scenes that are alike. -/
def EndsAlike (sent sent' : Nat) (work : Scene ω ν → α × Scene ω ν) : Prop :=
  ∀ {scene scene' : Scene ω ν}, scene.Alike sent sent' scene' →
    ∃ result last last', work scene = (result, last) ∧ work scene' = (result, last') ∧
      last.Alike sent sent' last'

/-- Work that depends on the name and the value of its own scenario alone. That it sends no stop
signal is part of this, as a signal is heard in every other scenario. -/
def StepM.OwnOnly (work : StepM ω ν α) : Prop :=
  ∀ sent sent', EndsAlike sent sent' work

def StepM.onValue (work : ν → Except Failure α × ν) : StepM ω ν α := fun scene =>
  ((work scene.value).1, { scene with value := (work scene.value).2 })

theorem StepM.ownOnly_onValue (work : ν → Except Failure α × ν) :
    StepM.OwnOnly (onValue work : StepM ω ν α) := by
  rintro sent sent' scene ⟨stage, name, listener, value⟩ ⟨rfl, rfl, hquiet, hquiet'⟩
  exact ⟨_, _, _, rfl, rfl, rfl, rfl, ⟨hquiet.stage, hquiet.listener⟩,
    ⟨hquiet'.stage, hquiet'.listener⟩⟩

/-- No hook and no step of the suite depends on anything but its own scenario. -/
structure Suite.OwnOnly (suite : Suite ω ν) : Prop where
  setup : ∀ hook ∈ suite.setup, StepM.OwnOnly hook
  teardown : ∀ hook ∈ suite.teardown, StepM.OwnOnly hook
  steps : ∀ scenario ∈ suite.scenarios, ∀ step ∈ scenario.chain.steps, ∀ carried,
    StepM.OwnOnly (step.run carried)

theorem StepM.OwnOnly.asksNoStop {work : StepM ω ν α} (h : work.OwnOnly) : work.AsksNoStop := by
  intro sent scene hquiet
  obtain ⟨result, last, _, hran, -, hlast⟩ := h sent sent ⟨rfl, rfl, hquiet, hquiet⟩
  rw [ExceptT.run, StateT.run, hran]
  exact hlast.quiet

theorem Suite.OwnOnly.asksNoStop {suite : Suite ω ν} (h : suite.OwnOnly) : suite.AsksNoStop where
  setup hook hhook := StepM.OwnOnly.asksNoStop (h.setup hook hhook)
  teardown hook hhook := StepM.OwnOnly.asksNoStop (h.teardown hook hhook)
  steps scenario hscenario step hstep carried :=
    StepM.OwnOnly.asksNoStop (h.steps scenario hscenario step hstep carried)

/-! ### Scenarios -/

theorem Suite.runHook_endsAlike {hook : Option (StepM ω ν Unit)}
    (h : ∀ work ∈ hook, StepM.OwnOnly work) : EndsAlike sent sent' (runHook hook) := by
  cases hook with
  | none => exact fun halike => ⟨_, _, _, rfl, rfl, halike⟩
  | some work => exact h work rfl sent sent'

theorem Chain.runFrom_endsAlike {τ : Type} [Inhabited τ] {steps : List (Step ω ν τ)}
    (hsteps : ∀ step ∈ steps, ∀ carried, StepM.OwnOnly (step.run carried)) (mode : ChainMode)
    (index : Nat) (carried : τ) : EndsAlike sent sent' (runFrom mode index steps carried) := by
  intro scene scene' halike
  induction steps generalizing index carried scene scene' with
  | nil => exact ⟨_, _, _, rfl, rfl, halike⟩
  | cons step rest ih =>
    obtain ⟨hstep, hrest⟩ := List.forall_mem_cons.mp hsteps
    obtain ⟨result, middle, middle', hran, hran', hmiddle⟩ :=
      hstep (mode.input carried) sent sent' halike
    cases result with
    | error failure =>
      exact ⟨_, _, _, runFrom_of_error halike.quiet hran index rest,
        runFrom_of_error halike.quiet' hran' index rest, hmiddle⟩
    | ok given =>
      rw [runFrom_of_ok halike.quiet hran, runFrom_of_ok halike.quiet' hran']
      exact ih hrest (index + 1) given hmiddle

theorem Scenario.run_endsAlike {scenario : Scenario ω ν}
    (hsteps : ∀ step ∈ scenario.chain.steps, ∀ carried, StepM.OwnOnly (step.run carried)) :
    EndsAlike sent sent' scenario.run := by
  intro scene scene' halike
  obtain ⟨result, last, last', hran, hran', hlast⟩ :=
    Chain.runFrom_endsAlike hsteps scenario.chain.mode 0 default halike
  refine ⟨Chain.failureOf result, last, last', ?_, ?_, hlast⟩
  · cases result <;> simp only [run, Chain.run, hran, Chain.failureOf]
  · cases result <;> simp only [run, Chain.run, hran', Chain.failureOf]

namespace Suite

variable {suite : Suite ω ν} {scenario : Scenario ω ν}

theorem runMain_endsAlike (h : suite.OwnOnly) (hmem : scenario ∈ suite.scenarios) :
    EndsAlike sent sent' (suite.runMain scenario) := by
  intro scene scene' halike
  obtain ⟨result, ready, ready', hsetup, hsetup', hready⟩ := runHook_endsAlike h.setup halike
  simp only [runMain, hsetup, hsetup']
  cases result with
  | error failure => exact ⟨_, _, _, rfl, rfl, hready⟩
  | ok done => exact Scenario.run_endsAlike (h.steps scenario hmem) hready

/-- Wherever a scenario is played, it ends in the same way, and the stage stays quiet. -/
theorem runScenario_alike [Inhabited ν] (h : suite.OwnOnly) (hmem : scenario ∈ suite.scenarios)
    {stage stage' : Stage ω} (hquiet : stage.Quiet sent) (hquiet' : stage'.Quiet sent') :
    (suite.runScenario scenario stage').1 = (suite.runScenario scenario stage).1 ∧
      (suite.runScenario scenario stage').2.Quiet sent' := by
  obtain ⟨failed, done, done', hmain, hmain', hdone⟩ :=
    runMain_endsAlike h hmem (hquiet.open_alike hquiet' scenario.name)
  obtain ⟨closing, _, last', -, hteardown', hlast⟩ := runHook_endsAlike h.teardown hdone
  simp only [runScenario, hmain, hmain', hteardown']
  exact ⟨trivial, hlast.quiet'.stage⟩

end Suite
end LedgerBench

/-! ### The reports of a suite -/

namespace LedgerBench.Suite

variable {ω ν : Type} [Inhabited ν] {suite : Suite ω ν} {sent : Nat}
  {fate : Scenario ω ν → Option StepFailure} {scenarios : List (Scenario ω ν)}

/-- Each of the scenarios ends in one way wherever it is played, and nobody asks for a stop in it. -/
def Fated (suite : Suite ω ν) (fate : Scenario ω ν → Option StepFailure)
    (scenarios : List (Scenario ω ν)) : Prop :=
  ∀ scenario ∈ scenarios, ∀ {sent : Nat} {stage : Stage ω}, stage.Quiet sent →
    (suite.runScenario scenario stage).1 = fate scenario ∧
      (suite.runScenario scenario stage).2.Quiet sent

/-- No scenario but the last one ends the suite. -/
def GoesOn (fate : Scenario ω ν → Option StepFailure) (scenarios : List (Scenario ω ν)) : Prop :=
  scenarios.Pairwise fun scenario _ => abortOf (fate scenario) = none

def reportOf (fate : Scenario ω ν → Option StepFailure) (scenario : Scenario ω ν) :
    ScenarioReport :=
  ⟨scenario.name, outcomeOf (fate scenario), 0⟩

theorem OwnOnly.fated (h : suite.OwnOnly) {stage : Stage ω} (hquiet : stage.Quiet sent) :
    suite.Fated (fun scenario => (suite.runScenario scenario stage).1) suite.scenarios :=
  fun _ hmem => fun hquiet' => runScenario_alike h hmem hquiet hquiet'

theorem Fated.of_mem {others : List (Scenario ω ν)} (h : suite.Fated fate scenarios)
    (hmem : ∀ scenario ∈ others, scenario ∈ scenarios) : suite.Fated fate others :=
  fun scenario hscenario => h scenario (hmem scenario hscenario)

theorem Fated.runEach_cons {scenario : Scenario ω ν} (h : suite.Fated fate (scenario :: scenarios))
    {stage : Stage ω} (hquiet : stage.Quiet sent) :
    ∃ middle, middle.Quiet sent ∧
      (suite.runEach (scenario :: scenarios) ⟨⟨sent⟩, false⟩ none stage).1 =
        reportOf fate scenario ::
          (suite.runEach scenarios ⟨⟨sent⟩, false⟩ (abortOf (fate scenario)) middle).1 := by
  obtain ⟨hfate, hmiddle⟩ := h scenario List.mem_cons_self hquiet
  rcases hplayed : suite.runScenario scenario stage with ⟨failed, middle⟩
  rw [hplayed] at hfate hmiddle
  obtain rfl : failed = fate scenario := hfate
  exact ⟨middle, hmiddle, by rw [Suite.runEach_cons hquiet hplayed rfl, reportOf]⟩

/-- As long as no scenario ends the suite, each report is about its own scenario alone. -/
theorem Fated.runEach (h : suite.Fated fate scenarios) (hgoesOn : GoesOn fate scenarios)
    {stage : Stage ω} (hquiet : stage.Quiet sent) :
    (suite.runEach scenarios ⟨⟨sent⟩, false⟩ none stage).1 = scenarios.map (reportOf fate) := by
  induction scenarios generalizing stage with
  | nil => rfl
  | cons scenario rest ih =>
    obtain ⟨middle, hmiddle, hreports⟩ := h.runEach_cons hquiet
    obtain ⟨hfirst, hlater⟩ := List.pairwise_cons.mp hgoesOn
    rw [hreports, List.map_cons]
    congr 1
    cases rest with
    | nil => cases abortOf (fate scenario) <;> rfl
    | cons next rest =>
      rw [hfirst next List.mem_cons_self]
      exact ih (h.of_mem fun _ hmem => List.mem_cons_of_mem _ hmem) hlater hmiddle

theorem Fated.goesOn_of_none_skipped (h : suite.Fated fate scenarios) {stage : Stage ω}
    (hquiet : stage.Quiet sent)
    (hnone : ∀ report ∈ (suite.runEach scenarios ⟨⟨sent⟩, false⟩ none stage).1, ∀ reason,
      report.outcome ≠ .skipped reason) : GoesOn fate scenarios := by
  induction scenarios generalizing stage with
  | nil => exact .nil
  | cons scenario rest ih =>
    obtain ⟨middle, hmiddle, hreports⟩ := h.runEach_cons hquiet
    rw [hreports, List.forall_mem_cons] at hnone
    have hrest : suite.Fated fate rest := h.of_mem fun _ hmem => List.mem_cons_of_mem _ hmem
    cases habort : abortOf (fate scenario) with
    | none =>
      rw [habort] at hnone
      exact List.pairwise_cons.mpr ⟨fun _ _ => habort, ih hrest hmiddle hnone.2⟩
    | some reason =>
      -- the scenarios after this one would all be skipped, so there are none
      rw [habort, runEach_skipping] at hnone
      cases rest with
      | nil => exact List.pairwise_singleton _ _
      | cons next rest => exact absurd rfl (hnone.2 _ List.mem_cons_self reason)

theorem run_of_nodup (hnames : (suite.scenarios.map Scenario.name).Nodup) (options : SuiteOptions)
    (world : ω) :
    ∃ last, suite.run options world =
      (.ok ⟨suite.name, (suite.runEach (suite.selected options.filter) ⟨⟨0⟩, false⟩ none
        (openStage options world)).1⟩, last) := by
  have hfound : firstRepeated [] (suite.scenarios.map Scenario.name) = none :=
    (firstRepeated_eq_none_iff List.nodup_nil).mpr hnames
  refine ⟨(suite.runEach (suite.selected options.filter) ⟨⟨0⟩, false⟩ none
    (openStage options world)).2, ?_⟩
  simp only [run, hfound]
  rfl

theorem Fated.run (h : suite.Fated fate suite.scenarios) (hgoesOn : GoesOn fate suite.scenarios)
    (hnames : (suite.scenarios.map Scenario.name).Nodup) (options : SuiteOptions) (world : ω) :
    ∃ last, suite.run options world =
      (.ok ⟨suite.name, (suite.scenarios.map (reportOf fate)).filter fun report =>
        decide (∀ part ∈ options.filter, part.toList <:+: report.name.toList)⟩, last) := by
  obtain ⟨last, hrun⟩ := run_of_nodup hnames options world
  have hselected : (suite.selected options.filter).Sublist suite.scenarios := List.filter_sublist
  have hquiet : (openStage options world).Quiet 0 := ⟨rfl, Nat.one_pos⟩
  have hreports := (h.of_mem fun _ hmem => hselected.subset hmem).runEach
    (hgoesOn.sublist hselected) hquiet
  refine ⟨last, ?_⟩
  rw [hrun, hreports, suite.selected_eq, List.filter_map]
  rfl

/-- A suite of which each scenario depends on its own value alone, and in which none is skipped when
all are selected. A filter then selects among its reports. If no failure of a scenario ends the
suite, the same reports come out in any other order of the scenarios, each at the place of its own.
-/
theorem scenarios_are_isolated (h : suite.OwnOnly)
    (hnames : (suite.scenarios.map Scenario.name).Nodup) {options : SuiteOptions}
    (hwhole : options.filter = none) (world : ω) :
    ∃ reports last, suite.run options world = (.ok ⟨suite.name, reports⟩, last) ∧
      ((∀ report ∈ reports, ∀ reason, report.outcome ≠ .skipped reason) →
        (∀ (options' : SuiteOptions) (world' : ω), ∃ last', suite.run options' world' =
          (.ok ⟨suite.name, reports.filter fun report =>
            decide (∀ part ∈ options'.filter, part.toList <:+: report.name.toList)⟩, last')) ∧
        ((∀ scenario ∈ suite.scenarios, ∀ stage works failed last',
            suite.Plays scenario stage works failed last' → ∀ reason, ¬Aborts failed reason) →
          ∀ order, order.Perm suite.scenarios → ∀ world', ∃ reports' last',
            Suite.run { suite with scenarios := order } options world' =
              (.ok ⟨suite.name, reports'⟩, last') ∧
            reports'.map (·.name) = order.map Scenario.name ∧ reports'.Perm reports)) := by
  have hquiet : (openStage options world).Quiet 0 := ⟨rfl, Nat.one_pos⟩
  obtain ⟨fate, hfated⟩ : ∃ fate, suite.Fated fate suite.scenarios := ⟨_, h.fated hquiet⟩
  have hselected : suite.selected options.filter = suite.scenarios := by
    rw [suite.selected_eq, hwhole]
    simp
  obtain ⟨last, hrun⟩ := run_of_nodup hnames options world
  rw [hselected] at hrun
  refine ⟨_, last, hrun, fun hnone => ?_⟩
  have hgoesOn := hfated.goesOn_of_none_skipped hquiet hnone
  rw [hfated.runEach hgoesOn hquiet]
  refine ⟨hfated.run hgoesOn hnames, fun hends order horder world' => ?_⟩
  have hnoAbort : ∀ scenario ∈ suite.scenarios, abortOf (fate scenario) = none := by
    intro scenario hscenario
    obtain ⟨works, failed, middle, hplayed, -, hplays⟩ :=
      plays_runScenario h.asksNoStop hscenario hquiet
    have hfate := (hfated scenario hscenario hquiet).1
    rw [hplayed] at hfate
    rw [← hfate]
    exact abortOf_eq_none_iff.mpr (hends scenario hscenario _ _ _ _ hplays)
  have hfated' : Fated { suite with scenarios := order } fate order :=
    fun scenario hscenario => hfated scenario (horder.subset hscenario)
  have hgoesOn' : GoesOn fate order :=
    List.pairwise_of_forall_mem_list fun scenario hscenario _ _ =>
      hnoAbort scenario (horder.subset hscenario)
  have hnames' : (order.map Scenario.name).Nodup := (horder.map _).nodup_iff.mpr hnames
  obtain ⟨last', hrun'⟩ := hfated'.run hgoesOn' hnames' options world'
  refine ⟨order.map (reportOf fate), last', ?_, ?_, horder.map _⟩
  · rw [hrun', hwhole]
    simp
  · rw [List.map_map]
    rfl

def countOnce (n : Nat) : Except Failure Unit × Nat :=
  (if n = 1 then .ok () else .error (.plain "used before"), n + 1)

def countAndRefuse (n : Nat) : Except Failure Unit × Nat :=
  (.error (.plain "no more"), n + 1)

/-- Scenarios that count in their own values after setup has begun with one. The second one and
every teardown fail. -/
def counting : Suite Unit Nat where
  name := "counting"
  setup := some (StepM.onValue fun n => (.ok (), n + 1))
  teardown := some (StepM.onValue countAndRefuse)
  scenarios :=
    [⟨"first", Unit, ⟨.series, [⟨"count", fun _ => StepM.onValue countOnce⟩]⟩⟩,
      ⟨"second", Unit, ⟨.series, [⟨"refuse", fun _ => StepM.onValue countAndRefuse⟩]⟩⟩,
      ⟨"third", Unit, ⟨.series, [⟨"count", fun _ => StepM.onValue countOnce⟩]⟩⟩]

theorem counting_isolated :
    let options : SuiteOptions := ⟨"memory://", none, false⟩
    let first : ScenarioReport := ⟨"first", .passed, 0⟩
    let second : ScenarioReport := ⟨"second", .failed "refuse" "no more", 0⟩
    let third : ScenarioReport := ⟨"third", .passed, 0⟩
    counting.OwnOnly ∧ (counting.scenarios.map Scenario.name).Nodup ∧
      (∃ last, counting.run { options with filter := some "ir" } () =
        (.ok ⟨"counting", [first, third]⟩, last)) ∧
      ∃ reports last, Suite.run { counting with scenarios := counting.scenarios.reverse } options () =
          (.ok ⟨"counting", reports⟩, last) ∧
        reports.map (·.name) = ["third", "second", "first"] ∧ reports.Perm [first, second, third] := by
  intro options first second third
  have hown : counting.OwnOnly := by
    constructor
    · rintro hook ⟨⟩
      exact StepM.ownOnly_onValue _
    · rintro hook ⟨⟩
      exact StepM.ownOnly_onValue _
    · intro scenario hscenario step hstep carried
      simp only [counting, List.mem_cons, List.not_mem_nil, or_false] at hscenario
      rcases hscenario with rfl | rfl | rfl <;> obtain rfl := List.mem_singleton.mp hstep
      · exact StepM.ownOnly_onValue countOnce
      · exact StepM.ownOnly_onValue countAndRefuse
      · exact StepM.ownOnly_onValue countOnce
  have hends : ∀ scenario ∈ counting.scenarios, ∀ stage works failed last,
      counting.Plays scenario stage works failed last → ∀ reason, ¬Aborts failed reason := by
    intro scenario hscenario stage works failed last hplays reason haborts
    simp only [counting, List.mem_cons, List.not_mem_nil, or_false] at hscenario
    rcases hscenario with rfl | rfl | rfl <;> cases hplays with
    | setupFailed setup => cases (hookRuns_iff.1 setup).2
    | ran setup steps =>
      cases (hookRuns_iff.1 setup).2
      cases steps with
      | next succeeds later => cases succeeds <;> cases later <;> cases haborts
      | failed fails => cases fails <;> cases haborts
  have hnames : (counting.scenarios.map Scenario.name).Nodup := by decide
  have hwhole : options.filter = none := rfl
  obtain ⟨reports, last, hrun, hisolated⟩ := scenarios_are_isolated hown hnames hwhole ()
  have hreports : (counting.run options ()).1 = .ok ⟨"counting", [first, second, third]⟩ := by rfl
  rw [hrun] at hreports
  cases hreports
  obtain ⟨hfilter, horder⟩ := hisolated (by simp [first, second, third])
  have hchosen : ([first, second, third].filter fun report =>
      decide (∀ part ∈ some "ir", part.toList <:+: report.name.toList)) = [first, third] := by
    decide
  refine ⟨hown, hnames, ?_, horder hends _ (List.reverse_perm _) ()⟩
  rw [← hchosen]
  exact hfilter { options with filter := some "ir" } ()

end LedgerBench.Suite
