import LedgerBench.Suite.Basic

/-! What it means to perform the scenarios of a suite: which hooks and steps run, in which order
and in which scenes, and what is reported. Nothing here says how a suite looks for the stop
signal. -/

namespace LedgerBench

/-- What runs in a scenario; of a step, its label. -/
inductive Work where
  | setup
  | step (label : String)
  | teardown
  deriving Repr, DecidableEq

variable {ω ν τ : Type}

/-- Steps run one after the other from a scene to the last one. The labels are those of the steps
that ran; if one failed, it is the last of them and stands here with its failure. -/
inductive StepsRun [Inhabited τ] (mode : ChainMode) :
    List (Step ω ν τ) → τ → Scene ω ν → List String → Option (String × Failure) → Scene ω ν → Prop
  | finished {carried : τ} {scene : Scene ω ν} : StepsRun mode [] carried scene [] none scene
  | next {step : Step ω ν τ} {rest : List (Step ω ν τ)} {carried given : τ}
      {scene middle last : Scene ω ν} {labels : List String} {failed : Option (String × Failure)}
      (succeeds : step.run (mode.input carried) scene = (.ok given, middle))
      (later : StepsRun mode rest given middle labels failed last) :
      StepsRun mode (step :: rest) carried scene (step.label :: labels) failed last
  | failed {step : Step ω ν τ} {rest : List (Step ω ν τ)} {carried : τ} {scene last : Scene ω ν}
      {failure : Failure} (fails : step.run (mode.input carried) scene = (.error failure, last)) :
      StepsRun mode (step :: rest) carried scene [step.label] (some (step.label, failure)) last

/-- A hook is run in a scene: once where there is one, and otherwise nothing is run. What ran is told
as work of the given kind. -/
inductive HookRuns (kind : Work) :
    Option (StepM ω ν Unit) → Scene ω ν → List Work → Except Failure Unit → Scene ω ν → Prop
  | given {hook : StepM ω ν Unit} {scene last : Scene ω ν} {result : Except Failure Unit}
      (runs : hook scene = (result, last)) : HookRuns kind (some hook) scene [kind] result last
  | missing {scene : Scene ω ν} : HookRuns kind none scene [] (.ok ()) scene

instance (scenario : Scenario ω ν) : Inhabited scenario.carried := scenario.inhabited

namespace Suite

variable [Inhabited ν]

/-- A scenario played in a scene of its own, whose value is the default one: setup, the steps if
setup succeeds, and teardown, which may end as it likes. -/
inductive Plays (suite : Suite ω ν) (scenario : Scenario ω ν) (stage : Stage ω) :
    List Work → Option (String × Failure) → Stage ω → Prop
  | setupFailed {failure : Failure} {ready last : Scene ω ν} {opening closing : List Work}
      {result : Except Failure Unit}
      (setup : HookRuns .setup suite.setup ⟨stage, scenario.name, stage.channel.listen, default⟩
        opening (.error failure) ready)
      (teardown : HookRuns .teardown suite.teardown ready closing result last) :
      Plays suite scenario stage (opening ++ closing) (some ("setup", failure)) last.stage
  | ran {ready done last : Scene ω ν} {labels : List String} {failed : Option (String × Failure)}
      {opening closing : List Work} {result : Except Failure Unit}
      (setup : HookRuns .setup suite.setup ⟨stage, scenario.name, stage.channel.listen, default⟩
        opening (.ok ()) ready)
      (steps : StepsRun scenario.chain.mode scenario.chain.steps default ready labels failed done)
      (teardown : HookRuns .teardown suite.teardown done closing result last) :
      Plays suite scenario stage (opening ++ labels.map .step ++ closing) failed last.stage

/-- A failure that ends the suite, whatever contexts were added to it, and why the rest is
skipped. -/
inductive Aborts : Option (String × Failure) → String → Prop
  | aborted (label : String) (contexts : List String) (reason : String) :
      Aborts (some (label, ⟨contexts, .aborted reason⟩)) reason
  | cancelled (label : String) (contexts : List String) :
      Aborts (some (label, ⟨contexts, .cancelled⟩)) "shutdown requested"

/-- How a scenario that was played is reported. -/
def played (name : String) : Option (String × Failure) → ScenarioReport
  | none => ⟨name, .passed, 0⟩
  | some (label, failure) => ⟨name, .failed label failure.text, 0⟩

/-- Scenarios played one after the other, up to the first one whose failure ends the suite. The
others are skipped: nothing of them runs. Of what runs it is said in which scenario. -/
inductive Performance (suite : Suite ω ν) :
    List (Scenario ω ν) → Stage ω → List (String × Work) → List ScenarioReport → Stage ω → Prop
  | finished {stage : Stage ω} : Performance suite [] stage [] [] stage
  | next {scenario : Scenario ω ν} {rest : List (Scenario ω ν)} {stage middle last : Stage ω}
      {works : List Work} {failed : Option (String × Failure)} {later : List (String × Work)}
      {reports : List ScenarioReport}
      (plays : suite.Plays scenario stage works failed middle)
      (goesOn : ∀ reason, ¬Aborts failed reason)
      (others : Performance suite rest middle later reports last) :
      Performance suite (scenario :: rest) stage
        (works.map (Prod.mk scenario.name) ++ later) (played scenario.name failed :: reports) last
  | aborted {scenario : Scenario ω ν} {rest : List (Scenario ω ν)} {stage last : Stage ω}
      {works : List Work} {failed : Option (String × Failure)} {reason : String}
      (plays : suite.Plays scenario stage works failed last)
      (aborts : Aborts failed reason) :
      Performance suite (scenario :: rest) stage (works.map (Prod.mk scenario.name))
        (played scenario.name failed :: rest.map fun other => ⟨other.name, .skipped reason, 0⟩)
        last

end Suite

theorem StepsRun.unique [Inhabited τ] {mode : ChainMode} {steps : List (Step ω ν τ)} {carried : τ}
    {scene last last' : Scene ω ν} {labels labels' : List String}
    {failed failed' : Option (String × Failure)}
    (h : StepsRun mode steps carried scene labels failed last)
    (h' : StepsRun mode steps carried scene labels' failed' last') :
    labels' = labels ∧ failed' = failed ∧ last' = last := by
  induction h generalizing labels' with
  | finished =>
    cases h'
    exact ⟨rfl, rfl, rfl⟩
  | next succeeds later ih =>
    cases h' with
    | next succeeds' later' =>
      cases succeeds.symm.trans succeeds'
      obtain ⟨rfl, rfl, rfl⟩ := ih later'
      exact ⟨rfl, rfl, rfl⟩
    | failed fails => cases succeeds.symm.trans fails
  | failed fails =>
    cases h' with
    | next succeeds => cases fails.symm.trans succeeds
    | failed fails' =>
      cases fails.symm.trans fails'
      exact ⟨rfl, rfl, rfl⟩

def hookWork (kind : Work) (hook : Option (StepM ω ν Unit)) : List Work :=
  hook.toList.map fun _ => kind

theorem hookRuns_iff {kind : Work} {hook : Option (StepM ω ν Unit)} {scene last : Scene ω ν}
    {works : List Work} {result : Except Failure Unit} :
    HookRuns kind hook scene works result last ↔
      works = hookWork kind hook ∧ Suite.runHook hook scene = (result, last) := by
  constructor
  · intro h
    cases h with
    | given runs => exact ⟨rfl, runs⟩
    | missing => exact ⟨rfl, rfl⟩
  · rintro ⟨rfl, hran⟩
    cases hook with
    | none =>
      cases hran
      exact .missing
    | some hook => exact .given hran

theorem hookRuns_of_runHook (kind : Work) {hook : Option (StepM ω ν Unit)} {scene last : Scene ω ν}
    {result : Except Failure Unit} (h : Suite.runHook hook scene = (result, last)) :
    HookRuns kind hook scene (hookWork kind hook) result last :=
  hookRuns_iff.2 ⟨rfl, h⟩

theorem HookRuns.unique {kind : Work} {hook : Option (StepM ω ν Unit)} {scene last last' : Scene ω ν}
    {works works' : List Work} {result result' : Except Failure Unit}
    (h : HookRuns kind hook scene works result last)
    (h' : HookRuns kind hook scene works' result' last') :
    works' = works ∧ result' = result ∧ last' = last := by
  obtain ⟨rfl, hran⟩ := hookRuns_iff.1 h
  obtain ⟨rfl, hran'⟩ := hookRuns_iff.1 h'
  cases hran.symm.trans hran'
  exact ⟨rfl, rfl, rfl⟩

namespace Suite

variable {suite : Suite ω ν}

def workOf (name : String) (trace : List (String × Work)) : List Work :=
  (trace.filter (·.1 == name)).map Prod.snd

theorem workOf_append (name : String) (xs ys : List (String × Work)) :
    workOf name (xs ++ ys) = workOf name xs ++ workOf name ys := by
  simp [workOf]

theorem workOf_self (name : String) (works : List Work) :
    workOf name (works.map (Prod.mk name)) = works := by
  simp [workOf, List.filter_map, Function.comp_def]

theorem workOf_eq_nil {name : String} {trace : List (String × Work)}
    (h : ∀ entry ∈ trace, entry.1 ≠ name) : workOf name trace = [] := by
  simpa [workOf] using h

/-- Each hook ran once, if the suite has it: setup before all else and teardown after all else. -/
def HooksOnce (suite : Suite ω ν) (works : List Work) : Prop :=
  ∃ labels : List String,
    works = hookWork .setup suite.setup ++ labels.map .step ++ hookWork .teardown suite.teardown

theorem hooksOnce_of_runs {opening closing : List Work} {scene ready done last : Scene ω ν}
    {result result' : Except Failure Unit}
    (setup : HookRuns .setup suite.setup scene opening result ready)
    (teardown : HookRuns .teardown suite.teardown done closing result' last) :
    suite.HooksOnce (opening ++ closing) ∧
      ∀ labels : List String, suite.HooksOnce (opening ++ labels.map .step ++ closing) := by
  obtain ⟨rfl, -⟩ := hookRuns_iff.1 setup
  obtain ⟨rfl, -⟩ := hookRuns_iff.1 teardown
  exact ⟨⟨[], by rw [List.map_nil, List.append_nil]⟩, fun labels => ⟨labels, rfl⟩⟩

/-- Nothing ran of a scenario that was skipped, and in any other each hook ran once. -/
def RanOnce (suite : Suite ω ν) (trace : List (String × Work)) (report : ScenarioReport) : Prop :=
  match report.outcome with
  | .skipped _ => workOf report.name trace = []
  | _ => suite.HooksOnce (workOf report.name trace)

theorem ranOnce_played {trace : List (String × Work)} {name : String}
    {failed : Option (String × Failure)} :
    suite.RanOnce trace (played name failed) ↔ suite.HooksOnce (workOf name trace) := by
  cases failed <;> rfl

theorem RanOnce.of_workOf {trace trace' : List (String × Work)} {report : ScenarioReport}
    (h : suite.RanOnce trace report) (hsame : workOf report.name trace' = workOf report.name trace) :
    suite.RanOnce trace' report := by
  simpa only [RanOnce, hsame] using h

@[simp] theorem name_played (name : String) (failed : Option (String × Failure)) :
    (played name failed).name = name := by
  cases failed <;> rfl

/-- A hook that leaves every scene as the teardown of the suite does, however it ends. -/
def LeavesAsTeardown (suite : Suite ω ν) (hook : Option (StepM ω ν Unit)) : Prop :=
  ∀ scene last works result, HookRuns .teardown suite.teardown scene works result last →
    ∃ works' result', HookRuns .teardown hook scene works' result' last

theorem LeavesAsTeardown.runHook_eq {hook : Option (StepM ω ν Unit)}
    (h : suite.LeavesAsTeardown hook) (scene : Scene ω ν) :
    (runHook hook scene).2 = (runHook suite.teardown scene).2 := by
  rcases hran : runHook suite.teardown scene with ⟨result, last⟩
  obtain ⟨works', result', hran'⟩ := h scene _ _ _ (hookRuns_of_runHook .teardown hran)
  rw [(hookRuns_iff.1 hran').2]

variable [Inhabited ν]

theorem Plays.unique {scenario : Scenario ω ν} {stage last last' : Stage ω}
    {works works' : List Work} {failed failed' : Option (String × Failure)}
    (h : suite.Plays scenario stage works failed last)
    (h' : suite.Plays scenario stage works' failed' last') :
    works' = works ∧ failed' = failed ∧ last' = last := by
  cases h with
  | setupFailed setup teardown =>
    cases h' with
    | setupFailed setup' teardown' =>
      obtain ⟨rfl, hfailure, rfl⟩ := setup.unique setup'
      obtain ⟨rfl, -, rfl⟩ := teardown.unique teardown'
      cases hfailure
      exact ⟨rfl, rfl, rfl⟩
    | ran setup' => cases (setup.unique setup').2.1
  | ran setup steps teardown =>
    cases h' with
    | setupFailed setup' => cases (setup.unique setup').2.1
    | ran setup' steps' teardown' =>
      obtain ⟨rfl, -, rfl⟩ := setup.unique setup'
      obtain ⟨rfl, rfl, rfl⟩ := steps.unique steps'
      obtain ⟨rfl, -, rfl⟩ := teardown.unique teardown'
      exact ⟨rfl, rfl, rfl⟩

theorem aborts_iff {label : String} {failure : Failure} {reason : String} :
    Aborts (some (label, failure)) reason ↔ failure.abortReason? = some reason := by
  obtain ⟨contexts, cause⟩ := failure
  constructor
  · intro h
    cases h with
    | aborted => rfl
    | cancelled => rfl
  · intro h
    cases cause with
    | aborted =>
      cases h
      exact .aborted label contexts reason
    | cancelled =>
      cases h
      exact .cancelled label contexts
    | plain | amount | step => cases h

theorem Aborts.unique {failed : Option (String × Failure)} {reason reason' : String}
    (h : Aborts failed reason) (h' : Aborts failed reason') : reason' = reason := by
  cases h with
  | aborted => cases h'; rfl
  | cancelled => cases h'; rfl

theorem Performance.unique {scenarios : List (Scenario ω ν)} {stage last last' : Stage ω}
    {trace trace' : List (String × Work)} {reports reports' : List ScenarioReport}
    (h : suite.Performance scenarios stage trace reports last)
    (h' : suite.Performance scenarios stage trace' reports' last') :
    trace' = trace ∧ reports' = reports ∧ last' = last := by
  induction h generalizing trace' reports' with
  | finished =>
    cases h'
    exact ⟨rfl, rfl, rfl⟩
  | next plays goesOn others ih =>
    cases h' with
    | next plays' goesOn' others' =>
      obtain ⟨rfl, rfl, rfl⟩ := plays.unique plays'
      obtain ⟨rfl, rfl, rfl⟩ := ih others'
      exact ⟨rfl, rfl, rfl⟩
    | aborted plays' aborts =>
      obtain ⟨rfl, rfl, rfl⟩ := plays.unique plays'
      exact absurd aborts (goesOn _)
  | aborted plays aborts =>
    cases h' with
    | next plays' goesOn =>
      obtain ⟨rfl, rfl, rfl⟩ := plays.unique plays'
      exact absurd aborts (goesOn _)
    | aborted plays' aborts' =>
      obtain ⟨rfl, rfl, rfl⟩ := plays.unique plays'
      obtain rfl := aborts.unique aborts'
      exact ⟨rfl, rfl, rfl⟩

theorem Plays.hooksOnce {scenario : Scenario ω ν} {stage last : Stage ω} {works : List Work}
    {failed : Option (String × Failure)} (h : suite.Plays scenario stage works failed last) :
    suite.HooksOnce works := by
  cases h with
  | setupFailed setup teardown => exact (hooksOnce_of_runs setup teardown).1
  | ran setup _ teardown => exact (hooksOnce_of_runs setup teardown).2 _

theorem Performance.names {scenarios : List (Scenario ω ν)} {stage last : Stage ω}
    {trace : List (String × Work)} {reports : List ScenarioReport}
    (h : suite.Performance scenarios stage trace reports last) :
    reports.map (·.name) = scenarios.map Scenario.name := by
  induction h with
  | finished => rfl
  | next _ _ _ ih => simp [ih]
  | aborted => simp

theorem Performance.name_mem {scenarios : List (Scenario ω ν)} {stage last : Stage ω}
    {trace : List (String × Work)} {reports : List ScenarioReport}
    (h : suite.Performance scenarios stage trace reports last) :
    ∀ entry ∈ trace, entry.1 ∈ scenarios.map Scenario.name := by
  induction h with
  | finished => simp
  | next plays goesOn others ih =>
    intro entry hentry
    rcases List.mem_append.mp hentry with hown | hlater
    · obtain ⟨work, -, rfl⟩ := List.mem_map.mp hown
      exact List.mem_cons_self
    · exact List.mem_cons_of_mem _ (ih entry hlater)
  | aborted plays aborts =>
    intro entry hentry
    obtain ⟨work, -, rfl⟩ := List.mem_map.mp hentry
    exact List.mem_cons_self

theorem Performance.ranOnce {scenarios : List (Scenario ω ν)} {stage last : Stage ω}
    {trace : List (String × Work)} {reports : List ScenarioReport}
    (h : suite.Performance scenarios stage trace reports last)
    (hnames : (scenarios.map Scenario.name).Nodup) :
    ∀ report ∈ reports, suite.RanOnce trace report := by
  induction h with
  | finished => simp
  | @next scenario rest stage middle last works failed later reports plays goesOn others ih =>
    obtain ⟨hnew, hrest⟩ := List.nodup_cons.mp hnames
    intro report hreport
    rcases List.mem_cons.mp hreport with rfl | hreport
    · have hlater : workOf scenario.name later = [] :=
        workOf_eq_nil fun entry hentry heq => hnew (heq ▸ others.name_mem entry hentry)
      rw [ranOnce_played, workOf_append, workOf_self, hlater, List.append_nil]
      exact plays.hooksOnce
    · have hne : scenario.name ≠ report.name := by
        intro heq
        rw [heq, ← others.names] at hnew
        exact hnew (List.mem_map_of_mem hreport)
      have hown : workOf report.name (works.map (Prod.mk scenario.name)) = [] :=
        workOf_eq_nil (by simpa using fun _ _ => hne)
      have hran := ih hrest report hreport
      simpa only [RanOnce, workOf_append, hown, List.nil_append] using hran
  | @aborted scenario rest stage last works failed reason plays aborts =>
    obtain ⟨hnew, -⟩ := List.nodup_cons.mp hnames
    intro report hreport
    rcases List.mem_cons.mp hreport with rfl | hreport
    · rw [ranOnce_played, workOf_self]
      exact plays.hooksOnce
    · obtain ⟨other, hother, rfl⟩ := List.mem_map.mp hreport
      have hne : scenario.name ≠ other.name := fun heq =>
        hnew (heq ▸ List.mem_map_of_mem hother)
      exact workOf_eq_nil (by simpa using fun _ _ => hne)

end Suite
end LedgerBench
