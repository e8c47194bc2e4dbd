import LedgerBench.Proofs.Suite.Asked
import LedgerBench.Shutdown.Exchange

/-! A suite that is asked once to stop stops right there: whatever asks for it, no step and no
scenario starts afterwards, and what runs is closed by its teardown. This holds as long as no step
looks for the signal through a clone of the scenario's listener, which takes the signal away from
it. -/

namespace LedgerBench.Suite

variable {ω ν : Type} [Inhabited ν] {suite : Suite ω ν}

/-- Scenarios played one after the other, none of which ends the suite. -/
inductive PlaysInTurn (suite : Suite ω ν) :
    List (Scenario ω ν) → Stage ω → List (String × Work) → List ScenarioReport → Stage ω → Prop
  | finished {stage : Stage ω} : PlaysInTurn suite [] stage [] [] stage
  | next {scenario : Scenario ω ν} {rest : List (Scenario ω ν)} {stage middle last : Stage ω}
      {works : List Work} {failed : Option (String × Failure)} {later : List (String × Work)}
      {reports : List ScenarioReport}
      (plays : suite.Plays scenario stage works failed middle)
      (goesOn : ∀ reason, ¬Aborts failed reason)
      (others : PlaysInTurn suite rest middle later reports last) :
      PlaysInTurn suite (scenario :: rest) stage
        (works.map (Prod.mk scenario.name) ++ later) (played scenario.name failed :: reports) last

theorem PlaysInTurn.performance {scenarios : List (Scenario ω ν)} {stage last : Stage ω}
    {trace : List (String × Work)} {reports : List ScenarioReport}
    (h : suite.PlaysInTurn scenarios stage trace reports last) :
    suite.Performance scenarios stage trace reports last := by
  induction h with
  | finished => exact .finished
  | next plays goesOn _ ih => exact .next plays goesOn ih

/-- Why the rest is skipped after a scenario in which the stop was asked for. -/
def skipReason : Option (String × Failure) → String
  | some (_, ⟨_, .aborted reason⟩) => reason
  | _ => "shutdown requested"

theorem skipReason_of_aborts {failed : Option (String × Failure)} {reason : String}
    (h : Aborts failed reason) : skipReason failed = reason := by
  cases h with
  | aborted | cancelled => rfl

theorem skipReason_of_not_aborts {failed : Option (String × Failure)}
    (h : ∀ reason, ¬Aborts failed reason) : skipReason failed = stopReason := by
  unfold skipReason
  split
  · exact absurd (.aborted _ _ _) (h _)
  · rfl

theorem runEach_sent_le (h : suite.Orderly) {scenarios : List (Scenario ω ν)}
    (hmem : ∀ scenario ∈ scenarios, scenario ∈ suite.scenarios) (listener : Shutdown.Listener)
    (reason : Option String) (stage : Stage ω) :
    stage.channel.sent ≤ (suite.runEach scenarios listener reason stage).2.channel.sent := by
  induction scenarios generalizing listener reason stage with
  | nil => exact le_rfl
  | cons scenario rest ih =>
    obtain ⟨hscenario, hrest⟩ := List.forall_mem_cons.mp hmem
    cases reason with
    | some reason =>
      rw [runEach_skipping]
    | none =>
      rcases hlooked : listener.shouldShutdown stage.channel with ⟨found, listener'⟩
      cases found with
      | true => simpa only [runEach, hlooked] using ih hrest _ _ _
      | false =>
        simp only [runEach, hlooked]
        exact (runScenario_sent_le h hscenario stage).trans (ih hrest _ _ _)

theorem runEach_asked {stage : Stage ω} (hsent : stage.channel.sent = 1)
    (scenarios : List (Scenario ω ν)) (failed : Option StepFailure) :
    suite.runEach scenarios ⟨⟨0⟩, false⟩ (abortOf failed) stage =
      (scenarios.map fun other =>
        ⟨other.name, .skipped (skipReason (failed.map StepFailure.noted)), 0⟩, stage) := by
  cases habort : abortOf failed with
  | some reason =>
    rw [runEach_skipping, skipReason_of_aborts (abortOf_eq_some_iff.mp habort)]
  | none =>
    rw [skipReason_of_not_aborts (abortOf_eq_none_iff.mp habort)]
    cases scenarios with
    | nil => rfl
    | cons scenario rest =>
      have hlook := Shutdown.Listener.shouldShutdown_of_succ (k := 0) hsent
      simp only [runEach, hlook, runEach_skipping, List.map_cons]

theorem runEach_stops (h : suite.Orderly) {scenarios : List (Scenario ω ν)}
    (hmem : ∀ scenario ∈ scenarios, scenario ∈ suite.scenarios) {stage : Stage ω}
    (hquiet : stage.Quiet 0)
    (hone : (suite.runEach scenarios ⟨⟨0⟩, false⟩ none stage).2.channel.sent = 1) :
    ∃ earlier scenario later middle trace reports works failed last,
      scenarios = earlier ++ scenario :: later ∧
      suite.PlaysInTurn earlier stage trace reports middle ∧ middle.channel.sent = 0 ∧
      suite.PlaysAsked scenario middle works failed last ∧
      suite.runEach scenarios ⟨⟨0⟩, false⟩ none stage =
        (reports ++ played scenario.name failed ::
          later.map fun other => ⟨other.name, .skipped (skipReason failed), 0⟩, last) := by
  induction scenarios generalizing stage with
  | nil =>
    rw [runEach, hquiet.sent] at hone
    exact absurd hone Nat.zero_ne_one
  | cons scenario rest ih =>
    obtain ⟨hscenario, hrest⟩ := List.forall_mem_cons.mp hmem
    rcases hran : suite.runScenario scenario stage with ⟨failed, middle⟩
    rcases hothers : suite.runEach rest ⟨⟨0⟩, false⟩ (abortOf failed) middle with ⟨reports, last⟩
    have heach := runEach_cons hquiet hran hothers
    have hle := runEach_sent_le h hrest ⟨⟨0⟩, false⟩ (abortOf failed) middle
    rw [heach] at hone
    rw [hothers, hone] at hle
    obtain ⟨works, failed', middle', hran', hcases⟩ :=
      runScenario_cases h hscenario hquiet (by rwa [hran])
    cases hran.symm.trans hran'
    rcases hcases with ⟨hmiddle, hplays⟩ | ⟨hmiddle, hasked⟩
    · -- nobody has asked, so the stop comes in a later scenario, and there is one
      cases habort : abortOf failed with
      | some reason =>
        rw [habort, runEach_skipping] at hothers
        cases hothers
        exact absurd (hmiddle.sent.symm.trans hone) Nat.zero_ne_one
      | none =>
        have hgoesOn := abortOf_eq_none_iff.mp habort
        rw [habort] at hothers
        obtain ⟨earlier, asker, later, before, trace, reports', works', failed', last', hsplit,
          hinTurn, hbefore, hasked, hreports⟩ := ih hrest hmiddle (by rw [hothers]; exact hone)
        cases hothers.symm.trans hreports
        refine ⟨scenario :: earlier, asker, later, before, _, _, works', failed', last, ?_,
          .next hplays hgoesOn hinTurn, hbefore, hasked, ?_⟩
        · rw [hsplit, List.cons_append]
        · rw [heach, played_noted, List.cons_append]
    · rw [runEach_asked hmiddle] at hothers
      cases hothers
      refine ⟨[], scenario, rest, stage, [], [], works, failed.map StepFailure.noted, middle, rfl,
        .finished, hquiet.sent, hasked, ?_⟩
      rw [heach, played_noted, List.nil_append]

/-- What ran before the scenario that was cut short, in it and after it. -/
theorem ranOnce_stopped {earlier later : List (Scenario ω ν)} {scenario : Scenario ω ν}
    {stage middle last : Stage ω} {trace : List (String × Work)} {reports : List ScenarioReport}
    {works : List Work} {failed : Option (String × Failure)} {reason : String}
    (hnames : ((earlier ++ scenario :: later).map Scenario.name).Nodup)
    (hinTurn : suite.PlaysInTurn earlier stage trace reports middle)
    (hasked : suite.PlaysAsked scenario middle works failed last) :
    ∀ report ∈ reports ++ played scenario.name failed ::
        later.map fun other => ⟨other.name, .skipped reason, 0⟩,
      suite.RanOnce (trace ++ works.map (Prod.mk scenario.name)) report := by
  rw [List.map_append, List.map_cons, List.nodup_append'] at hnames
  obtain ⟨hearlier, hrest, hdisjoint⟩ := hnames
  obtain ⟨hnew, -⟩ := List.nodup_cons.mp hrest
  have htrace : ∀ name ∈ scenario.name :: later.map Scenario.name, workOf name trace = [] := by
    intro name hname
    refine workOf_eq_nil fun entry hentry heq => ?_
    exact hdisjoint (heq ▸ hinTurn.performance.name_mem entry hentry) hname
  have hworks : ∀ name, scenario.name ≠ name →
      workOf name (works.map (Prod.mk scenario.name)) = [] :=
    fun name hne => workOf_eq_nil (by simpa using fun _ _ => hne)
  intro report hreport
  rcases List.mem_append.mp hreport with hreport | hreport
  · have hmem : report.name ∈ earlier.map Scenario.name := by
      rw [← hinTurn.performance.names]
      exact List.mem_map_of_mem hreport
    have hne : scenario.name ≠ report.name :=
      fun heq => hdisjoint hmem (heq ▸ List.mem_cons_self)
    refine (hinTurn.performance.ranOnce hearlier report hreport).of_workOf ?_
    rw [workOf_append, hworks _ hne, List.append_nil]
  · rcases List.mem_cons.mp hreport with rfl | hreport
    · rw [ranOnce_played, workOf_append, workOf_self, htrace _ List.mem_cons_self,
        List.nil_append]
      exact hasked.hooksOnce
    · obtain ⟨other, hother, rfl⟩ := List.mem_map.mp hreport
      have hmem : other.name ∈ later.map Scenario.name := List.mem_map_of_mem hother
      have hne : scenario.name ≠ other.name := fun heq => hnew (heq ▸ hmem)
      change workOf other.name _ = []
      rw [workOf_append, htrace _ (List.mem_cons_of_mem _ hmem), hworks _ hne, List.append_nil]

/-- A suite that is asked once to stop, be it in setup, in a step or in teardown, plays the scenario
in which that happens up to there and no further, closes it with its one teardown, and skips the
scenarios after it. Its hooks and steps may look for the signal themselves, but not through a
clone of their listener. -/
theorem stops_where_asked (h : suite.Orderly) (options : SuiteOptions) (world : ω)
    (hone : (suite.run options world).2.channel.sent = 1) :
    ∃ earlier scenario later middle trace reports works failed last,
      (suite.scenarios.filter fun scenario =>
        decide (∀ part ∈ options.filter, part.toList <:+: scenario.name.toList)) =
          earlier ++ scenario :: later ∧
      suite.PlaysInTurn earlier (openStage options world) trace reports middle ∧
      middle.channel.sent = 0 ∧
      suite.PlaysAsked scenario middle works failed last ∧
      let all := reports ++ played scenario.name failed ::
        later.map fun other => ⟨other.name, .skipped (skipReason failed), 0⟩
      suite.run options world = (.ok ⟨suite.name, all⟩, last) ∧
      ∀ report ∈ all, suite.RanOnce (trace ++ works.map (Prod.mk scenario.name)) report := by
  have hquiet : (openStage options world).Quiet 0 := ⟨rfl, Nat.one_pos⟩
  cases hrepeated : firstRepeated [] (suite.scenarios.map Scenario.name) with
  | some name =>
    simp only [run, hrepeated] at hone
    exact absurd hone Nat.zero_ne_one
  | none =>
    have hrun : suite.run options world =
        (.ok ⟨suite.name, (suite.runEach (suite.selected options.filter) ⟨⟨0⟩, false⟩ none
          (openStage options world)).1⟩,
          (suite.runEach (suite.selected options.filter) ⟨⟨0⟩, false⟩ none
            (openStage options world)).2) := by
      simp only [run, hrepeated]
      rfl
    have hmem : ∀ scenario ∈ suite.selected options.filter, scenario ∈ suite.scenarios :=
      fun scenario hscenario => (List.mem_filter.mp hscenario).1
    rw [hrun] at hone
    obtain ⟨earlier, scenario, later, middle, trace, reports, works, failed, last, hsplit, hinTurn,
      hmiddle, hasked, hreports⟩ := runEach_stops h hmem hquiet hone
    have hnodup := (firstRepeated_eq_none_iff List.nodup_nil).mp hrepeated
    have hnames : ((suite.selected options.filter).map Scenario.name).Nodup :=
      hnodup.sublist (List.filter_sublist.map Scenario.name)
    rw [hsplit] at hnames
    rw [hreports] at hrun
    exact ⟨earlier, scenario, later, middle, trace, reports, works, failed, last,
      (suite.selected_eq options.filter).symm.trans hsplit, hinTurn, hmiddle, hasked, hrun,
      ranOnce_stopped hnames hinTurn hasked⟩

/-- Two scenarios, of which the first asks for the stop before its last step. -/
def stopsItself : Suite Script.Journal (List String) :=
  Script.suite "payments" none (some ⟨[.event "closed"], []⟩)
    [⟨"send", .series, [("request stop", [.forceStop]), ("submit", [])]⟩,
      ⟨"receive", .series, [("wait", [])]⟩]

theorem stopsItself_stopped :
    let options : SuiteOptions := ⟨"ws://127.0.0.1:6006", none, false⟩
    let reports : List ScenarioReport :=
      [⟨"send", .failed "submit" "Execution cancelled by shutdown signal", 0⟩,
        ⟨"receive", .skipped "shutdown requested", 0⟩]
    stopsItself.Orderly ∧ (stopsItself.run options []).2.channel.sent = 1 ∧
      (stopsItself.run options []).1 = .ok ⟨"payments", reports⟩ ∧
      ∃ trace, ∀ report ∈ reports, stopsItself.RanOnce trace report := by
  intro options reports
  have horderly : stopsItself.Orderly := Script.orderly_suite _ _ _ _
  have hone : (stopsItself.run options []).2.channel.sent = 1 := by rfl
  have hreports : (stopsItself.run options []).1 = .ok ⟨"payments", reports⟩ := by rfl
  obtain ⟨earlier, scenario, later, middle, trace, reports', works, failed, last, -, -, -, -, hrun,
    honce⟩ := stops_where_asked horderly options [] hone
  have hall := hreports
  rw [hrun] at hall
  injection hall with hall
  injection hall with _ hall
  exact ⟨horderly, hone, hreports, _, fun report hmem => honce report (hall ▸ hmem)⟩

/-- Looks for the signal through a clone of the scenario's listener. The two share one receiver, and
each is triggered by itself. -/
def lookThroughClone : StepM ω ν Bool := do
  let scene ← get
  let (found, clone) := scene.listener.shouldShutdown scene.stage.channel
  set { scene with listener := { scene.listener with receiver := clone.receiver } }
  return found

/-- The first step asks for the stop and then finds it through a clone. -/
def looksAside : Suite (List String) Unit where
  name := "payments"
  setup := none
  teardown := none
  scenarios :=
    [⟨"send", Unit, ⟨.series,
      [⟨"request stop", fun _ => do
        StepM.forceStop
        let found ← lookThroughClone
        StepM.modifyWorld (· ++ [s!"stop found: {found}"])⟩,
      ⟨"submit", fun _ => StepM.modifyWorld (· ++ ["submitted"])⟩]⟩⟩,
    ⟨"receive", Unit, ⟨.series, []⟩⟩]

/-- What a clone of the scenario's listener finds after the one signal, and after that the
scenario's listener and the one of the suite. -/
def looksAfterClone : Option (List Bool) := do
  let exchange ← (Shutdown.Exchange.start "h").listen "suite" "h"
  let exchange ← exchange.listen "scenario" "h"
  let exchange ← exchange.cloneListener "scenario" "clone"
  let exchange ← exchange.shutdown "h"
  let (clone, exchange) ← exchange.shouldShutdown "clone"
  let (scenario, exchange) ← exchange.shouldShutdown "scenario"
  let (suite, _) ← exchange.shouldShutdown "suite"
  return [clone, scenario, suite]

/-- The clone takes the signal, so the next step starts and the scenario passes. -/
theorem stop_taken_by_clone :
    looksAfterClone = some [true, false, true] ∧
    let options : SuiteOptions := ⟨"ws://127.0.0.1:6006", none, false⟩
    ∃ last, looksAside.run options [] =
        (.ok ⟨"payments", [⟨"send", .passed, 0⟩, ⟨"receive", .skipped "shutdown requested", 0⟩]⟩,
          last) ∧
      last.channel.sent = 1 ∧ last.world = ["stop found: true", "submitted"] :=
  ⟨by decide, _, rfl, rfl, by decide⟩

end LedgerBench.Suite
