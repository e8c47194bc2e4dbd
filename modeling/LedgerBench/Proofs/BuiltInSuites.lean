import LedgerBench.Proofs.Suites.NoDivvy

/-! The built-in suites pass against a ledger in memory, whatever keys are drawn. -/

namespace LedgerBench.Suites

open Fixture

variable {ε : Type}

/-- How many accounts a built-in scenario creates. -/
def drawsOf (scenario : String) : Nat :=
  if scenario = "RequireAuth with trust lines" then 1
  else if scenario = "set and clear NoDivvy" then 1
  else if scenario = "set NoDivvy on line with negative balance" then 3
  else if scenario = "pairwise NoDivvy" then 3
  else if scenario = "Set default divvy on account, check new trustline" then 2
  else 0

theorem accountSet_passes :
    ∀ scenario ∈ (accountSet : Suite (Bench ε) (Fixture Link)).scenarios,
      Passes scenario (drawsOf scenario.name) := by
  refine List.forall_mem_cons.2 ⟨nullAccountSet_passes _, ?_⟩
  refine List.forall_mem_cons.2 ⟨flagRoundTrip_passes _ _ (by decide) (by decide), ?_⟩
  refine List.forall_mem_cons.2 ⟨flagRoundTrip_passes _ _ (by decide) (by decide), ?_⟩
  refine List.forall_mem_cons.2 ⟨flagRoundTrip_passes _ _ (by decide) (by decide), ?_⟩
  exact List.forall_mem_singleton.2 (requireAuthWithOwnedLines_passes _)

theorem noDivvy_passes :
    ∀ scenario ∈ (noDivvy : Suite (Bench ε) (Fixture Link)).scenarios,
      Passes scenario (drawsOf scenario.name) := by
  refine List.forall_mem_cons.2 ⟨setAndClear_passes _, ?_⟩
  refine List.forall_mem_cons.2 ⟨negativeBalance_passes _, ?_⟩
  exact List.forall_mem_singleton.2 (pairwise_passes _)

theorem defaultDivvy_passes :
    ∀ scenario ∈ (defaultDivvy : Suite (Bench ε) (Fixture Link)).scenarios,
      Passes scenario (drawsOf scenario.name) :=
  List.forall_mem_singleton.2 (defaultDivvyNewLine_passes _)

/-- Each scenario of a suite passes that draws as many keys as it creates accounts. -/
structure Playable (suite : Suite (Bench ε) (Fixture Link)) : Prop where
  setup : suite.setup = some connectRemote
  teardown : suite.teardown = some disconnectRemote
  names : (suite.scenarios.map Scenario.name).Nodup
  passes : ∀ scenario ∈ suite.scenarios, Passes scenario (drawsOf scenario.name)

theorem playable {suite : Suite (Bench ε) (Fixture Link)}
    (h : suite ∈ [accountSet, noDivvy, defaultDivvy]) : Playable suite := by
  simp only [List.mem_cons, List.not_mem_nil, or_false] at h
  rcases h with rfl | rfl | rfl
  · exact ⟨rfl, rfl, by simp [accountSet], accountSet_passes⟩
  · exact ⟨rfl, rfl, by simp [noDivvy], noDivvy_passes⟩
  · exact ⟨rfl, rfl, by simp [defaultDivvy], defaultDivvy_passes⟩

/-- The scenarios of the built-in suites are all reported as passed when each of them runs against a
ledger in memory of its own: for all keys that are drawn, as long as they are distinct and none of
them is that of the root account. Afterwards just these keys are gone from the bench. -/
theorem builtIn_pass {suite : Suite (Bench ε) (Fixture Link)}
    (hsuite : suite ∈ [accountSet, noDivvy, defaultDivvy]) (options : SuiteOptions)
    (hmemory : options.connection = "memory://") (bench : Bench ε)
    (hconf : bench.machine.setting? "DIVVYD_CONF" = none)
    (hsecret : (bench.machine.setting? "DIVVYD_ROOT_SECRET").getD genesisPassphrase =
      genesisPassphrase)
    (hkeys : bench.keys.Distinct (keysOf drawsOf (suite.selected options.filter))) :
    ∃ last, suite.run options bench =
        (.ok ⟨suite.name, (suite.selected options.filter).map fun scenario =>
          ⟨scenario.name, .passed, 0⟩⟩, last) ∧
      last.world = { bench with
        keys := bench.keys.rest (keysOf drawsOf (suite.selected options.filter)) } := by
  obtain ⟨hsetup, hteardown, hnames, hpasses⟩ := playable hsuite
  have hfound : firstRepeated [] (suite.scenarios.map Scenario.name) = none :=
    (firstRepeated_eq_none_iff List.nodup_nil).mpr hnames
  have hselected : ∀ scenario ∈ suite.selected options.filter,
      Passes scenario (drawsOf scenario.name) :=
    fun scenario hscenario => hpasses scenario (List.mem_of_mem_filter hscenario)
  have hquiet : (Suite.openStage options bench).Quiet 0 := ⟨rfl, Nat.one_pos⟩
  obtain ⟨last, hrun, hlast⟩ :=
    runEach_passes hsetup hteardown hselected ⟨hmemory, hconf, hsecret⟩ hquiet hkeys
  refine ⟨last, ?_, hlast⟩
  simp only [Suite.run, hfound, hquiet.listen, hrun]

theorem seeded_noDivvy_passes :
    let bench : Bench Empty := ⟨.bare "/home/divvy", .offline, .seeded 1, []⟩
    bench.machine.setting? "DIVVYD_CONF" = none ∧
      bench.machine.setting? "DIVVYD_ROOT_SECRET" = none ∧ bench.keys.Distinct 7 ∧
      ∃ last, noDivvy.run ⟨"memory://", none, true⟩ bench =
        (.ok ⟨"NoDivvy", [⟨"set and clear NoDivvy", .passed, 0⟩,
          ⟨"set NoDivvy on line with negative balance", .passed, 0⟩,
          ⟨"pairwise NoDivvy", .passed, 0⟩]⟩, last) := by
  intro bench
  have hkeys : bench.keys.Distinct 7 :=
    ⟨by decide +kernel, by decide +kernel, by decide +kernel⟩
  obtain ⟨last, hrun, -⟩ := builtIn_pass (List.mem_cons_of_mem _ List.mem_cons_self)
    ⟨"memory://", none, true⟩ rfl bench rfl rfl hkeys
  exact ⟨rfl, rfl, hkeys, last, hrun⟩

end LedgerBench.Suites
