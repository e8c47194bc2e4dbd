import LedgerBench.Proofs.Sweep.Course
import LedgerBench.Proofs.SweepStop

/-! What a pass over a range starts, and what it comes to. Its runs are started one after the other,
each of them once and the shortest first, and the records that are kept are those of the runs until
then. -/

namespace LedgerBench.Sweep

open Shutdown (Listener)
open Ground (ArgsFor RecordFor StoppedFrom)

/-- The arguments that belong to a run are those that its server is started with, and no others. -/
theorem argsFor_iff {conf : String} {n : Nat} {args : List String} :
    ArgsFor conf n args ↔ args = startArgs conf n := by
  have hfg : 2 ∣ n ↔ n % 2 = 0 := Nat.dvd_iff_mod_eq_zero
  have hnet : 3 ∣ n ↔ n % 3 = 0 := Nat.dvd_iff_mod_eq_zero
  constructor
  · rintro ⟨options, rfl, hsub, hfg', hnet'⟩
    rw [hfg] at hfg'
    rw [hnet] at hnet'
    simp only [List.sublist_cons_iff, List.sublist_nil] at hsub
    rw [startArgs, confArgument]
    rcases hsub with (rfl | ⟨_, rfl, rfl⟩) | ⟨_, rfl, rfl | ⟨_, rfl, rfl⟩⟩ <;>
      simp_all
  · rintro rfl
    refine ⟨_, rfl, ?_, ?_, ?_⟩
    · split <;> split <;> decide
    · rw [hfg]
      split <;> split <;> simp_all
    · rw [hnet]
      split <;> split <;> simp_all

theorem runOnce_ok {config : Config} {n : Nat} {listener listener' : Listener} {site site' : Site}
    {outcome : RunOutcome}
    (h : runOnce config n listener site = some (.ok outcome, listener', site')) :
    ∃ ending : Ending, ending.outcome config.confPath n config.patience = .ok outcome := by
  cases hlaunched : site.system.launch config.serverPath (startArgs config.confPath n)
      ⟨true, true⟩ with
  | error e =>
    simp only [runOnce, hlaunched] at h
    cases h
  | ok launched =>
    obtain ⟨server, system⟩ := launched
    rcases hwait : listener.waitIsOver site.channel with ⟨isOver, heard⟩
    cases isOver with
    | true =>
      simp only [runOnce, hlaunched, hwait, if_true] at h
      cases h
      exact ⟨.interrupted, rfl⟩
    | false =>
      simp only [runOnce, hlaunched, hwait, Bool.false_eq_true, if_false] at h
      split at h
      · cases h
      · cases h
      · simp only [Option.some.injEq, Prod.mk.injEq] at h
        exact ⟨_, h.1⟩

theorem Site.ground_records (config : Config) :
    (Site.ground config).Records config.confPath where
  stopped h := by
    obtain ⟨ending, hending⟩ := runOnce_ok h
    cases ending with
    | stopped took =>
      cases hending
      exact ⟨⟨argsFor_iff.2 rfl, rfl⟩, _, rfl⟩
    | interrupted | exitedBeforeStop | stalled => cases hending
  interrupted h := by
    obtain ⟨ending, hending⟩ := runOnce_ok h
    cases ending with
    | interrupted =>
      cases hending
      exact ⟨⟨argsFor_iff.2 rfl, rfl⟩, rfl⟩
    | stopped | exitedBeforeStop | stalled => cases hending

/-- Whatever the runs and the listener do, a pass comes to what its course comes to. The runs that
are started are consecutive from the lower bound on, those of the rounds and at most one more. The
records are those of the runs that were stopped, and after them that of a run that was interrupted.
-/
theorem passes_run_in_turn (config : Config) :
    (Site.ground config).Records config.confPath ∧
    (∀ conf n args, ArgsFor conf n args ↔ args = startArgs conf n) ∧
    ∀ {σ : Type} (ground : Ground σ) (conf : String), ground.Records conf →
      ∀ (range : Range) (s : σ),
        let low := range.low.toNat
        let count := range.high.toNat - low
        let Course := ground.Course low count (ground.channel s).listen s
        (∀ result, ground.pass range s = result ↔ ∃ records more, Course records more result) ∧
        (∀ records more result, Course records more result →
          StoppedFrom conf low records ∧ records.length + more ≤ count ∧
          (ground.noting.pass range (s, []) = result.map fun (result, last) =>
            (result, last, List.range' low (records.length + more))) ∧
          ∀ outcome last, result = some (.ok outcome, last) →
            outcome = .completed records ∧ records.length = count ∧ more = 0 ∨
            outcome = .interrupted records ∧ records.length < count ∧ more = 0 ∨
            ∃ record, outcome = .interrupted (records ++ [record]) ∧
              RecordFor conf (low + records.length) record ∧ record.stopTook = none ∧
              records.length < count ∧ more = 1) ∧
        (range.low = range.high →
          ground.noting.pass range (s, []) = some (.ok (.completed []), s, [])) := by
  refine ⟨Site.ground_records config, fun _ _ _ => argsFor_iff, ?_⟩
  intro σ ground conf hrecords range s low count Course
  refine ⟨fun result => Ground.runEach_eq_iff, fun records more result h => ?_, fun hempty => ?_⟩
  · have hnoted := (h.noting []).runEach_eq
    obtain ⟨hlength, heard, middle, rounds, ends⟩ := h
    have hmore := ends.more_le
    refine ⟨rounds.stoppedFrom hrecords, by omega, hnoted, fun outcome last hresult => ?_⟩
    subst hresult
    rcases ends.outcome_eq hrecords with
      ⟨rfl, hleft, rfl⟩ | ⟨rfl, hleft, rfl⟩ | ⟨record, rfl, hrecord, htook, hleft, rfl⟩
    · exact .inl ⟨rfl, by omega, rfl⟩
    · exact .inr (.inl ⟨rfl, by omega, rfl⟩)
    · exact .inr (.inr ⟨record, rfl, hrecord, htook, by omega, rfl⟩)
  · have hlength : range.length = 0 := by
      rw [Range.length, hempty, Nat.sub_self]
    simp only [Ground.pass, hlength, Ground.runEach]

/-- The signal comes while the server of the first run is stopping: that run is the only one that
is started. -/
theorem serverPass_interrupted :
    (Site.ground serverConfig).Records serverConfig.confPath ∧
    ∃ record last, (Site.ground serverConfig).noting.pass serverConfig.range
        (serverSite 0 [1000], []) = some (.ok (.interrupted [record]), last, [0]) ∧
      record.args = ["--conf=/test/divvyd.cfg", "--fg", "--net"] ∧ record.aliveFor = 0 ∧
      record.stopTook.isSome := by
  obtain ⟨hrecords, -, hpasses⟩ := passes_run_in_turn serverConfig
  refine ⟨hrecords, ?_⟩
  obtain ⟨hcourse, hcourses, -⟩ :=
    hpasses (Site.ground serverConfig) _ hrecords serverConfig.range (serverSite 0 [1000])
  have hpassed : runsOf ((Site.ground serverConfig).pass serverConfig.range (serverSite 0 [1000])) =
      some [0] := by
    decide +kernel
  have htooks : ((Site.ground serverConfig).pass serverConfig.range (serverSite 0 [1000])).all
      fun (result, _) => result.toOption.all fun outcome =>
        outcome.records.all (·.stopTook.isSome) := by
    decide +kernel
  obtain ⟨outcome, last, hpass, hruns⟩ := runsOf_eq_some hpassed
  obtain ⟨records, more, h⟩ := (hcourse _).1 hpass
  obtain ⟨hstopped, -, hnoted, houtcome⟩ := hcourses records more _ h
  rw [hpass] at htooks
  rcases houtcome outcome last rfl with
    ⟨rfl, hall, -⟩ | ⟨rfl, -, rfl⟩ | ⟨record, rfl, -, htook, -, rfl⟩
  · have hlength := congrArg List.length hruns
    rw [PassOutcome.records, List.length_map, hall] at hlength
    exact absurd hlength (by decide)
  · obtain ⟨record, rfl, -⟩ := List.map_eq_singleton_iff.1 hruns
    obtain ⟨⟨hargs, halive⟩, took, htook⟩ := hstopped 0 record rfl
    exact ⟨record, last, hnoted, argsFor_iff.1 hargs, halive, by rw [htook]; rfl⟩
  · simp [PassOutcome.records, htook, Except.toOption] at htooks

end LedgerBench.Sweep
