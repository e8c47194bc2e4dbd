import LedgerBench.Proofs.Sweep.Site

/-! A sweep and the stop signal. A single signal that comes after the first pass has begun is found
by the next look of the pass or of the sweep, and ends it. A signal from before the pass is not
heard by its listener, and of two signals between two looks nothing is seen at first. -/

namespace LedgerBench.Sweep

open Shutdown (Channel Listener)

/-- After a first pass has begun no run is started while just one signal has come: whatever runs
would do then, the sweep is the same. If the signal comes in some run of some pass, or while the
records of a pass are written, and no other one comes until the sweep looks for it, the sweep ends
there, with the records of that pass until then. -/
theorem one_signal_ends_sweep (config : Config) {report : List RunRecord → Site → Site}
    (hhandles : ∀ records site, (report records site).channel.handles = site.channel.handles)
    (hsent : ∀ records site, site.channel.sent ≤ (report records site).channel.sent) {site : Site}
    (hopen : 0 < site.channel.handles) (range : Range) (repeats : Bool) (limit : Nat) :
    let ground := Site.ground config
    let sent := site.channel.sent
    let sweep := ground.sweep report range repeats limit site.channel.listen site
    (∀ other, (ground.altered (sent + 1) other).sweep report range repeats limit
      site.channel.listen site = sweep) ∧
    ∀ count before, ground.QuietPasses report range count site before → count < limit →
      (count = 0 ∨ repeats = true ∧ range.isEmpty = false) →
      (∀ n records middle outcome listener last,
        ground.QuietRuns before.channel.listen range.low.toNat before records n middle →
        records.length < range.length →
        ground.runOnce n before.channel.listen middle = some (.ok outcome, listener, last) →
        last.channel.sent = sent + 1 →
        (report (records ++ [outcome.record]) last).channel.sent = sent + 1 →
        sweep = some (true, report (records ++ [outcome.record]) last)) ∧
      ∀ result last, ground.pass range before = some (result, last) →
        (Ground.closing report result last).2.channel.sent = sent + 1 →
        sweep = some (Ground.closing report result last) := by
  intro ground sent sweep
  have hlawful : ground.Lawful report := Site.ground_lawful config hhandles hsent
  refine ⟨fun other => ?_, fun count before hquiet hlimit hmore => ?_⟩
  · exact hlawful.sweep_altered hopen (Nat.le_refl _) (.inl ⟨rfl, rfl⟩) limit
  have hends : ∀ result last, ground.pass range before = some (result, last) →
      (Ground.closing report result last).2.channel.sent = sent + 1 →
      sweep = some (Ground.closing report result last) :=
    fun result last hpassed hlast =>
      hlawful.sweep_signalled hopen rfl hquiet hmore hlimit hpassed hlast
  refine ⟨?_, hends⟩
  intro n records middle outcome listener last hruns hlength hran hlast hreported
  obtain ⟨hkept, hbefore⟩ := hlawful.quietPasses_kept hquiet
  have hlisten : before.channel.listen = ⟨⟨sent⟩, false⟩ :=
    congrArg (fun passed => (⟨⟨passed⟩, false⟩ : Listener)) hbefore
  rw [hlisten] at hruns hran
  obtain ⟨ending, hpassed, hrecords⟩ := hlawful.runEach_signalled (k := sent)
    (by rw [hkept]; exact hopen) hbefore hruns hran hlast (range.length - records.length - 1)
  have hcount : records.length + (range.length - records.length - 1 + 1) = range.length := by omega
  rw [hcount, ← hlisten] at hpassed
  rw [← hrecords] at hreported ⊢
  exact hends (.ok ending) last hpassed hreported

def serverMachine : Machine :=
  let tools := ["sh", "sleep"].foldl (fun (machine : Machine) name =>
    machine.putFile ("/bin/" ++ name) ⟨.tool name, true⟩) (Machine.bare "/test")
  (tools.putFile "divvyd" (.ofText "#!/bin/sh\nsleep 1\n" true)).withSetting "PATH" "/bin"

def serverConfig : Config :=
  .basic ⟨0, 2, by decide⟩ "/test/divvyd" "/test/divvyd.cfg"

def serverSite (sent : Nat) (signals : List Nat) : Site :=
  { system := .start serverMachine, channel := ⟨sent, 1⟩, signals, lines := [], notice := none }

def writeRecords (records : List RunRecord) (site : Site) : Site :=
  site.say (recordsText records)

def sentAtStop : Option (Except RunError RunOutcome × Listener × Site) → Option Nat
  | some (.ok (.stopped _), _, last) => some last.channel.sent
  | _ => none

def runsOf : Option (Except RunError PassOutcome × Site) → Option (List Nat)
  | some (.ok outcome, _) => some (outcome.records.map (·.aliveFor))
  | _ => none

theorem sentAtStop_eq_some {run : Option (Except RunError RunOutcome × Listener × Site)} {sent : Nat}
    (h : sentAtStop run = some sent) :
    ∃ record listener last, run = some (.ok (.stopped record), listener, last) ∧
      last.channel.sent = sent := by
  unfold sentAtStop at h
  split at h
  · exact ⟨_, _, _, rfl, Option.some.inj h⟩
  · cases h

theorem runsOf_eq_some {pass : Option (Except RunError PassOutcome × Site)} {seconds : List Nat}
    (h : runsOf pass = some seconds) :
    ∃ outcome last, pass = some (.ok outcome, last) ∧
      outcome.records.map (·.aliveFor) = seconds := by
  unfold runsOf at h
  split at h
  · exact ⟨_, _, rfl, Option.some.inj h⟩
  · cases h

/-- The signal comes while the server of the first run is stopping. -/
theorem serverSweep_ends :
    let ground := Site.ground serverConfig
    let site := serverSite 0 [1000]
    let sweep := ground.sweep writeRecords serverConfig.range true 3 site.channel.listen site
    0 < site.channel.handles ∧
      (∀ other, (ground.altered 1 other).sweep writeRecords serverConfig.range true 3
        site.channel.listen site = sweep) ∧
      ∃ record last, last.channel.sent = 1 ∧ sweep = some (true, writeRecords [record] last) := by
  intro ground site sweep
  have hopen : 0 < site.channel.handles := by decide
  have hran : sentAtStop (ground.runOnce 0 site.channel.listen site) = some 1 := by decide +kernel
  obtain ⟨record, listener, last, hrun, hlast⟩ := sentAtStop_eq_some hran
  have hhandles : ∀ records (site : Site),
      (writeRecords records site).channel.handles = site.channel.handles := fun _ _ => rfl
  have hsent : ∀ records (site : Site),
      site.channel.sent ≤ (writeRecords records site).channel.sent := fun _ _ => Nat.le_refl _
  obtain ⟨hquiet, hends⟩ :=
    one_signal_ends_sweep serverConfig hhandles hsent hopen serverConfig.range true 3
  exact ⟨hopen, hquiet, record, last, hlast, (hends 0 site .none (by decide) (.inl rfl)).1 0 [] site
    (.stopped record) listener last .none (by decide) hrun hlast hlast⟩

/-- A signal from before the first pass, and two signals while the server of a run is stopping: each
time a run is started after them. -/
theorem signals_unheard :
    let ground := Site.ground serverConfig
    (∃ record last,
      ground.sweep writeRecords ⟨0, 1, by decide⟩ false 1 Channel.start.listen (serverSite 1 []) =
        some (true, writeRecords [record] last) ∧ record.aliveFor = 0) ∧
    ∃ record listener middle late last,
      ground.runOnce 0 Channel.start.listen (serverSite 0 [1000, 2000]) =
        some (.ok (.stopped record), listener, middle) ∧ middle.channel.sent = 2 ∧
      ground.sweep writeRecords serverConfig.range false 1 Channel.start.listen
        (serverSite 0 [1000, 2000]) = some (true, writeRecords [record, late] last) ∧
      late.aliveFor = 1 := by
  intro ground
  constructor
  · have hpassed : runsOf (ground.pass ⟨0, 1, by decide⟩ (serverSite 1 [])) = some [0] := by
      decide +kernel
    obtain ⟨outcome, last, hpass, hruns⟩ := runsOf_eq_some hpassed
    obtain ⟨record, hrecords, hrecord⟩ := List.map_eq_singleton_iff.1 hruns
    refine ⟨record, last, ?_, hrecord⟩
    rw [Ground.sweep_once hpass, Ground.closing, hrecords]
  · have hran : sentAtStop (ground.runOnce 0 Channel.start.listen (serverSite 0 [1000, 2000])) =
        some 2 := by decide +kernel
    have hpassed : runsOf (ground.pass serverConfig.range (serverSite 0 [1000, 2000])) =
        some [0, 1] := by decide +kernel
    obtain ⟨record, listener, middle, hrun, hsent⟩ := sentAtStop_eq_some hran
    obtain ⟨outcome, last, hpass, hruns⟩ := runsOf_eq_some hpassed
    -- the first of the two records is that of the run after which both signals were sent
    have hparts : ground.runEach 2 0 Channel.start.listen (serverSite 0 [1000, 2000]) =
        some (.ok outcome, last) := hpass
    rw [Ground.runEach_of_stopped rfl hrun, Option.map_eq_some_iff] at hparts
    obtain ⟨⟨e | rest, last'⟩, hlater, hparts⟩ := hparts
    · cases hparts
    · cases hparts
      rw [PassOutcome.records_after, List.map_cons, List.cons.injEq] at hruns
      obtain ⟨late, hrest, hlate⟩ := List.map_eq_singleton_iff.1 hruns.2
      refine ⟨record, listener, middle, late, last, hrun, hsent, ?_, hlate⟩
      rw [Ground.sweep_once hpass, Ground.closing, PassOutcome.records_after, hrest]

end LedgerBench.Sweep
