import LedgerBench.Proofs.Sweep.Turns
import LedgerBench.Proofs.SweepStop

/-! How a run of the server ends. What a run comes to follows from the order of what happens alone,
and at every machine a run does what its history there asks for, at the right time: it issues the
stop command when its seconds are over, and with the watchdog it waits no longer than its patience
after that. -/

namespace LedgerBench.Sweep

open Shutdown (Listener)
open History (First Finished Timely)

/-! ### Deadlines -/

section Deadlines

variable {config : Config} {stopAt now : Nat} {deadline : Option Nat} {phase : Phase}

/-- While a server is left running until some time, a run waits for this time. After that it waits
for the end of its patience if there is a watchdog, and for no time at all if there is none. -/
def OnTime (config : Config) (stopAt now : Nat) (deadline : Option Nat) : Phase → Prop
  | .alive _ => deadline = some stopAt ∧ now ≤ stopAt
  | .stopping .. => deadline = Progress.deadlineAfter config stopAt ∧
      ∀ time, deadline = some time → now ≤ time
  | .ended _ => config.abortOnStall = true → now ≤ stopAt + 1000 * config.patience

/-- The times at which a run is told that a time is over. -/
def Due (config : Config) (stopAt : Nat) : Nat × Happening → Prop
  | (time, .elapsed) => time = stopAt
  | (time, .overdue) => config.abortOnStall = true ∧ time = stopAt + 1000 * config.patience
  | (_, .exited _) | (_, .shutdown) | (_, .outputClosed) => True

theorem OnTime.limit (h : OnTime config stopAt now deadline phase)
    (hwatchdog : config.abortOnStall = true) : now ≤ stopAt + 1000 * config.patience := by
  cases phase with
  | alive => exact Nat.le_add_right_of_le h.2
  | stopping =>
    refine h.2 _ (h.1.trans ?_)
    simp only [Progress.deadlineAfter, hwatchdog, if_true]
  | ended => exact h hwatchdog

theorem OnTime.after (h : OnTime config stopAt now deadline phase) {happening : Happening}
    (hother : happening ≠ .elapsed ∧ happening ≠ .overdue) :
    OnTime config stopAt now deadline (phase.after config.abortOnStall now happening).1 ∧
      (phase.after config.abortOnStall now happening).2 = none := by
  cases phase with
  | alive closed =>
    cases happening with
    | elapsed => exact absurd rfl hother.1
    | overdue => exact absurd rfl hother.2
    | exited | shutdown => exact ⟨h.limit, rfl⟩
    | outputClosed => exact ⟨h, rfl⟩
  | stopping since exited closed =>
    cases happening with
    | elapsed => exact absurd rfl hother.1
    | overdue => exact absurd rfl hother.2
    | shutdown => exact ⟨h, rfl⟩
    | exited | outputClosed =>
      refine ⟨?_, rfl⟩
      simp only [Phase.after, Phase.settled]
      split
      · exact h.limit
      · exact h
  | ended => rw [Phase.after_ended]; exact ⟨h, rfl⟩

theorem OnTime.afterAll (h : OnTime config stopAt now deadline phase) {happenings : List Happening}
    (hother : ∀ happening ∈ happenings, happening ≠ .elapsed ∧ happening ≠ .overdue) :
    OnTime config stopAt now deadline
        (phase.afterAll config.abortOnStall (happenings.map (now, ·))).1 ∧
      (phase.afterAll config.abortOnStall (happenings.map (now, ·))).2 = [] := by
  induction happenings generalizing phase with
  | nil => exact ⟨h, rfl⟩
  | cons happening rest ih =>
    obtain ⟨hfirst, hrest⟩ := List.forall_mem_cons.1 hother
    obtain ⟨hafter, haction⟩ := h.after hfirst
    obtain ⟨hlast, hactions⟩ := ih hafter hrest
    refine ⟨hlast, ?_⟩
    simp only [List.map_cons, Phase.afterAll, haction, hactions]
    rfl

theorem OnTime.turn {progress middle progress' : Progress} {site there site' : Site}
    {happenings : List Happening}
    (h : OnTime config stopAt site.system.clock progress.deadline progress.phase)
    (hgoing : ∀ ending, progress.phase ≠ .ended ending)
    (hnext : Progress.Next progress site happenings middle there)
    (htold : middle.tellAll config happenings there = .ok (progress', site')) :
    OnTime config stopAt site'.system.clock progress'.deadline progress'.phase ∧
      ∀ happening ∈ happenings, Due config stopAt (there.system.clock, happening) := by
  have htells := Progress.tellAll_tells htold
  rw [htells.phase, htells.clock, htells.deadline]
  cases hnext with
  | @elapsed time closed due hphase =>
    rw [hphase] at h
    obtain ⟨hdeadline, hnow⟩ := h
    cases due.symm.trans hdeadline
    have hclock : (site.waitUntil stopAt).system.clock = stopAt := Nat.max_eq_right hnow
    simp only [hphase, hclock]
    refine ⟨⟨rfl, fun time htime => ?_⟩, fun happening hmem => ?_⟩
    · simp [Phase.afterAll, Phase.after, Progress.deadlineAfter] at htime
      omega
    · rw [List.mem_singleton.1 hmem]
      rfl
  | @overdue time due hphase =>
    cases hstopping : progress.phase with
    | alive closed => exact absurd hstopping (hphase closed)
    | ended ending => exact absurd hstopping (hgoing ending)
    | stopping since exited closed =>
      rw [hstopping] at h
      obtain ⟨hdeadline, hnow⟩ := h
      -- only a watchdog has set a deadline
      have hset := hdeadline.symm.trans due
      simp only [Progress.deadlineAfter, Option.ite_none_right_eq_some, Option.some.injEq] at hset
      obtain ⟨hwatchdog, rfl⟩ := hset
      have hclock : (site.waitUntil (stopAt + 1000 * config.patience)).system.clock =
          stopAt + 1000 * config.patience := Nat.max_eq_right (hnow _ due)
      simp only [hclock, Phase.afterAll, Phase.after, hwatchdog, if_true, List.map_cons,
        List.map_nil]
      refine ⟨fun _ => Nat.le_refl _, fun happening hmem => ?_⟩
      rw [List.mem_singleton.1 hmem]
      exact ⟨hwatchdog, rfl⟩
  | @other _ listener _ told soon goes =>
    have hthere : OnTime config stopAt there.system.clock progress.deadline progress.phase := by
      cases hphase : progress.phase with
      | ended ending => exact absurd hphase (hgoing ending)
      | alive =>
        rw [hphase] at h
        exact ⟨h.1, soon stopAt h.1 h.2⟩
      | stopping =>
        rw [hphase] at h
        exact ⟨h.1, fun time htime => soon time htime (h.2 time htime)⟩
    obtain ⟨hafter, hactions⟩ := hthere.afterAll told
    rw [hactions]
    refine ⟨hafter, fun happening hmem => ?_⟩
    obtain ⟨helapsed, hoverdue⟩ := told happening hmem
    cases happening with
    | elapsed => exact absurd rfl helapsed
    | overdue => exact absurd rfl hoverdue
    | exited | shutdown | outputClosed => trivial

theorem OnTime.turns {count : Nat} {progress last : Progress} {site lastSite : Site}
    {history : History}
    (h : OnTime config stopAt site.system.clock progress.deadline progress.phase)
    (hturns : progress.turns config count site = (history, last, lastSite)) :
    OnTime config stopAt lastSite.system.clock last.deadline last.phase ∧
      ∀ e ∈ history, Due config stopAt e := by
  induction count generalizing progress site history with
  | zero =>
    cases hturns
    exact ⟨h, nofun⟩
  | succ count ih =>
    rcases Progress.turns_succ_cases hturns with ⟨rfl, rfl, rfl, -⟩ |
      ⟨hgoing, happenings, middle, there, progress', site', later, hnext, htold, hlater, rfl, -⟩
    · exact ⟨h, nofun⟩
    obtain ⟨hafter, hdue⟩ := h.turn hgoing hnext htold
    obtain ⟨hlast, hrest⟩ := ih hafter hlater
    refine ⟨hlast, fun e hmem => ?_⟩
    rcases List.mem_append.1 hmem with hmem | hmem
    · obtain ⟨happening, htold, rfl⟩ := List.mem_map.1 hmem
      exact hdue happening htold
    · exact hrest e hmem

end Deadlines

/-! ### Runs -/

/-- What a run of `n` seconds is told in its first turns, so many of them at most, when its server
has been started at a site, with its listener and the site then. A listener that has been waiting
for a signal already ends it at once. -/
def firstTurns (config : Config) (n count : Nat) (listener : Listener) (server : Nat)
    (site : Site) : History × Listener × Site :=
  let (isOver, heard) := listener.waitIsOver site.channel
  if isOver then ([(site.system.clock, .shutdown)], heard, site)
  else
    let (history, progress, last) := Progress.turns config count
      ⟨server, .start, some (site.system.clock + 1000000 * n), heard⟩ site
    (history, progress.listener, last)

section Launched

variable {config : Config} {n server count : Nat} {listener heard : Listener} {site last : Site}
  {system : Shell.System} {history : History} {progress : Progress}

theorem runOnce_eq
    (hlaunched : site.system.launch config.serverPath (startArgs config.confPath n) ⟨true, true⟩ =
      .ok (server, system))
    (hwait : listener.waitIsOver site.channel = (false, heard)) :
    runOnce config n listener site =
      (Progress.finish config stepLimit
        ⟨server, .start, some (system.clock + 1000000 * n), heard⟩ { site with system }).map
        fun (result, heard, last) =>
          (result.bind (·.outcome config.confPath n config.patience), heard, last) := by
  simp only [runOnce, hlaunched, hwait, Bool.false_eq_true, if_false]
  split
  · next hnone => rw [hnone]; rfl
  · next herror => rw [herror]; rfl
  · next hended => rw [hended]; rfl

theorem runOnce_ended {ending : Ending}
    (hlaunched : site.system.launch config.serverPath (startArgs config.confPath n) ⟨true, true⟩ =
      .ok (server, system))
    (hwait : listener.waitIsOver site.channel = (false, heard))
    (hturns : Progress.turns config count
      ⟨server, .start, some (system.clock + 1000000 * n), heard⟩ { site with system } =
        (history, progress, last))
    (hended : progress.phase = .ended ending) (hcount : count < stepLimit) :
    runOnce config n listener site =
      some (ending.outcome config.confPath n config.patience, progress.listener, last) := by
  have hfuel : stepLimit = count + (stepLimit - count - 1 + 1) := by omega
  rw [runOnce_eq hlaunched hwait, hfuel, Progress.finish_turns hturns,
    Progress.finish_ended hended]
  rfl

theorem runOnce_going
    (hlaunched : site.system.launch config.serverPath (startArgs config.confPath n) ⟨true, true⟩ =
      .ok (server, system))
    (hwait : listener.waitIsOver site.channel = (false, heard))
    (hturns : Progress.turns config count
      ⟨server, .start, some (system.clock + 1000000 * n), heard⟩ { site with system } =
        (history, progress, last))
    (hgoing : ∀ ending, progress.phase ≠ .ended ending) (hcount : count + 1 = stepLimit) :
    runOnce config n listener site = none ∨
      ∃ e, last.system.launch config.serverPath (stopArgs config.confPath) ⟨false, false⟩ =
          .error e ∧
        runOnce config n listener site =
          some (.error (.stop e.message), progress.listener, last) := by
  rw [runOnce_eq hlaunched hwait, ← hcount, Progress.finish_turns hturns 0]
  rcases Progress.finish_going config last hgoing with hnone | ⟨e, hlaunch, hfailed⟩
  · exact .inl (by rw [hnone]; rfl)
  · exact .inr ⟨e, hlaunch, by rw [hfailed]; rfl⟩

end Launched

/-- Each run ends in the one outcome that the order of what happens asks for. What it comes to and
does is its verdict, whatever happens in whatever order; and at every machine, as far as a run has
come there, its verdict is what it has done to the machine and, if there is an outcome, that is what
it gives. Without one it has not ended, unless the stop command could not be started. The seconds
are over in time, and so is the patience with the watchdog, which is counted from the stop command.
-/
theorem runs_end_by_verdict (config : Config) (n : Nat) :
    (∀ history result actions, Verdict config n history result actions ↔
      (Phase.start.afterAll config.abortOnStall history).1.result? config n = result ∧
        (Phase.start.afterAll config.abortOnStall history).2 = actions) ∧
    ∀ listener site server system,
      site.system.launch config.serverPath (startArgs config.confPath n) ⟨true, true⟩ =
        .ok (server, system) →
      ∀ count history heard last,
        firstTurns config n count listener server { site with system } = (history, heard, last) →
        let stopAt := system.clock + 1000000 * n
        (∃ result actions, Verdict config n history result actions ∧
          Goes config server { site with system } actions last ∧
          (.kill ∈ actions → last.system.exists? server = false) ∧
          (∀ ending, result = some ending → count < stepLimit →
            runOnce config n listener site = some (ending, heard, last)) ∧
          (result = none → count + 1 = stepLimit → runOnce config n listener site = none ∨
            ∃ e, last.system.launch config.serverPath (stopArgs config.confPath) ⟨false, false⟩ =
                .error e ∧
              runOnce config n listener site = some (.error (.stop e.message), heard, last))) ∧
        (∀ e ∈ history, Due config stopAt e) ∧
        ((∀ e ∈ history, e.2.decides = false) → last.system.clock ≤ stopAt) ∧
        (config.abortOnStall = true → last.system.clock ≤ stopAt + 1000 * config.patience) := by
  refine ⟨fun history result actions => verdict_iff, ?_⟩
  intro listener site server system hlaunched count history heard last hturns stopAt
  rcases hwait : listener.waitIsOver site.channel with ⟨isOver, heard'⟩
  cases isOver with
  | true =>
    simp only [firstTurns, hwait, if_true] at hturns
    cases hturns
    have hfirst : First [(system.clock, .shutdown)] [] system.clock .shutdown [] :=
      ⟨rfl, List.forall_mem_nil _, rfl⟩
    refine ⟨⟨_, _, .interrupted hfirst, .rest, ?_, ?_, ?_⟩, ?_, ?_, ?_⟩
    · intro hkill
      cases hkill
    · intro ending hending _
      cases hending
      simp only [runOnce, hlaunched, hwait, if_true]
      rfl
    · intro hnone
      cases hnone
    · intro e hmem
      rw [List.mem_singleton.1 hmem]
      trivial
    · intro _
      exact Nat.le_add_right _ _
    · intro _
      exact Nat.le_add_right_of_le (Nat.le_add_right _ _)
  | false =>
    simp only [firstTurns, hwait, Bool.false_eq_true, if_false] at hturns
    rcases hran : Progress.turns config count ⟨server, .start, some stopAt, heard'⟩
      { site with system } with ⟨past, progress, there⟩
    rw [hran] at hturns
    cases hturns
    obtain ⟨hphase, hgoes⟩ := Progress.turns_goes hran
    have hstart : OnTime config stopAt system.clock (some stopAt) .start :=
      ⟨rfl, Nat.le_add_right _ _⟩
    obtain ⟨hon, hdue⟩ := hstart.turns hran
    obtain ⟨result, actions, hverdict⟩ := Verdict.exists config n past
    obtain ⟨hresult, hactions⟩ := hverdict.computed
    rw [← hphase] at hresult
    rw [hactions] at hgoes
    refine ⟨⟨result, actions, hverdict, hgoes, hgoes.killed, ?_⟩, hdue, fun hundecided => ?_,
      hon.limit⟩
    · cases hended : progress.phase with
      | ended ending =>
        rw [hended] at hresult
        subst hresult
        constructor
        · intro ending' hending hcount
          cases hending
          exact runOnce_ended hlaunched hwait hran hended hcount
        · intro hnone
          cases hnone
      | alive | stopping =>
        rw [hended] at hresult
        subst hresult
        have hgoing : ∀ ending, progress.phase ≠ .ended ending := by simp [hended]
        constructor
        · intro ending hending
          cases hending
        · exact fun _ => runOnce_going hlaunched hwait hran hgoing
    · rw [Phase.start, Phase.afterAll_undecided hundecided] at hphase
      rw [hphase] at hon
      exact hon.2

/-- What a run is told in its first turns at a site, if its server can be started there. -/
def historyAt (config : Config) (n count : Nat) (site : Site) : Option History :=
  match site.system.launch config.serverPath (startArgs config.confPath n) ⟨true, true⟩ with
  | .error _ => none
  | .ok (server, system) =>
    some (firstTurns config n count site.channel.listen server { site with system }).1

theorem historyAt_eq_some {config : Config} {n count : Nat} {site : Site} {history : History}
    (h : historyAt config n count site = some history) :
    ∃ server system,
      site.system.launch config.serverPath (startArgs config.confPath n) ⟨true, true⟩ =
        .ok (server, system) ∧
      (firstTurns config n count site.channel.listen server { site with system }).1 = history := by
  unfold historyAt at h
  split at h
  · cases h
  · next hlaunched => exact ⟨_, _, hlaunched, Option.some.inj h⟩

/-- A server that is gone only after a second is killed half a second after the stop command. -/
theorem late_server_killed :
    let config := { serverConfig with abortOnStall := true, patience := 500 }
    let site := serverSite 0 []
    ∃ server system heard last,
      site.system.launch config.serverPath (startArgs config.confPath 0) ⟨true, true⟩ =
        .ok (server, system) ∧
      runOnce config 0 site.channel.listen site = some (.error (.stalled 0 500), heard, last) ∧
      Goes config server { site with system } [.issueStop, .kill] last ∧
      last.system.exists? server = false := by
  intro config site
  have hhistory : historyAt config 0 30 site = some [(0, .elapsed), (500000, .overdue)] := by
    decide +kernel
  obtain ⟨server, system, hlaunched, htold⟩ := historyAt_eq_some hhistory
  rcases hturns : firstTurns config 0 30 site.channel.listen server { site with system } with
    ⟨history, heard, last⟩
  rw [hturns] at htold
  subst htold
  obtain ⟨⟨result, actions, hverdict, hgoes, hkilled, hran, -⟩, -⟩ :=
    (runs_end_by_verdict config 0).2 site.channel.listen site server system hlaunched 30 _ heard
      last hturns
  have hfirst : First [(0, .elapsed), (500000, .overdue)] [] 0 .elapsed
      ([] ++ [(500000, .overdue)]) :=
    ⟨rfl, nofun, rfl⟩
  have hstalled : Verdict config 0 [(0, .elapsed), (500000, .overdue)]
      (some (.error (.stalled 0 500))) [.issueStop, .kill] :=
    .stalled rfl hfirst (History.not_finished_nil []) (Timely.nil true)
  obtain ⟨hresult, hactions⟩ := hverdict.computed
  obtain ⟨hresult', hactions'⟩ := hstalled.computed
  cases hresult.symm.trans hresult'
  cases hactions.symm.trans hactions'
  exact ⟨server, system, heard, last, hlaunched, hran _ rfl (by decide), hgoes, hkilled (by decide)⟩

end LedgerBench.Sweep
