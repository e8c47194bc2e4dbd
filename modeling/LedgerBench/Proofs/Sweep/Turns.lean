import LedgerBench.Proofs.Sweep.History
import LedgerBench.Proofs.Sweep.Site
import Mathlib.Logic.Basic
import Mathlib.Tactic.SplitIfs

/-! A run at a machine, turn by turn. In each turn something comes next at the machine, the run is
told what that means for its server, and does what its phase then asks for. -/

/-! ### The clock of a system

Nothing takes time but waiting for the step of a process that is due first. To start a program, to
signal a process and to take away one that has ended takes none. -/

namespace LedgerBench.Shell.System

theorem clock_bury (system : System) (death : Death) :
    (system.bury death).1.clock = system.clock := by
  unfold bury
  split <;> rfl

theorem clock_signal (system : System) (number signal : Nat) :
    (system.signal number signal).1.clock = system.clock := by
  unfold System.signal
  cases system.processes.find? (·.number == number) with
  | none => rfl
  | some p =>
    simp only
    split_ifs
    all_goals first | rfl | exact clock_bury _ _

theorem clock_each {f : System → Nat → System × Option Death}
    (hkept : ∀ system number, (f system number).1.clock = system.clock) (targets : List Nat)
    (system : System) (deaths : List Death) :
    (targets.foldl (fun (system, deaths) target =>
        let (system, death) := f system target
        (system, deaths ++ death.toList)) (system, deaths)).1.clock = system.clock := by
  induction targets generalizing system deaths with
  | nil => rfl
  | cons target rest ih => exact (ih _ _).trans (hkept system target)

theorem clock_serve (number : Nat) (served : System × List Death) (request : Request) :
    (serve number served request).1.clock = served.1.clock := by
  obtain ⟨system, deaths⟩ := served
  cases request with
  | spawn => rfl
  | signal target signal =>
    exact clock_each (f := fun system n => system.signal n signal) (fun _ _ => clock_signal ..) ..
  | signalAll origin signal =>
    exact clock_each (f := fun system n => system.signal n signal) (fun _ _ => clock_signal ..) ..
  | finish status =>
    exact clock_each (f := fun system n => system.bury ⟨n, status⟩) (fun _ _ => clock_bury ..) ..

theorem clock_serveAll (number : Nat) (requests : List Request) (served : System × List Death) :
    (requests.foldl (serve number) served).1.clock = served.1.clock := by
  induction requests generalizing served with
  | nil => rfl
  | cons request rest ih => exact (ih _).trans (clock_serve number served request)

theorem clock_step {system : System} {time : Nat} (h : system.nextTime? = some time) :
    system.step.1.clock = time := by
  obtain ⟨p, hfirst, rfl⟩ := Option.map_eq_some_iff.1 h
  simp only [step, hfirst]
  exact clock_serveAll _ _ _

section Launch

variable {system system' : System} {program : String} {args : List String} {streams : Streams}

theorem clock_launch {number : Nat}
    (h : system.launch program args streams = .ok (number, system')) :
    system'.clock = system.clock := by
  cases hprogram : system.store.machine.program program args with
  | error e =>
    simp only [launch, hprogram] at h
    cases h
  | ok image =>
    simp only [launch, hprogram] at h
    cases h
    rfl

/-- A program cannot be started only because the machine has no such program. -/
theorem launch_eq_error_iff {e : SystemError} :
    system.launch program args streams = .error e ↔
      system.store.machine.program program args = .error e := by
  cases hprogram : system.store.machine.program program args with
  | error e' => simp only [launch, hprogram, Except.error.injEq]
  | ok image =>
    simp only [launch, hprogram]
    exact iff_of_false nofun nofun

end Launch

theorem exists?_remove (system : System) (number : Nat) :
    (system.remove number).exists? number = false := by
  simp [exists?, remove]

end LedgerBench.Shell.System

/-! ### What goes on at a site -/

namespace LedgerBench.Sweep

open Shutdown (Listener)

def Site.waitUntil (site : Site) (time : Nat) : Site :=
  { site with system := { site.system with clock := max site.system.clock time } }

/-- How a site changes while a server runs there, with what is done to the server: time passes,
signals come, processes take their steps, the stop command is started, and at last the server may be
killed. -/
inductive Goes (config : Config) (server : Nat) : Site → List Action → Site → Prop
  | rest {site : Site} : Goes config server site [] site
  | wait {site last : Site} {actions : List Action} (time : Nat)
      (later : Goes config server (site.waitUntil time) actions last) :
      Goes config server site actions last
  | signal {site last : Site} {actions : List Action}
      (later : Goes config server site.takeSignal actions last) :
      Goes config server site actions last
  | process {site last : Site} {actions : List Action}
      (later : Goes config server { site with system := site.system.step.1 } actions last) :
      Goes config server site actions last
  | stop {site last : Site} {actions : List Action} {number : Nat} {system : Shell.System}
      (launched : site.system.launch config.serverPath (stopArgs config.confPath) ⟨false, false⟩ =
        .ok (number, system))
      (later : Goes config server { site with system } actions last) :
      Goes config server site (.issueStop :: actions) last
  | kill {site : Site} :
      Goes config server site [.kill] { site with system := site.system.remove server }

namespace Goes

variable {config : Config} {server : Nat} {site middle last : Site} {actions later : List Action}

theorem trans (h : Goes config server site actions middle) (hkill : .kill ∉ actions)
    (h' : Goes config server middle later last) :
    Goes config server site (actions ++ later) last := by
  induction h with
  | rest => exact h'
  | wait time _ ih => exact .wait time (ih hkill h')
  | signal _ ih => exact .signal (ih hkill h')
  | process _ ih => exact .process (ih hkill h')
  | stop launched _ ih => exact .stop launched (ih (List.not_mem_of_not_mem_cons hkill) h')
  | kill => exact absurd List.mem_cons_self hkill

theorem killed (h : Goes config server site actions last) (hkill : .kill ∈ actions) :
    last.system.exists? server = false := by
  induction h with
  | rest => cases hkill
  | wait _ _ ih | signal _ ih | process _ ih => exact ih hkill
  | stop _ _ ih => exact ih ((List.mem_cons.1 hkill).resolve_left nofun)
  | kill => exact Shell.System.exists?_remove ..

end Goes

theorem clock_takeSignal (site : Site) :
    site.takeSignal.system.clock = max site.system.clock (site.signals.headD 0) := by
  unfold Site.takeSignal
  cases site.notice <;> rfl

theorem Site.afterSignal_cases {deadline process : Option Nat} {turn : Turn}
    (h : turn?.afterSignal deadline process = some turn) :
    (∃ time, turn = .deadline time ∧ deadline = some time) ∨
      turn = .process ∧ ∃ due, process = some due ∧ ∀ time, deadline = some time → due ≤ time := by
  cases deadline with
  | none =>
    cases process with
    | none => cases h
    | some due =>
      cases h
      exact .inr ⟨rfl, due, rfl, nofun⟩
  | some time =>
    by_cases hdue : isDue time process
    · simp only [turn?.afterSignal, if_pos hdue, Option.some.injEq] at h
      exact .inl ⟨time, h.symm, rfl⟩
    · simp only [turn?.afterSignal, if_neg hdue, Option.some.injEq] at h
      cases process with
      | none => exact absurd rfl hdue
      | some due =>
        simp only [isDue, decide_eq_true_eq, Nat.not_le] at hdue
        refine .inr ⟨h.symm, due, rfl, fun time' htime => ?_⟩
        cases htime
        exact Nat.le_of_lt hdue

/-- What comes first at a site: a signal, the end of a time, or the step of a process. -/
theorem Site.turn?_cases {site : Site} {deadline : Option Nat} {turn : Turn}
    (h : site.turn? deadline = some turn) :
    (turn = .signal ∧ ∀ time, deadline = some time → site.signals.headD 0 ≤ time) ∨
      (∃ time, turn = .deadline time ∧ deadline = some time) ∨
      turn = .process ∧ ∃ due, site.system.nextTime? = some due ∧
        ∀ time, deadline = some time → due ≤ time := by
  cases hsignal : site.signals.head? with
  | none =>
    simp only [turn?, hsignal] at h
    exact .inr (afterSignal_cases h)
  | some due =>
    simp only [turn?, hsignal] at h
    split at h
    · next hfirst =>
      cases h
      refine .inl ⟨rfl, fun time htime => ?_⟩
      rw [List.headD_eq_head?_getD, hsignal]
      simp only [htime, isDue, Bool.and_eq_true, decide_eq_true_eq] at hfirst
      exact hfirst.1
    · exact .inr (afterSignal_cases h)

/-- What the step of a process means for a server: its end, and the end of all output. -/
def newsOf (server : Nat) (before after : Shell.System) (deaths : List Shell.Death) :
    List Happening :=
  let gone := deaths.filterMap fun death =>
    if death.number = server then some (Happening.exited death.status) else none
  gone ++ if before.hasOpenOutput && !after.hasOpenOutput then [.outputClosed] else []

theorem mem_newsOf {server : Nat} {before after : Shell.System} {deaths : List Shell.Death}
    {happening : Happening} :
    happening ∈ newsOf server before after deaths ↔
      (∃ status, ⟨server, status⟩ ∈ deaths ∧ happening = .exited status) ∨
        happening = .outputClosed ∧ before.hasOpenOutput = true ∧ after.hasOpenOutput = false := by
  have hgone : happening ∈ deaths.filterMap (fun death =>
        if death.number = server then some (Happening.exited death.status) else none) ↔
      ∃ status, ⟨server, status⟩ ∈ deaths ∧ happening = .exited status := by
    rw [List.mem_filterMap]
    constructor
    · rintro ⟨⟨number, status⟩, hmem, hdeath⟩
      obtain ⟨rfl, heq⟩ := Option.ite_none_right_eq_some.1 hdeath
      exact ⟨status, hmem, (Option.some.inj heq).symm⟩
    · rintro ⟨status, hmem, rfl⟩
      exact ⟨⟨server, status⟩, hmem, if_pos rfl⟩
  rw [newsOf, List.mem_append, hgone, List.mem_ite_nil_right]
  simp [and_comm]

namespace Progress

/-- What comes next: what a run will be told, and the run and the site until then. The run hears of
what a process has done to its server, of a signal if its listener does, and of the end of a time
when it is over. -/
def next? (progress : Progress) (site : Site) : Option (List Happening × Progress × Site) :=
  match site.turn? progress.deadline with
  | none => none
  | some (.deadline time) =>
    let happening := match progress.phase with
      | .alive _ => Happening.elapsed
      | _ => .overdue
    some ([happening], { progress with deadline := none }, site.waitUntil time)
  | some .signal =>
    match progress.phase with
    | .alive _ =>
      let (isOver, listener) := progress.listener.waitIsOver site.takeSignal.channel
      some (if isOver then [.shutdown] else [], { progress with listener }, site.takeSignal)
    | _ => some ([], progress, site.takeSignal)
  | some .process =>
    let (system, deaths) := site.system.step
    some (newsOf progress.server site.system system deaths, progress, { site with system })

theorem tellAll_singleton (config : Config) (happening : Happening) (progress : Progress)
    (site : Site) :
    progress.tellAll config [happening] site = progress.tell config happening site := by
  rw [tellAll_cons]
  exact bind_pure _

/-- A turn: what comes next happens, and the run is told of it. -/
theorem advance_eq (config : Config) (progress : Progress) (site : Site) :
    progress.advance config site = (progress.next? site).map fun (happenings, progress, site) =>
      progress.tellAll config happenings site := by
  cases hturn : site.turn? progress.deadline with
  | none => simp only [advance, next?, hturn, Option.map_none]
  | some turn =>
    cases turn with
    | process => simp only [advance, next?, hturn, Option.map_some, newsOf]
    | signal =>
      cases hphase : progress.phase with
      | alive => simp only [advance, next?, hturn, hphase, Option.map_some]
      | stopping | ended =>
        simp only [advance, next?, hturn, hphase, Option.map_some]
        rfl
    | deadline time =>
      simp only [advance, next?, hturn, Option.map_some, tellAll_singleton]
      rfl

/-- What comes next, by the clock: a time that is over, a signal in time, or the step of a process
before that. -/
inductive Next (progress : Progress) (site : Site) : List Happening → Progress → Site → Prop
  | elapsed {time : Nat} {closed : Bool} (due : progress.deadline = some time)
      (hphase : progress.phase = .alive closed) :
      Next progress site [.elapsed] { progress with deadline := none } (site.waitUntil time)
  | overdue {time : Nat} (due : progress.deadline = some time)
      (hphase : ∀ closed, progress.phase ≠ .alive closed) :
      Next progress site [.overdue] { progress with deadline := none } (site.waitUntil time)
  | other {happenings : List Happening} {listener : Listener} {there : Site}
      (told : ∀ h ∈ happenings, h ≠ .elapsed ∧ h ≠ .overdue)
      (soon : ∀ time, progress.deadline = some time → site.system.clock ≤ time →
        there.system.clock ≤ time)
      (goes : ∀ config server, Goes config server site [] there) :
      Next progress site happenings { progress with listener } there

theorem next?_cases {progress middle : Progress} {site there : Site} {happenings : List Happening}
    (h : progress.next? site = some (happenings, middle, there)) :
    Next progress site happenings middle there := by
  cases hturn : site.turn? progress.deadline with
  | none =>
    simp only [next?, hturn] at h
    cases h
  | some turn =>
    rcases Site.turn?_cases hturn with ⟨rfl, hsoon⟩ | ⟨time, rfl, hdue⟩ | ⟨rfl, due, hdue, hsoon⟩
    · have hclock : ∀ time, progress.deadline = some time → site.system.clock ≤ time →
          site.takeSignal.system.clock ≤ time := fun time htime hle => by
        rw [clock_takeSignal]
        exact Nat.max_le.2 ⟨hle, hsoon time htime⟩
      cases hphase : progress.phase with
      | alive =>
        rcases hwait : progress.listener.waitIsOver site.takeSignal.channel with ⟨isOver, listener⟩
        simp only [next?, hturn, hphase, hwait, Option.some.injEq, Prod.mk.injEq] at h
        obtain ⟨rfl, rfl, rfl⟩ := h
        rw [← hphase]
        refine .other (fun happening hmem => ?_) hclock fun _ _ => .signal .rest
        split at hmem
        · rw [List.mem_singleton.1 hmem]
          exact ⟨nofun, nofun⟩
        · cases hmem
      | stopping | ended =>
        simp only [next?, hturn, hphase, Option.some.injEq, Prod.mk.injEq] at h
        obtain ⟨rfl, rfl, rfl⟩ := h
        exact .other nofun hclock fun _ _ => .signal .rest
    · cases hphase : progress.phase with
      | alive =>
        simp only [next?, hturn, hphase, Option.some.injEq, Prod.mk.injEq] at h
        obtain ⟨rfl, rfl, rfl⟩ := h
        rw [← hphase]
        exact .elapsed hdue hphase
      | stopping | ended =>
        simp only [next?, hturn, hphase, Option.some.injEq, Prod.mk.injEq] at h
        obtain ⟨rfl, rfl, rfl⟩ := h
        rw [← hphase]
        exact .overdue hdue fun _ => hphase.trans_ne nofun
    · simp only [next?, hturn, Option.some.injEq, Prod.mk.injEq] at h
      obtain ⟨rfl, rfl, rfl⟩ := h
      refine .other (fun happening hmem => ?_) (fun time htime _ => ?_) fun _ _ => .process .rest
      · rcases mem_newsOf.1 hmem with ⟨status, -, rfl⟩ | ⟨rfl, -⟩
        · exact ⟨nofun, nofun⟩
        · exact ⟨nofun, nofun⟩
      · exact Nat.le_trans (Nat.le_of_eq (Shell.System.clock_step hdue)) (hsoon time htime)

theorem Next.kept {progress middle : Progress} {site there : Site} {happenings : List Happening}
    (h : Next progress site happenings middle there) :
    middle.phase = progress.phase ∧ middle.server = progress.server ∧
      ∀ config server, Goes config server site [] there := by
  cases h with
  | elapsed | overdue => exact ⟨rfl, rfl, fun _ _ => .wait _ .rest⟩
  | other _ _ goes => exact ⟨rfl, rfl, goes⟩

/-! ### What a run does when it is told something -/

section Tell

variable {config : Config} {progress progress' : Progress} {site site' : Site}

def deadlineAfter (config : Config) (time : Nat) : Option Nat :=
  if config.abortOnStall then some (time + 1000 * config.patience) else none

/-- What a run does, and what becomes of it, when it is told something. -/
structure Tells (config : Config) (progress : Progress) (site : Site) (phase : Phase)
    (actions : List Action) (progress' : Progress) (site' : Site) : Prop where
  phase : progress'.phase = phase
  server : progress'.server = progress.server
  clock : site'.system.clock = site.system.clock
  goes : Goes config progress.server site actions site'
  deadline : progress'.deadline =
    if .issueStop ∈ actions then deadlineAfter config site.system.clock else progress.deadline

theorem Tells.trans {phase phase' : Phase} {actions later : List Action} {middle : Progress}
    {there : Site} (h : Tells config progress site phase actions middle there)
    (hkill : .kill ∉ actions) (h' : Tells config middle there phase' later progress' site') :
    Tells config progress site phase' (actions ++ later) progress' site' where
  phase := h'.phase
  server := h'.server.trans h.server
  clock := h'.clock.trans h.clock
  goes := h.goes.trans hkill (h.server ▸ h'.goes)
  deadline := by
    rw [h'.deadline, h.deadline, h.clock]
    simp only [List.mem_append]
    split_ifs <;> simp_all

theorem tell_tells {happening : Happening}
    (h : progress.tell config happening site = .ok (progress', site')) :
    let told := progress.phase.after config.abortOnStall site.system.clock happening
    Tells config progress site told.1 told.2.toList progress' site' := by
  rcases hafter : progress.phase.after config.abortOnStall site.system.clock happening with
    ⟨phase, _ | _ | _⟩
  · simp only [tell, hafter] at h
    cases h
    exact ⟨rfl, rfl, rfl, .rest, rfl⟩
  · simp only [tell, hafter] at h
    cases hlaunched : site.system.launch config.serverPath (stopArgs config.confPath) ⟨false, false⟩
      with
    | error e =>
      simp only [hlaunched] at h
      cases h
    | ok launched =>
      obtain ⟨number, system⟩ := launched
      have hclock := Shell.System.clock_launch hlaunched
      simp only [hlaunched, hclock] at h
      cases h
      exact ⟨rfl, rfl, hclock, .stop hlaunched .rest, rfl⟩
  · simp only [tell, hafter] at h
    cases h
    exact ⟨rfl, rfl, rfl, .kill, rfl⟩

theorem tellAll_ended {ending : Ending} (hended : progress.phase = .ended ending)
    (happenings : List Happening) :
    progress.tellAll config happenings site = .ok (progress, site) := by
  induction happenings with
  | nil => rfl
  | cons happening rest ih =>
    have htold : progress.tell config happening site = .ok (progress, site) := by
      simp only [tell, hended, Phase.after_ended]
      rw [← hended]
    rw [tellAll_cons, htold]
    exact ih

theorem tellAll_tells {happenings : List Happening}
    (h : progress.tellAll config happenings site = .ok (progress', site')) :
    let told := progress.phase.afterAll config.abortOnStall
      (happenings.map (site.system.clock, ·))
    Tells config progress site told.1 told.2 progress' site' := by
  induction happenings generalizing progress site with
  | nil =>
    cases h
    exact ⟨rfl, rfl, rfl, .rest, rfl⟩
  | cons happening rest ih =>
    rw [tellAll_cons] at h
    cases htold : progress.tell config happening site with
    | error e =>
      rw [htold] at h
      cases h
    | ok told =>
      obtain ⟨middle, there⟩ := told
      rw [htold] at h
      have hfirst := tell_tells htold
      by_cases hkill : .kill ∈ (progress.phase.after config.abortOnStall site.system.clock
          happening).2.toList
      · -- the rest of the news finds the run over
        have hended := Phase.after_kill (Option.mem_toList.1 hkill)
        have hrest := h.symm.trans (tellAll_ended (hfirst.phase.trans hended) rest)
        cases hrest
        simpa [Phase.afterAll, hended, Phase.afterAll_ended] using hfirst
      · have hrest := ih h
        rw [hfirst.phase, hfirst.clock] at hrest
        exact hfirst.trans hkill hrest

theorem tell_error {happening : Happening} {e : RunError}
    (h : progress.tell config happening site = .error e) :
    happening = .elapsed ∧
      ∃ e', site.system.launch config.serverPath (stopArgs config.confPath) ⟨false, false⟩ =
        .error e' ∧ e = .stop e'.message := by
  rcases hafter : progress.phase.after config.abortOnStall site.system.clock happening with
    ⟨phase, _ | _ | _⟩
  · simp only [tell, hafter] at h
    cases h
  · refine ⟨Phase.elapsed_of_issueStop (congrArg Prod.snd hafter), ?_⟩
    simp only [tell, hafter] at h
    cases hlaunched : site.system.launch config.serverPath (stopArgs config.confPath) ⟨false, false⟩
      with
    | ok launched =>
      simp only [hlaunched] at h
      cases h
    | error e' =>
      simp only [hlaunched, Except.error.injEq] at h
      exact ⟨e', rfl, h.symm⟩
  · simp only [tell, hafter] at h
    cases h

theorem tellAll_error {happenings : List Happening} {e : RunError}
    (h : progress.tellAll config happenings site = .error e) : .elapsed ∈ happenings := by
  induction happenings generalizing progress site with
  | nil => cases h
  | cons happening rest ih =>
    rw [tellAll_cons] at h
    cases htold : progress.tell config happening site with
    | error e' => exact List.mem_cons.2 (.inl (tell_error htold).1.symm)
    | ok told =>
      rw [htold] at h
      exact List.mem_cons_of_mem _ (ih h)

theorem advance_error {e : RunError} (h : progress.advance config site = some (.error e)) :
    ∃ e', site.system.launch config.serverPath (stopArgs config.confPath) ⟨false, false⟩ =
      .error e' ∧ e = .stop e'.message := by
  rw [advance_eq, Option.map_eq_some_iff] at h
  obtain ⟨⟨happenings, middle, there⟩, hnext, htold⟩ := h
  cases next?_cases hnext with
  | elapsed due hphase =>
    obtain ⟨-, e', hlaunch, he⟩ := tell_error ((tellAll_singleton ..).symm.trans htold)
    -- that time has passed makes no difference
    have hprogram := Shell.System.launch_eq_error_iff.1 hlaunch
    exact ⟨e', Shell.System.launch_eq_error_iff.2 hprogram, he⟩
  | overdue => exact absurd (List.mem_singleton.1 (tellAll_error htold)) nofun
  | other told => exact absurd rfl (told _ (tellAll_error htold)).1

end Tell

/-! ### The turns of a run -/

/-- What a run is told in its next turns, so many of them at most, and what becomes of it until
then. The last turn of a run is the one that ends it, and none follows where nothing comes next or
the stop command cannot be started. -/
def turns (config : Config) : Nat → Progress → Site → History × Progress × Site
  | 0, progress, site => ([], progress, site)
  | count + 1, progress, site =>
    match progress.phase with
    | .ended _ => ([], progress, site)
    | _ =>
      match progress.next? site with
      | none => ([], progress, site)
      | some (happenings, middle, there) =>
        match middle.tellAll config happenings there with
        | .error _ => ([], progress, site)
        | .ok (progress, site) =>
          let (later, last) := turns config count progress site
          (happenings.map (there.system.clock, ·) ++ later, last)

section Turns

variable {config : Config} {progress last : Progress} {site lastSite : Site} {history : History}

theorem turns_ended {ending : Ending} (hended : progress.phase = .ended ending) (count : Nat) :
    progress.turns config count site = ([], progress, site) := by
  cases count with
  | zero => rfl
  | succ count => simp only [turns, hended]

theorem finish_ended {ending : Ending} (hended : progress.phase = .ended ending) (fuel : Nat) :
    progress.finish config (fuel + 1) site = some (.ok ending, progress.listener, site) := by
  simp only [finish, hended]

/-- Of several turns a run has taken none and never will, or it had not ended and has taken a first
one, from which it goes on. -/
theorem turns_succ_cases {count : Nat} (h : progress.turns config (count + 1) site =
    (history, last, lastSite)) :
    (history = [] ∧ last = progress ∧ lastSite = site ∧
      ∀ fuel fuel', progress.finish config (fuel + 1) site =
        progress.finish config (fuel' + 1) site) ∨
      (∀ ending, progress.phase ≠ .ended ending) ∧
      ∃ happenings middle there progress' site' later,
        Next progress site happenings middle there ∧
        middle.tellAll config happenings there = .ok (progress', site') ∧
        progress'.turns config count site' = (later, last, lastSite) ∧
        history = happenings.map (there.system.clock, ·) ++ later ∧
        ∀ fuel, progress.finish config (fuel + 1) site = progress'.finish config fuel site' := by
  cases hphase : progress.phase with
  | ended =>
    rw [turns_ended hphase] at h
    cases h
    refine .inl ⟨rfl, rfl, rfl, fun fuel fuel' => ?_⟩
    rw [finish_ended hphase, finish_ended hphase]
  | alive | stopping =>
    have hadvance := advance_eq config progress site
    cases hnext : progress.next? site with
    | none =>
      rw [hnext] at hadvance
      simp only [turns, hphase, hnext] at h
      cases h
      refine .inl ⟨rfl, rfl, rfl, fun fuel fuel' => ?_⟩
      simp only [finish, hphase, hadvance, Option.map_none]
    | some next =>
      obtain ⟨happenings, middle, there⟩ := next
      rw [hnext] at hadvance
      cases htold : middle.tellAll config happenings there with
      | error e =>
        simp only [turns, hphase, hnext, htold] at h
        cases h
        refine .inl ⟨rfl, rfl, rfl, fun fuel fuel' => ?_⟩
        simp only [finish, hphase, hadvance, Option.map_some, htold]
      | ok told =>
        obtain ⟨progress', site'⟩ := told
        rcases hlater : progress'.turns config count site' with ⟨later, _, _⟩
        simp only [turns, hphase, hnext, htold, hlater] at h
        cases h
        refine .inr ⟨fun ending hended => ?_, happenings, middle, there, progress', site', later,
          next?_cases hnext, htold, hlater, rfl, fun fuel => ?_⟩
        · cases hended
        · simp only [finish, hphase, hadvance, Option.map_some, htold]

/-- After some turns a run is in the phase that its history leads to, and at the site it has done
what it should by that history. -/
theorem turns_goes {count : Nat}
    (h : progress.turns config count site = (history, last, lastSite)) :
    let told := progress.phase.afterAll config.abortOnStall history
    last.phase = told.1 ∧ Goes config progress.server site told.2 lastSite := by
  induction count generalizing progress site history with
  | zero =>
    cases h
    exact ⟨rfl, .rest⟩
  | succ count ih =>
    rcases turns_succ_cases h with ⟨rfl, rfl, rfl, -⟩ |
      ⟨-, happenings, middle, there, progress', site', later, hnext, htold, hlater, rfl, -⟩
    · exact ⟨rfl, .rest⟩
    obtain ⟨hphase, hserver, hgoes⟩ := hnext.kept
    have hfirst := tellAll_tells htold
    have hthere := (hgoes config progress.server).trans nofun (hserver ▸ hfirst.goes)
    rw [hphase] at hfirst hthere
    rw [Phase.afterAll_append]
    by_cases hkill : .kill ∈ (progress.phase.afterAll config.abortOnStall
        (happenings.map (there.system.clock, ·))).2
    · -- nothing follows the end of the run
      have hended := Phase.ended_of_kill hkill
      rw [turns_ended (hfirst.phase.trans hended)] at hlater
      cases hlater
      simpa [Phase.afterAll] using ⟨hfirst.phase, hthere⟩
    · obtain ⟨hlast, hgone⟩ := ih hlater
      rw [hfirst.phase] at hlast hgone
      rw [hfirst.server, hserver] at hgone
      exact ⟨hlast, hthere.trans hkill hgone⟩

/-- To go on until the end is to take so many turns and to go on from there. -/
theorem finish_turns {count : Nat}
    (h : progress.turns config count site = (history, last, lastSite)) (fuel : Nat) :
    progress.finish config (count + (fuel + 1)) site = last.finish config (fuel + 1) lastSite := by
  induction count generalizing progress site history with
  | zero =>
    cases h
    rw [Nat.zero_add]
  | succ count ih =>
    rw [Nat.add_right_comm]
    rcases turns_succ_cases h with ⟨-, rfl, rfl, hstays⟩ |
      ⟨-, _, _, _, _, _, _, -, -, hlater, -, hgoes⟩
    · exact hstays _ _
    · exact (hgoes _).trans (ih hlater)

/-- A run that has not ended goes on, unless it is time to stop the server and this cannot be done.
-/
theorem finish_going (config : Config) (site : Site)
    (hgoing : ∀ ending, progress.phase ≠ .ended ending) :
    progress.finish config 1 site = none ∨
      ∃ e, site.system.launch config.serverPath (stopArgs config.confPath) ⟨false, false⟩ =
          .error e ∧
        progress.finish config 1 site =
          some (.error (.stop e.message), progress.listener, site) := by
  cases hphase : progress.phase with
  | ended ending => exact absurd hphase (hgoing ending)
  | alive | stopping =>
    cases hadvance : progress.advance config site with
    | none => exact .inl (by simp only [finish, hphase, hadvance])
    | some told =>
      cases told with
      | ok told => exact .inl (by simp only [finish, hphase, hadvance])
      | error e =>
        obtain ⟨e', hlaunch, rfl⟩ := advance_error hadvance
        exact .inr ⟨e', hlaunch, by simp only [finish, hphase, hadvance]⟩

end Turns

end Progress
end LedgerBench.Sweep
