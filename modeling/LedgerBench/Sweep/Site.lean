import LedgerBench.Shell.System
import LedgerBench.Sweep.Config
import LedgerBench.Sweep.Pass

/-! A machine as the place of a sweep. Its processes take their steps in the order of time, and so
do the stop signals that will come and the ends of what a run waits for. -/

namespace LedgerBench.Sweep

open Shutdown (Channel Listener)

/-- A place where a sweep happens: the times at which stop signals will come, the earliest first,
what has been written for the user, and what is written when a signal comes. -/
structure Site where
  system : Shell.System
  channel : Channel
  signals : List Nat
  lines : List String
  notice : Option String

namespace Site

def say (site : Site) (line : String) : Site :=
  { site with lines := site.lines ++ [line] }

def takeSignal (site : Site) : Site :=
  let site := match site.notice with
    | some line => site.say line
    | none => site
  { site with
    channel := site.channel.send
    signals := site.signals.tail
    system := { site.system with clock := max site.system.clock (site.signals.headD 0) } }

end Site

structure Progress where
  server : Nat
  phase : Phase
  deadline : Option Nat
  listener : Listener

inductive Turn where
  | process
  | signal
  | deadline (time : Nat)
  deriving Repr, DecidableEq

/-- The earlier of two times, where `none` is never. -/
def isDue (time : Nat) : Option Nat → Bool
  | none => true
  | some other => time ≤ other

/-- What comes next. Of several things at one time a signal comes first and a process last. -/
def Site.turn? (site : Site) (deadline : Option Nat) : Option Turn :=
  let signal := site.signals.head?
  let process := site.system.nextTime?
  match signal, deadline, process with
  | some t, d, p => if isDue t d && isDue t p then some .signal else afterSignal d p
  | none, d, p => afterSignal d p
where
  afterSignal : Option Nat → Option Nat → Option Turn
    | some t, p => if isDue t p then some (.deadline t) else some .process
    | none, some _ => some .process
    | none, none => none

variable (config : Config)

/-- Tells a run what has happened and does what it asks for. The run stops waiting `config.patience`
milliseconds after the stop command if there is a watchdog. -/
def Progress.tell (happening : Happening) (progress : Progress) (site : Site) :
    Except RunError (Progress × Site) :=
  let (phase, action) := progress.phase.after config.abortOnStall site.system.clock happening
  match action with
  | none => .ok ({ progress with phase }, site)
  | some .kill =>
    .ok ({ progress with phase }, { site with system := site.system.remove progress.server })
  | some .issueStop =>
    match site.system.launch config.serverPath (stopArgs config.confPath) ⟨false, false⟩ with
    | .error e => .error (.stop e.message)
    | .ok (_, system) =>
      let deadline :=
        if config.abortOnStall then some (system.clock + 1000 * config.patience) else none
      .ok ({ progress with phase, deadline }, { site with system })

def Progress.tellAll (happenings : List Happening) (progress : Progress) (site : Site) :
    Except RunError (Progress × Site) :=
  happenings.foldlM (fun (progress, site) happening => progress.tell config happening site)
    (progress, site)

/-- Lets what comes next at a site happen; `none` when nothing will ever happen again. -/
def Progress.advance (progress : Progress) (site : Site) :
    Option (Except RunError (Progress × Site)) :=
  match site.turn? progress.deadline with
  | none => none
  | some (.deadline time) =>
    let site := { site with system := { site.system with clock := max site.system.clock time } }
    let happening := match progress.phase with
      | .alive _ => .elapsed
      | _ => .overdue
    some ({ progress with deadline := none }.tell config happening site)
  | some .signal =>
    let site := site.takeSignal
    match progress.phase with
    | .alive _ =>
      let (isOver, listener) := progress.listener.waitIsOver site.channel
      some ({ progress with listener }.tellAll config (if isOver then [.shutdown] else []) site)
    | _ => some (.ok (progress, site))
  | some .process =>
    let wasOpen := site.system.hasOpenOutput
    let (system, deaths) := site.system.step
    let gone := deaths.filterMap fun death =>
      if death.number = progress.server then some (Happening.exited death.status) else none
    let closed := if wasOpen && !system.hasOpenOutput then [Happening.outputClosed] else []
    some (progress.tellAll config (gone ++ closed) { site with system })

def Progress.finish : Nat → Progress → Site → Option (Except RunError Ending × Listener × Site)
  | 0, _, _ => none
  | fuel + 1, progress, site =>
    match progress.phase with
    | .ended ending => some (.ok ending, progress.listener, site)
    | _ =>
      match progress.advance config site with
      | none => none
      | some (.error e) => some (.error e, progress.listener, site)
      | some (.ok (progress, site)) => finish fuel progress site

def stepLimit : Nat := 100000000

/-- Starts the server, leaves it running for `n` seconds, stops it and waits until it is gone. -/
def runOnce (n : Nat) (listener : Listener) (site : Site) :
    Option (Except RunError RunOutcome × Listener × Site) :=
  match site.system.launch config.serverPath (startArgs config.confPath n) ⟨true, true⟩ with
  | .error e => some (.error (.launch config.serverPath e.message), listener, site)
  | .ok (server, system) =>
    let progress : Progress := ⟨server, .start, some (system.clock + 1000000 * n), listener⟩
    let site := { site with system }
    let (isOver, listener) := listener.waitIsOver site.channel
    if isOver then some (.ok (.interrupted (.start config.confPath n)), listener, site)
    else
      match { progress with listener }.finish config stepLimit site with
      | none => none
      | some (.error e, listener, site) => some (.error e, listener, site)
      | some (.ok ending, listener, site) =>
        some (ending.outcome config.confPath n config.patience, listener, site)

def Site.ground : Ground Site := ⟨Site.channel, runOnce config⟩

end LedgerBench.Sweep
