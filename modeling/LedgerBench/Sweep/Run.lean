import LedgerBench.Sweep.Error
import LedgerBench.Sweep.Record
import LedgerBench.Decimal.Nearest

/-! One run of a server: it is left running for some seconds, then asked to stop, and the run is
over when it is gone and its output has closed. A run is changed by one happening at a time. Times
are in millionths of a second. -/

namespace LedgerBench.Sweep

/-- What can happen while a server is running. The seconds for which it is left running elapse, and
it is overdue when it has not stopped in time. -/
inductive Happening where
  | exited (status : WaitStatus)
  | elapsed
  | shutdown
  | outputClosed
  | overdue
  deriving Repr, DecidableEq

inductive Ending where
  | stopped (took : Nat)
  | interrupted
  | exitedBeforeStop (status : WaitStatus)
  | stalled
  deriving Repr, DecidableEq

inductive Phase where
  | alive (closed : Bool)
  | stopping (since : Nat) (exited closed : Bool)
  | ended (ending : Ending)
  deriving Repr, DecidableEq

inductive Action where
  | issueStop
  | kill
  deriving Repr, DecidableEq

namespace Phase

def start : Phase := .alive false

/-- The run while the server is stopping, which is over once it is gone and silent. -/
def settled (time since : Nat) (exited closed : Bool) : Phase :=
  if exited && closed then .ended (.stopped (time - since)) else .stopping since exited closed

/-- The phase after something has happened at some time, and what has to be done then. With the
watchdog a server that is overdue is killed. -/
def after (watchdog : Bool) (time : Nat) : Happening → Phase → Phase × Option Action
  | .exited status, .alive _ => (.ended (.exitedBeforeStop status), none)
  | .elapsed, .alive closed => (.stopping time false closed, some .issueStop)
  | .shutdown, .alive _ => (.ended .interrupted, none)
  | .outputClosed, .alive _ => (.alive true, none)
  | .exited _, .stopping since _ closed => (settled time since true closed, none)
  | .outputClosed, .stopping since exited _ => (settled time since exited true, none)
  | .overdue, .stopping since exited closed =>
    if watchdog then (.ended .stalled, some .kill) else (.stopping since exited closed, none)
  | _, phase => (phase, none)

def afterAll (watchdog : Bool) : List (Nat × Happening) → Phase → Phase × List Action
  | [], phase => (phase, [])
  | (time, happening) :: rest, phase =>
    let (phase, action) := phase.after watchdog time happening
    let (phase, actions) := phase.afterAll watchdog rest
    (phase, action.toList ++ actions)

theorem afterAll_append (watchdog : Bool) (earlier later : List (Nat × Happening)) (phase : Phase) :
    phase.afterAll watchdog (earlier ++ later) =
      let (middle, actions) := phase.afterAll watchdog earlier
      let (last, more) := middle.afterAll watchdog later
      (last, actions ++ more) := by
  induction earlier generalizing phase with
  | nil => simp [afterAll]
  | cons h rest ih => simp [afterAll, ih]

@[simp] theorem after_ended (watchdog : Bool) (time : Nat) (happening : Happening)
    (ending : Ending) :
    (Phase.ended ending).after watchdog time happening = (.ended ending, none) := by
  cases happening <;> rfl

end Phase

/-- A run that came to an end. An interrupted one leaves the server alone. -/
inductive RunOutcome where
  | stopped (record : RunRecord)
  | interrupted (record : RunRecord)

def secondsOf (micros : Nat) : Float :=
  Decimal.nearestFloat micros 1000000

/-- What becomes of a run of `n` seconds that ended in the given way. `patience` is the number of
milliseconds that a server has for stopping. -/
def Ending.outcome (conf : String) (n patience : Nat) : Ending → Except RunError RunOutcome
  | .stopped took =>
    .ok (.stopped { RunRecord.start conf n with stopTook := some (secondsOf took) })
  | .interrupted => .ok (.interrupted (.start conf n))
  | .exitedBeforeStop status => .error (.exitedBeforeStop n status)
  | .stalled => .error (.stalled n patience)

end LedgerBench.Sweep
