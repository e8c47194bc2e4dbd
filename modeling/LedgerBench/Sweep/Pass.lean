import LedgerBench.Shutdown.Listener
import LedgerBench.Sweep.Range
import LedgerBench.Sweep.Run

/-! A pass over a range: one run after the other, the shortest first, until all are done, one of
them fails or the stop signal comes. Nothing is assumed of the runs and of the place where they
happen. -/

namespace LedgerBench.Sweep

open Shutdown (Channel Listener)

/-- What a sweep needs of the place where it happens: the channel of the stop signal as it is now,
and a run of some seconds, which is `none` if it never ends. -/
structure Ground (σ : Type) where
  channel : σ → Channel
  runOnce : Nat → Listener → σ → Option (Except RunError RunOutcome × Listener × σ)

/-- How a pass ends without an error. The records are those of all runs until then, with that of the
unfinished one if a run was interrupted. -/
inductive PassOutcome where
  | completed (records : List RunRecord)
  | interrupted (records : List RunRecord)

namespace PassOutcome

def records : PassOutcome → List RunRecord
  | .completed rs | .interrupted rs => rs

def isCompleted : PassOutcome → Bool
  | .completed _ => true
  | .interrupted _ => false

def after (record : RunRecord) : PassOutcome → PassOutcome
  | .completed rs => .completed (record :: rs)
  | .interrupted rs => .interrupted (record :: rs)

end PassOutcome

variable {σ : Type}

namespace Ground

/-- The runs of `n` seconds and so on, `count` of them. Before each of them the listener is asked.
-/
def runEach (ground : Ground σ) :
    Nat → Nat → Listener → σ → Option (Except RunError PassOutcome × σ)
  | 0, _, _, s => some (.ok (.completed []), s)
  | count + 1, n, listener, s =>
    match listener.shouldShutdown (ground.channel s) with
    | (true, _) => some (.ok (.interrupted []), s)
    | (false, listener) =>
      match ground.runOnce n listener s with
      | none => none
      | some (.error e, _, s) => some (.error e, s)
      | some (.ok (.interrupted record), _, s) => some (.ok (.interrupted [record]), s)
      | some (.ok (.stopped record), listener, s) =>
        match runEach ground count (n + 1) listener s with
        | none => none
        | some (result, s) => some (result.map (PassOutcome.after record), s)

/-- A pass over a range. It listens for signals that come after its beginning. -/
def pass (ground : Ground σ) (range : Range) (s : σ) : Option (Except RunError PassOutcome × σ) :=
  ground.runEach range.length range.low.toNat (ground.channel s).listen s

/-- Passes over a range, each of them handed to `report`: one, or as many as it takes until the stop
signal comes. The listener is older than all of them and is asked after each that was completed. The
result tells whether no run failed. It is `none` when `limit` passes were not enough. -/
def sweep (ground : Ground σ) (report : List RunRecord → σ → σ) (range : Range) (repeats : Bool) :
    Nat → Listener → σ → Option (Bool × σ)
  | 0, _, _ => none
  | limit + 1, listener, s =>
    match ground.pass range s with
    | none => none
    | some (.error _, s) => some (false, s)
    | some (.ok (.interrupted records), s) => some (true, report records s)
    | some (.ok (.completed records), s) =>
      let s := report records s
      if !repeats || range.isEmpty then some (true, s)
      else
        match listener.shouldShutdown (ground.channel s) with
        | (true, _) => some (true, s)
        | (false, listener) => sweep ground report range repeats limit listener s

end Ground
end LedgerBench.Sweep
