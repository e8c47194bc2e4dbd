import LedgerBench.Decimal.Digits
import LedgerBench.Machine.WaitStatus

/-! Why a run fails, and how long it waited. -/

namespace LedgerBench.Sweep

/-- The text of a number of milliseconds: whole milliseconds below a second, and seconds with no
more places than needed from there on. -/
def durationText (millis : Nat) : String :=
  if millis = 0 then "0ns"
  else if millis < 1000 then toString millis ++ "ms"
  else
    let places := (Decimal.digits (1000 + millis % 1000)).tail
    let needed := (places.reverse.dropWhile (· == '0')).reverse
    toString (millis / 1000) ++
      (if needed.isEmpty then "" else "." ++ String.ofList needed) ++ "s"

/-- Why a run failed, which ends the whole sweep. A stalled server is still there some milliseconds
after the stop command. -/
inductive RunError where
  | exitedBeforeStop (aliveFor : Nat) (status : WaitStatus)
  | stalled (aliveFor : Nat) (waited : Nat)
  | launch (path : String) (reason : String)
  | stop (reason : String)
  | wait (reason : String)
  deriving Repr, DecidableEq

def RunError.message : RunError → String
  | .exitedBeforeStop aliveFor status =>
    "divvyd exited by itself after less than " ++ toString aliveFor ++
      " seconds, before stop was issued (" ++ status.text ++ ")"
  | .stalled _ waited =>
    "divvyd has stalled, still running " ++ durationText waited ++ " after stop was issued"
  | .launch path reason => "failed to launch '" ++ path ++ "': " ++ reason
  | .stop reason => "failed to issue the stop command: " ++ reason
  | .wait reason => "failed to wait for divvyd to exit: " ++ reason

end LedgerBench.Sweep
