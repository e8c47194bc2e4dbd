import LedgerBench.Register

/-! The record of operations against a server and their summary by name. A reporter that is switched
off keeps nothing, so that callers need not ask. -/

namespace LedgerBench

/-- A call that was made; it has no time if it never finished. -/
structure OperationRecord where
  operation : String
  micros : Option Nat
  failed : Bool
  deriving Repr, DecidableEq

/-- The operations of one name. Only those that succeeded count for the shortest and longest time.
-/
structure OperationSummary where
  operation : String
  total : Nat
  failed : Nat
  totalMillis : Float
  minMillis : Option Float
  maxMillis : Option Float

structure Reporter where
  enabled : Bool
  records : List OperationRecord

namespace Reporter

def start (enabled : Bool) : Reporter := ⟨enabled, []⟩

def add (reporter : Reporter) (record : OperationRecord) : Reporter :=
  if reporter.enabled then { reporter with records := reporter.records ++ [record] } else reporter

end Reporter

def OperationRecord.millis (record : OperationRecord) : Float :=
  match record.micros with
  | some n => Float.ofNat n / 1000
  | none => 0

def best (choose : Float → Float → Float) : List Float → Option Float
  | [] => none
  | x :: rest => some (rest.foldl choose x)

namespace OperationSummary

def ofRecords (operation : String) (records : List OperationRecord) : OperationSummary :=
  let times := (records.filter fun r => !r.failed).map OperationRecord.millis
  { operation
    total := records.length
    failed := records.countP (·.failed)
    totalMillis := (records.map OperationRecord.millis).foldl (· + ·) 0
    minMillis := best (fun x y => if y < x then y else x) times
    maxMillis := best (fun x y => if x < y then y else x) times }

end OperationSummary

namespace Reporter

def names (reporter : Reporter) : List String :=
  (reporter.records.foldl (fun (seen : Register String Unit) r => seen.insert r.operation ())
    .empty).keys

/-- One summary for each name in use, in increasing order of the names. -/
def summary (reporter : Reporter) : List OperationSummary :=
  reporter.names.map fun name =>
    .ofRecords name (reporter.records.filter (·.operation == name))

end Reporter
end LedgerBench
