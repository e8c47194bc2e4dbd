import LedgerBench.Operation.Reporter
import LedgerBench.Decimal.Places
import LedgerBench.Text.Table

/-! The table of the operations of a run. -/

namespace LedgerBench

def millisText (x : Float) : String :=
  Decimal.fixedText 2 x

def OperationSummary.averageMillis (s : OperationSummary) : Float :=
  s.totalMillis / Float.ofNat (max s.total 1)

def operationTable (time : Float → String) (summaries : List OperationSummary) : Text.Table where
  header := ["operation_id", "avg_time_ms", "min_time_ms", "max_time_ms", "total_operations",
    "failed_operations", "total_duration_ms"]
  rows := summaries.map fun s =>
    let best := fun (x : Option Float) => (x.map time).getD "-"
    [s.operation, time s.averageMillis, best s.minMillis, best s.maxMillis, toString s.total,
      toString s.failed, time s.totalMillis]

/-- What is printed about the operations: nothing when there were none. -/
def Reporter.printed (time : Float → String) (reporter : Reporter) : String :=
  match reporter.summary with
  | [] => ""
  | summaries => "\nSummary of operations\n" ++ (operationTable time summaries).text ++ "\n"

end LedgerBench
