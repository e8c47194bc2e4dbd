/-! What happened to the scenarios of a suite. -/

namespace LedgerBench

inductive Outcome where
  | passed
  | failed (step error : String)
  | skipped (reason : String)
  deriving Repr, DecidableEq

/-- The report of a scenario. No clock is looked at while a suite runs, so the time stays zero. -/
structure ScenarioReport where
  name : String
  outcome : Outcome
  micros : Nat
  deriving Repr, DecidableEq

structure SuiteReport where
  suite : String
  scenarios : List ScenarioReport
  deriving Repr, DecidableEq

def Outcome.text : Outcome → String
  | .passed => "passed"
  | .failed step error => "failed: " ++ step ++ ": " ++ error
  | .skipped reason => "skipped: " ++ reason

def Outcome.isFailed : Outcome → Bool
  | .failed .. => true
  | _ => false

def ScenarioReport.passed (report : ScenarioReport) : Bool :=
  report.outcome == .passed

namespace SuiteReport

def find? (report : SuiteReport) (name : String) : Option ScenarioReport :=
  report.scenarios.find? (·.name == name)

def passedCount (report : SuiteReport) : Nat :=
  report.scenarios.countP ScenarioReport.passed

def failures (report : SuiteReport) : List ScenarioReport :=
  report.scenarios.filter (·.outcome.isFailed)

/-- A suite succeeds when every scenario that was selected ran and passed. -/
def isSuccess (report : SuiteReport) : Bool :=
  report.scenarios.all ScenarioReport.passed

end SuiteReport
end LedgerBench
