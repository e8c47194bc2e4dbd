import LedgerBench.Suite.Report
import LedgerBench.Text.Table

/-! The table of the scenarios of a run. -/

namespace LedgerBench

def wholeMillisText (micros : Nat) : String :=
  toString (micros / 1000)

/-- The table of a report. `time` is the text of a time in microseconds. -/
def scenarioTable (time : Nat → String) (reports : List ScenarioReport) : Text.Table where
  header := ["scenario", "outcome", "duration_ms"]
  rows := reports.map fun r => [r.name, r.outcome.text, time r.micros]

def SuiteReport.printed (time : Nat → String) (report : SuiteReport) : String :=
  "\nSuite " ++ report.suite ++ ": " ++ toString report.passedCount ++ " of " ++
    toString report.scenarios.length ++ " scenarios passed\n" ++
    (scenarioTable time report.scenarios).text ++ "\n"

end LedgerBench
