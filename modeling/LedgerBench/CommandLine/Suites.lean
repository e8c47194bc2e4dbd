import LedgerBench.CommandLine.Grammar
import LedgerBench.CommandLine.SuiteOptions
import LedgerBench.Fixture.Basic
import LedgerBench.Operation.Summary
import LedgerBench.Suite.Basic
import LedgerBench.Suite.Summary

/-! The commands that run suites, one after the other. -/

namespace LedgerBench.CommandLine

structure TimeTexts where
  scenario : Nat → String
  operation : Float → String

def TimeTexts.standard : TimeTexts := ⟨wholeMillisText, millisText⟩

def SuiteArguments.options (arguments : SuiteArguments) : SuiteOptions :=
  ⟨arguments.connection, arguments.filter, !arguments.noSummary⟩

variable {ε : Type}

/-- Runs suites on a bench, each on what the one before it left. A suite that is refused ends the
command at once; otherwise it fails when any scenario failed. -/
def runSuites (times : TimeTexts) (arguments : SuiteArguments) :
    List (Suite (Bench ε) (Fixture Link)) → Bench ε → Outcome
  | [], _ => .success ""
  | suite :: rest, bench =>
    match suite.run arguments.options bench with
    | (.error _, _) => .failure ""
    | (.ok report, stage) =>
      let summary :=
        if arguments.noSummary then ""
        else report.printed times.scenario ++ stage.reporter.printed times.operation
      let later := (runSuites times arguments rest stage.world).after summary
      if report.isSuccess then later else { later with status := 1 }

def suitesCommand (times : TimeTexts) (suites : List (Suite (Bench ε) (Fixture Link)))
    (bench : Bench ε) (args : List String) : Outcome :=
  match SuiteArguments.read args with
  | .error refusal => .refused refusal
  | .ok arguments => runSuites times arguments suites bench

end LedgerBench.CommandLine
