import LedgerBench.CommandLine.Grammar

/-! The command line of a suite. -/

namespace LedgerBench.CommandLine

structure SuiteArguments where
  connection : String
  filter : Option String
  noProgress : Bool
  noSummary : Bool
  deriving Repr, DecidableEq

namespace SuiteArguments

def grammar : Grammar where
  flags :=
    [⟨"connection-string", some 'c', .value .text⟩, ⟨"filter", none, .value .text⟩,
      ⟨"no-progress", none, .switch⟩, ⟨"no-summary", none, .switch⟩, helpFlag]
  places := []

def defaultConnection : String := "ws://127.0.0.1:6006"

def read (args : List String) : Except Refusal SuiteArguments := do
  let given ← grammar.read args
  return {
    connection := (given.value? "connection-string").getD defaultConnection
    filter := given.value? "filter"
    noProgress := given.has "no-progress"
    noSummary := given.has "no-summary" }

end SuiteArguments
end LedgerBench.CommandLine
