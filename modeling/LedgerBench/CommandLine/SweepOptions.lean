import LedgerBench.CommandLine.Grammar

/-! The command line of a sweep. -/

namespace LedgerBench.CommandLine

/-- The arguments of a sweep. The timeout is in seconds. -/
structure SweepArguments where
  range : Option String
  serverPath : String
  confPath : String
  stallTimeout : Nat
  repeats : Bool
  noProgress : Bool
  deriving Repr, DecidableEq

namespace SweepArguments

def grammar : Grammar where
  flags :=
    [⟨"stall-timeout", none, .value .number⟩, ⟨"repeat", none, .switch⟩,
      ⟨"no-progress", none, .switch⟩, helpFlag]
  places := [("range", .text), ("server_path", .text), ("conf_path", .path)]

def defaultTimeout : Nat := 30

def read (args : List String) : Except Refusal SweepArguments := do
  let given ← grammar.read args
  let timeout := (given.value? "stall-timeout").bind fun text => Decimal.readWord text.toList
  return {
    range := given.value? "range"
    serverPath := (given.value? "server_path").getD "build/divvyd"
    confPath := (given.value? "conf_path").getD "divvyd.cfg"
    stallTimeout := (timeout.map UInt64.toNat).getD defaultTimeout
    repeats := given.has "repeat"
    noProgress := given.has "no-progress" }

def usage : String :=
  "usage: stop-test i,j [divvyd_path] [divvyd_conf]\n" ++
  "\n" ++
  "Launch divvyd and stop it after n seconds for all n in [i, j).\n" ++
  "For every even n also pass --fg to divvyd.\n" ++
  "For every n where (n % 3) == 0 also pass --net to divvyd.\n" ++
  "\n" ++
  "Examples:\n" ++
  "    stop-test 5,10\n" ++
  "    stop-test 1,4 build/clang.debug/divvyd\n" ++
  "    stop-test 1,4 ../divvyd ../divvyd.cfg\n" ++
  "\n" ++
  "Set ABORT_TESTS_ON_STALL to end the sweep when divvyd does not stop in time."

end SweepArguments
end LedgerBench.CommandLine
