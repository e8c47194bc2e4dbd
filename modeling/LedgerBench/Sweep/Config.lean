import LedgerBench.CommandLine.SweepOptions
import LedgerBench.Failure
import LedgerBench.Machine.Image
import LedgerBench.Sweep.Range

/-! What a sweep is told to do, and where it finds the program of the server. -/

namespace LedgerBench.Sweep

/-- What a sweep is asked to do. Its patience with a server that has to stop is in milliseconds. -/
structure Config where
  range : Range
  serverPath : String
  confPath : String
  abortOnStall : Bool
  patience : Nat
  repeats : Bool
  showProgress : Bool
  deriving Repr, DecidableEq

namespace Config

def basic (range : Range) (serverPath confPath : String) : Config :=
  ⟨range, serverPath, confPath, false, 1000 * CommandLine.SweepArguments.defaultTimeout, false,
    false⟩

def watchdogSetting : String := "ABORT_TESTS_ON_STALL"

def ofArguments (machine : Machine) (arguments : CommandLine.SweepArguments) (range : Range)
    (serverPath : String) : Config :=
  { basic range serverPath arguments.confPath with
    abortOnStall := (machine.setting? watchdogSetting).isSome
    patience := 1000 * arguments.stallTimeout
    repeats := arguments.repeats
    showProgress := !arguments.noProgress }

end Config

/-- A bare name that is not there is looked for on the search path; anything else has to be there as
it is given. -/
def findServer (machine : Machine) (path : String) : Except Failure String :=
  if path.isEmpty then .error (.plain "The divvyd path is empty")
  else if machine.hasPath path then .ok path
  else if (Machine.Path.components path).length = 1 then
    match machine.which path with
    | some found => .ok found
    | none =>
      .error ((Failure.plain "cannot find binary path").inContext
        ("Could not find '" ++ path ++ "' on the PATH"))
  else .error (.plain ("No divvyd executable at '" ++ path ++ "'"))

end LedgerBench.Sweep
