import LedgerBench.CommandLine.Suites
import LedgerBench.CommandLine.Sweep
import LedgerBench.Shell.Programs
import LedgerBench.Suites.AccountSet
import LedgerBench.Suites.NoDivvy

/-! The program. Its first argument names the command: `stop-test`, `account_set` or `no_divvy`. The
commands work on a picture of this machine: some of its settings, its working directory, and the
files that the arguments and settings name. A file that begins as a script is taken to be
executable. -/

namespace LedgerBench

def knownSettings : List String :=
  ["PATH", "HOME", "DIVVYD_CONF", "DIVVYD_PATH", "DIVVYD_ROOT_SECRET", Sweep.Config.watchdogSetting]

def withFile (machine : Machine) (path : String) : IO Machine := do
  try
    let content ← IO.FS.readFile path
    return machine.putFile path (.ofText content (content.startsWith "#!"))
  catch _ => return machine

def withSettingOfHost (machine : Machine) (name : String) : IO Machine := do
  match ← IO.getEnv name with
  | some value => return machine.withSetting name value
  | none => return machine

def hostMachine (args : List String) : IO Machine := do
  let bare := Machine.bare (← IO.currentDir).toString
  let machine ← knownSettings.foldlM withSettingOfHost bare.withPrograms
  (args ++ knownSettings.filterMap machine.setting?).foldlM withFile machine

def runCommand (args : List String) : IO (Option CommandLine.Outcome) := do
  let machine ← hostMachine args
  let keys : KeySource := .seeded (UInt64.ofNat (← IO.monoNanosNow))
  let bench : Bench Empty := ⟨machine, .offline, keys, []⟩
  let suites := fun chosen => some (CommandLine.suitesCommand .standard chosen bench args.tail)
  match args.head? with
  | some "stop-test" => return CommandLine.sweepCommand machine [] args.tail
  | some "account_set" => return suites [Suites.accountSet]
  | some "no_divvy" => return suites [Suites.noDivvy, Suites.defaultDivvy]
  | _ => return some ⟨2, ""⟩

end LedgerBench

def main (args : List String) : IO UInt32 := do
  match ← LedgerBench.runCommand args with
  | some outcome =>
    IO.print outcome.output
    return UInt32.ofNat outcome.status
  | none => return 1
