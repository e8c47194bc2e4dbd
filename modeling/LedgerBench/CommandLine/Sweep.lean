import LedgerBench.CommandLine.Grammar
import LedgerBench.Sweep.Config
import LedgerBench.Sweep.Site

/-! The command that sweeps a range. -/

namespace LedgerBench.CommandLine

open Sweep (Site Config Range)

def estimateLine (range : Range) : String :=
  "Test will take ~" ++ Decimal.textOf Decimal.plain range.estimate ++ " seconds"

def stopNotice : String := "Received shutdown signal, shutting down..."

def passLimit : Nat := 1000000

def openSite (machine : Machine) (signals : List Nat) (range : Range) : Site :=
  { system := .start machine, channel := .start, signals, lines := [estimateLine range],
    notice := some stopNotice }

/-- Runs a sweep and writes the records of each pass. It is `none` if the sweep never ends. -/
def runSweep (config : Config) (site : Site) : Option Outcome :=
  let report := fun records (site : Site) => site.say (Sweep.recordsText records)
  match (Site.ground config).sweep report config.range config.repeats passLimit
      site.channel.listen site with
  | none => none
  | some (good, site) =>
    let output := String.join (site.lines.map (· ++ "\n"))
    some (if good then .success output else .failure output)

/-- The whole command, on a machine on which stop signals will come at the given times. -/
def sweepCommand (machine : Machine) (signals : List Nat) (args : List String) : Option Outcome :=
  match SweepArguments.read args with
  | .error refusal => some (.refused refusal)
  | .ok arguments =>
    match arguments.range with
    | none => some (.success (SweepArguments.usage ++ "\n"))
    | some text =>
      match Range.parse text with
      | .error _ => some (.failure "")
      | .ok range =>
        match Sweep.findServer machine arguments.serverPath with
        | .error _ => some (.failure "")
        | .ok path =>
          runSweep (.ofArguments machine arguments range path) (openSite machine signals range)

end LedgerBench.CommandLine
