import LedgerBench.Json.Basic
import LedgerBench.Json.Printer

/-! The arguments that a server is started and stopped with, and the record of one run. -/

namespace LedgerBench.Sweep

def confArgument (conf : String) : String :=
  "--conf=" ++ conf

/-- The arguments that start a server for a run of `n` seconds: every other run stays in the
foreground, and every third one joins the network. -/
def startArgs (conf : String) (n : Nat) : List String :=
  confArgument conf :: (if n % 2 = 0 then ["--fg"] else []) ++ (if n % 3 = 0 then ["--net"] else [])

def stopArgs (conf : String) : List String :=
  [confArgument conf, "stop"]

/-- The record of a run, with the seconds for which the server is left running and those that it
took to stop. -/
structure RunRecord where
  args : List String
  aliveFor : Nat
  stopTook : Option Float

namespace RunRecord

def start (conf : String) (n : Nat) : RunRecord :=
  ⟨startArgs conf n, n, none⟩

def toJson (record : RunRecord) : Json :=
  .object [("args", .array (record.args.map .string)),
    ("alive_for", .natural record.aliveFor),
    ("stop_took", match record.stopTook with
      | some x => if x.isFinite then .number (.real x) else .null
      | none => .null)]

end RunRecord

def recordsText (records : List RunRecord) : String :=
  (Json.array (records.map RunRecord.toJson)).indented 0

end LedgerBench.Sweep
