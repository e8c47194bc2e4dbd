import LedgerBench.Ledger.Apply
import LedgerBench.Server.Keys

/-! A ledger server that keeps everything in memory. Transactions go into the open ledger at once;
accepting makes the open ledger the validated one. -/

namespace LedgerBench

def genesisAddress : String := "rHb9CJAWyB4rj91VRWn96DkukG4bwdtyTh"

def genesisPassphrase : String := "masterpassphrase"

def genesisDrops : UInt64 := 100000000000000000

/-- The issuer shown on the balance of a line, which belongs to neither side. -/
def noAccount : String := "rrrrrrrrrrrrrrrrrrrrBZbvji"

/-- A server with the address of each secret that it knows. -/
structure Server where
  current : Ledger
  validated : Ledger
  index : UInt64
  secrets : Register String String
  closed : Bool
  keys : KeySource

def Server.start (keys : KeySource) : Server where
  current := .genesis genesisAddress genesisDrops
  validated := .genesis genesisAddress genesisDrops
  index := 2
  secrets := Register.empty.insert genesisPassphrase genesisAddress
  closed := false
  keys := keys

end LedgerBench
