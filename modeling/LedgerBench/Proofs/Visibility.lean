import LedgerBench.Proofs.Server.Handled
import Mathlib.Data.List.DropRight
import Mathlib.Data.List.Induction

/-! What can be seen of a server in two phases. Transactions show in the open ledger at once, and in
the validated one only from the next acceptance on: whatever happens after the last acceptance, the
validated ledger is as it was then. -/

namespace LedgerBench.Server

namespace Call

def isClose : Call → Bool
  | .request .. => false
  | .close => true

end Call

def heard (calls : List Call) : List Call :=
  calls.takeWhile (!·.isClose)

end LedgerBench.Server
