import LedgerBench.Ledger.State

/-! Routes of trust lines. Value moves from one account to the next along a line that can take it:
directly, or through one other account that does not refuse it on both of its lines. -/

namespace LedgerBench.Ledger

/-- How much more of the first account's debt the second one accepts on their line. -/
def capacity (ledger : Ledger) (source target currency : String) : Float :=
  match ledger.line? source target currency with
  | some line =>
    let key := LineKey.between source target currency
    (line.side key target).limit - line.balanceFor key target
  | none => 0

def refuses (ledger : Ledger) (account other currency : String) : Bool :=
  match ledger.line? account other currency with
  | some line => (line.side (.between account other currency) account).noDivvy
  | none => false

/-- An account lets value through unless it has NoDivvy on both lines that the value takes. -/
def canRipple (ledger : Ledger) (before through after currency : String) : Bool :=
  !(ledger.refuses through before currency && ledger.refuses through after currency)

def carriesThrough (ledger : Ledger) (source through destination currency : String)
    (value : Float) : Bool :=
  ledger.capacity source through currency ≥ value &&
    ledger.capacity through destination currency ≥ value &&
    ledger.canRipple source through destination currency

/-- The routes that can carry the value: the direct line first, then each route through one other
account in the order of the source's lines. -/
def findPaths (ledger : Ledger) (source destination currency : String) (value : Float) :
    List (List String) :=
  let direct := if ledger.capacity source destination currency ≥ value
    then [[source, destination]] else []
  let through := (ledger.linesOf source none).filter fun view =>
    view.currency == currency && view.peer != destination &&
      ledger.carriesThrough source view.peer destination currency value
  direct ++ through.map fun view => [source, view.peer, destination]

end LedgerBench.Ledger
