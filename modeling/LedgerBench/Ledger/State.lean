import LedgerBench.Register
import LedgerBench.Ledger.Flags

/-! Accounts and trust lines. A line is stored once for its two accounts: the low one comes first
in byte order, and a positive balance says that the high account owes the low one. `linesOf` shows
the lines from the side of one account. -/

namespace LedgerBench

structure Account where
  balance : UInt64
  flags : RootFlags
  sequence : UInt32
  deriving Repr, DecidableEq

/-- The accounts of a line in byte order, and its currency. -/
structure LineKey where
  low : String
  high : String
  currency : String
  deriving Repr, DecidableEq

namespace LineKey

instance : Ord LineKey where
  compare := compareLex (compareOn low) (compareLex (compareOn high) (compareOn currency))

instance : Std.TransOrd LineKey :=
  inferInstanceAs <| Std.TransCmp
    (compareLex (compareOn low) (compareLex (compareOn high) (compareOn currency)))

instance : Std.LawfulEqOrd LineKey where
  eq_of_compare {a b} h := by
    obtain ⟨h1, h⟩ := Ordering.then_eq_eq.1 (show _ = Ordering.eq from h)
    obtain ⟨h2, h3⟩ := Ordering.then_eq_eq.1 h
    have e1 := Std.LawfulEqCmp.eq_of_compare (show compare a.low b.low = .eq from h1)
    have e2 := Std.LawfulEqCmp.eq_of_compare (show compare a.high b.high = .eq from h2)
    have e3 := Std.LawfulEqCmp.eq_of_compare (show compare a.currency b.currency = .eq from h3)
    cases a
    cases b
    simp_all

/-- The key of the line between two accounts, whichever is named first. -/
def between (a b currency : String) : LineKey :=
  if a < b then ⟨a, b, currency⟩ else ⟨b, a, currency⟩

end LineKey

/-- One side of a line: how much of the other account's debt it accepts, and whether it lets no
value ripple through. -/
structure LineSide where
  limit : Float
  noDivvy : Bool
  deriving Repr, DecidableEq

structure Line where
  balance : Float
  low : LineSide
  high : LineSide
  deriving Repr, DecidableEq

namespace Line

def side (line : Line) (key : LineKey) (account : String) : LineSide :=
  if key.low = account then line.low else line.high

def setSide (line : Line) (key : LineKey) (account : String) (side : LineSide) : Line :=
  if key.low = account then { line with low := side } else { line with high := side }

/-- The balance as the account sees it: positive when the other one owes it. -/
def balanceFor (line : Line) (key : LineKey) (account : String) : Float :=
  if key.low = account then line.balance else -line.balance

/-- Moves value away from one account; the other then holds that much more of its debt. -/
def transfer (line : Line) (key : LineKey) (source : String) (value : Float) : Line :=
  if key.low = source then { line with balance := line.balance - value }
  else { line with balance := line.balance + value }

end Line

structure LineView where
  peer : String
  currency : String
  balance : Float
  own : LineSide
  peerSide : LineSide
  deriving Repr, DecidableEq

structure Ledger where
  accounts : Register String Account
  lines : Register LineKey Line

namespace Ledger

def genesis (root : String) (drops : UInt64) : Ledger where
  accounts := Register.empty.insert root ⟨drops, .none, 1⟩
  lines := .empty

def account? (ledger : Ledger) (address : String) : Option Account :=
  ledger.accounts.get? address

def line? (ledger : Ledger) (a b currency : String) : Option Line :=
  ledger.lines.get? (.between a b currency)

def viewFrom (account : String) (key : LineKey) (line : Line) : LineView :=
  let other := if key.low = account then key.high else key.low
  { peer := other
    currency := key.currency
    balance := line.balanceFor key account
    own := line.side key account
    peerSide := line.side key other }

/-- Every line of an account in the order of the keys; with `peer`, only those shared with it. -/
def linesOf (ledger : Ledger) (account : String) (peer : Option String) : List LineView :=
  ((ledger.lines.entries.filter fun (key, _) => key.low == account || key.high == account).map
    fun (key, line) => viewFrom account key line).filter
      fun view => peer.all (· == view.peer)

/-- Whether the owner of the side has to keep the line in the ledger. -/
def LineView.isOwned (view : LineView) : Bool :=
  view.own.limit != 0 || view.own.noDivvy

def ownerCount (ledger : Ledger) (account : String) : Nat :=
  (ledger.linesOf account none).countP LineView.isOwned

end Ledger
end LedgerBench
