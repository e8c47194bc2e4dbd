import LedgerBench.Decimal.Digits
import LedgerBench.Machine.WaitStatus

/-! Signals by their names and numbers, and what they do to a process that does not see to them. -/

namespace LedgerBench.Shell.Signal

def count : Nat := 64

def ofText? (text : String) : Option Nat :=
  match text.toList with
  | [] => none
  | chars =>
    match Decimal.readDigits 0 chars with
    | some n => if n ≤ count then some n else none
    | none =>
      let name := String.ofList (chars.map Char.toUpper)
      if name = "EXIT" then some 0 else (WaitStatus.signalNames.idxOf? name).map (· + 1)

def name (signal : Nat) : String :=
  if signal = 0 then "EXIT" else WaitStatus.signalNames[signal - 1]?.getD (toString signal)

def idle : List Nat := [0, 17, 18, 23, 28]

def halting : List Nat := [19, 20, 21, 22]

def continuing : Nat := 18

def sure : List Nat := [9, 19]

def kill : Nat := 9
def brokenPipe : Nat := 13
def terminate : Nat := 15

end LedgerBench.Shell.Signal
