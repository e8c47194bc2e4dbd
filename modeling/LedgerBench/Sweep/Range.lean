import LedgerBench.Decimal.Digits
import LedgerBench.Decimal.Nearest
import LedgerBench.Text.Blank

/-! The range of a sweep: one run for every number of seconds from a lower bound up to an upper
bound that is left out. A range is written as its two bounds with a comma between them. -/

namespace LedgerBench.Sweep

structure Range where
  low : UInt64
  high : UInt64
  low_le_high : low ≤ high
  deriving Repr, DecidableEq

inductive RangeError where
  | format
  | notANumber (part : String)
  | reversed (low high : UInt64)
  deriving Repr, DecidableEq

def RangeError.message : RangeError → String
  | .format => "range must be two integers separated by a comma, like \x605,10\x60"
  | .notANumber part => "[" ++ part ++ "] is not a whole number of seconds"
  | .reversed low high =>
    "range start " ++ toString low.toNat ++ " is after its end " ++ toString high.toNat

namespace Range

def ofBounds (low high : UInt64) : Except RangeError Range :=
  if h : low ≤ high then .ok ⟨low, high, h⟩ else .error (.reversed low high)

def readBound (part : List Char) : Except RangeError UInt64 :=
  match Decimal.readWord (Text.trimBlanks part) with
  | some bound => .ok bound
  | none => .error (.notANumber (String.ofList part))

def parse (text : String) : Except RangeError Range :=
  match Text.splitAtEach ',' text.toList with
  | [low, high] => do ofBounds (← readBound low) (← readBound high)
  | _ => .error .format

def text (range : Range) : String :=
  "[" ++ toString range.low.toNat ++ ", " ++ toString range.high.toNat ++ ")"

def length (range : Range) : Nat :=
  range.high.toNat - range.low.toNat

def isEmpty (range : Range) : Bool :=
  range.low == range.high

def seconds (range : Range) : List Nat :=
  List.range' range.low.toNat range.length

/-- The seconds of the first runs, at most `count` of them. -/
def firstSeconds (range : Range) (count : Nat) : List Nat :=
  List.range' range.low.toNat (min count range.length)

/-- The seconds of all runs together: half the number of runs times the sum of the first and the
last, where the even one of the two factors is halved. -/
def totalSeconds (range : Range) : Nat :=
  let runs := range.length
  let ends := range.low.toNat + (range.high.toNat - 1)
  if runs % 2 = 0 then runs / 2 * ends else runs * (ends / 2)

/-- About how many seconds a pass takes, with half a second to stop each run. -/
def estimate (range : Range) : Float :=
  if range.isEmpty then 0
  else Decimal.floatOfNat range.totalSeconds + 0.5 * Decimal.floatOfNat range.length

theorem firstSeconds_eq_take (range : Range) (count : Nat) :
    range.firstSeconds count = range.seconds.take count := by
  apply List.ext_getElem <;> simp [firstSeconds, seconds]

end Range
end LedgerBench.Sweep
