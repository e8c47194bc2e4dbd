import LedgerBench.Shell.Tool.Basic

/-! The time of day and the date, as the tool `date` writes them. -/

namespace LedgerBench.Shell.Tool

/-- The seconds since the beginning of the epoch at which the clock begins. -/
def startOfClock : Nat := 1700000000

structure Day where
  year : Nat
  month : Nat
  day : Nat
  deriving Repr, DecidableEq

/-- The day so many days after the beginning of the epoch. Years are counted from the first of March,
by which the day added in some of them comes last, in rounds of four hundred. -/
def Day.ofNumber (n : Nat) : Day :=
  let n := n + 719468
  let place := n % 146097
  let year := (place - place / 1460 + place / 36524 - place / 146096) / 365
  let inYear := place - (365 * year + year / 4 - year / 100)
  let shifted := (5 * inYear + 2) / 153
  let month := if shifted < 10 then shifted + 3 else shifted - 9
  ⟨400 * (n / 146097) + year + (if month ≤ 2 then 1 else 0), month,
    inYear - (153 * shifted + 2) / 5 + 1⟩

def Day.isLong (year : Nat) : Bool :=
  year % 4 == 0 && (year % 100 != 0 || year % 400 == 0)

def Day.inYear (d : Day) : Nat :=
  let lengths := [31, if Day.isLong d.year then 29 else 28, 31, 30, 31, 30, 31, 31, 30, 31, 30]
  (lengths.take (d.month - 1)).foldl Nat.add d.day

def weekDays : List String :=
  ["Sunday", "Monday", "Tuesday", "Wednesday", "Thursday", "Friday", "Saturday"]

def months : List String :=
  ["January", "February", "March", "April", "May", "June", "July", "August", "September",
    "October", "November", "December"]

def filledNumber (filler : Char) (width n : Nat) : String :=
  let digits := toString n
  String.ofList (List.replicate (width - digits.length) filler) ++ digits

/-- A time in the way of a format. The fuel bounds the directives that stand for others. -/
def timeText (seconds nanos : Nat) : Nat → List Char → String
  | 0, _ => ""
  | _, [] => ""
  | fuel + 1, '%' :: c :: rest =>
    let day := Day.ofNumber (seconds / 86400)
    let weekDay := (seconds / 86400 + 4) % 7
    let two := filledNumber '0' 2
    let within (format : String) := timeText seconds nanos fuel format.toList
    let short (names : List String) (i : Nat) := String.ofList ((names[i]?.getD "").toList.take 3)
    let text := match c with
      | 'Y' => toString day.year
      | 'y' => two (day.year % 100)
      | 'm' => two day.month
      | 'd' => two day.day
      | 'e' => filledNumber ' ' 2 day.day
      | 'j' => filledNumber '0' 3 day.inYear
      | 'H' => two (seconds / 3600 % 24)
      | 'M' => two (seconds / 60 % 60)
      | 'S' => two (seconds % 60)
      | 's' => toString seconds
      | 'N' => filledNumber '0' 9 nanos
      | 'u' => toString (if weekDay = 0 then 7 else weekDay)
      | 'w' => toString weekDay
      | 'a' => short weekDays weekDay
      | 'A' => weekDays[weekDay]?.getD ""
      | 'b' => short months (day.month - 1)
      | 'B' => months[day.month - 1]?.getD ""
      | 'Z' => "UTC"
      | 'z' => "+0000"
      | 'F' => within "%Y-%m-%d"
      | 'T' => within "%H:%M:%S"
      | 'D' => within "%m/%d/%y"
      | 'R' => within "%H:%M"
      | 'n' => "\n"
      | 't' => "\t"
      | '%' => "%"
      | c => String.ofList ['%', c]
    text ++ timeText seconds nanos fuel rest
  | fuel + 1, c :: rest => String.singleton c ++ timeText seconds nanos fuel rest

def date : Tool := fun w args =>
  let known : Known := ⟨"uR", "drI", [("date", 'd'), ("utc", 'u'), ("universal", 'u')]⟩
  withOptions w known false 1 args fun given =>
    let now := (startOfClock + w.clock / 1000000, w.clock % 1000000 * 1000)
    let time? := match (given.value? 'd').map String.toList with
      | none => some now
      | some ('@' :: digits) => (Decimal.readDigits 0 digits).map fun n => (n, 0)
      | some text => if text = "now".toList then some now else none
    let format? := match given.operands.map String.toList with
      | [] => some "%a %b %e %H:%M:%S %Z %Y".toList
      | ['+' :: format] => some format
      | _ => none
    match time?, format? with
    | some (seconds, nanos), some format =>
      prints w (timeText seconds nanos (2 * format.length + 20) format ++ "\n") 0
    | _, _ => fails w "date" "invalid date" 1

end LedgerBench.Shell.Tool
