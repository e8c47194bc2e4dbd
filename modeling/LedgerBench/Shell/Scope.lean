import LedgerBench.Decimal.Digits
import LedgerBench.Register
import LedgerBench.Shell.Fault
import LedgerBench.Shell.Name
import LedgerBench.Text.Hex
import LedgerBench.Text.Utf8

/-! What the commands of a script can refer to: parameters, variables and options. -/

namespace LedgerBench.Shell

structure Variable where
  value : Option String
  exported : Bool
  readOnly : Bool
  deriving Repr, DecidableEq

structure Scope where
  program : String
  args : List String
  bindings : Register String Variable
  options : List Char
  status : Nat
  shell : Nat
  newest : Option Nat
  optionPlace : Nat

namespace Scope

def has (scope : Scope) (option : Char) : Bool :=
  scope.options.contains option

def optionLetters : List Char := "efImnsxvVECabu".toList

def lookUp? (scope : Scope) (name : String) : Option String :=
  (scope.bindings.get? name).bind Variable.value

def parameter? (scope : Scope) (name : String) : Option String :=
  match name with
  | "#" => some (toString scope.args.length)
  | "?" => some (toString scope.status)
  | "!" => scope.newest.map toString
  | "$" => some (toString scope.shell)
  | "-" => some (String.ofList (optionLetters.filter scope.options.contains))
  | name =>
    match Decimal.readDigits 0 name.toList with
    | some 0 => some scope.program
    | some n => scope.args[n - 1]?
    | none => scope.lookUp? name

def assign (scope : Scope) (name value : String) : Except Fault Scope :=
  if !isName name then .error (.badName name)
  else
    let old := (scope.bindings.get? name).getD ⟨none, false, false⟩
    if old.readOnly then .error (.readOnly name)
    else
      let new : Variable := ⟨some value, old.exported || scope.has 'a', false⟩
      let place := if name = "OPTIND" then 0 else scope.optionPlace
      .ok { scope with bindings := scope.bindings.insert name new, optionPlace := place }

def mark (scope : Scope) (name : String) (exported readOnly : Bool) : Scope :=
  let old := (scope.bindings.get? name).getD ⟨none, false, false⟩
  let new : Variable := ⟨old.value, old.exported || exported, old.readOnly || readOnly⟩
  { scope with bindings := scope.bindings.insert name new }

def unset (scope : Scope) (name : String) : Except Fault Scope :=
  match scope.bindings.get? name with
  | some v =>
    if v.readOnly then .error (.readOnly name)
    else .ok { scope with bindings := scope.bindings.erase name }
  | none => .ok scope

def restore (scope : Scope) (name : String) : Option Variable → Scope
  | some v => { scope with bindings := scope.bindings.insert name v }
  | none => { scope with bindings := scope.bindings.erase name }

def exports (scope : Scope) : List (String × String) :=
  scope.bindings.entries.filterMap fun (name, v) =>
    if v.exported then v.value.map fun value => (name, value) else none

def separators (scope : Scope) : List Char :=
  match scope.lookUp? "IFS" with
  | some text => text.toList
  | none => [' ', '\t', '\n']

def joint (scope : Scope) : List Char :=
  match scope.lookUp? "IFS" with
  | some text => text.toList.take 1
  | none => [' ']

def sizeOf (text : String) : Nat :=
  (Text.utf8 text.toList).length

end Scope

/-! ### Numbers -/

def isSpace (c : Char) : Bool :=
  c == ' ' || ('\t' ≤ c && c ≤ '\r')

def largest : Nat := 9223372036854775807

def wrapped (n : Int) : Int :=
  n.bmod (Nat.pow 2 64)

/-- The digits of a base at the beginning of a text, as a number, with how many they are. -/
def takeDigits (base : Nat) : Nat → Nat → List Char → Nat × Nat
  | value, count, [] => (value, count)
  | value, count, c :: rest =>
    match Text.hexValue c with
    | some d => if d < base then takeDigits base (base * value + d) (count + 1) rest
      else (value, count)
    | none => (value, count)

/-- A number without a sign at the beginning of a text, and what follows. With `anyBase`, `0x` leads
to one with the base 16 and another `0` to one with the base 8. -/
def takeNumber (anyBase : Bool) (text : List Char) : Option (Nat × List Char) :=
  let decimal := fun (base : Nat) =>
    let (value, count) := takeDigits base 0 0 text
    if count = 0 then none else some (value, text.drop count)
  match anyBase, text with
  | true, '0' :: x :: rest =>
    let (value, count) := takeDigits 16 0 0 rest
    if (x = 'x' ∨ x = 'X') ∧ count > 0 then some (value, rest.drop count) else decimal 8
  | _, _ => decimal 10

/-- A number with blanks around it and a sign. What is too large for 64 bits is no number. -/
def readNumber (anyBase : Bool) (text : String) : Except Fault Int :=
  let digits := text.toList.dropWhile isSpace
  let (negative, digits) := match digits with
    | '-' :: rest => (true, rest)
    | '+' :: rest => (false, rest)
    | rest => (false, rest)
  match takeNumber anyBase digits with
  | some (n, rest) =>
    let value : Int := if negative then -n else n
    if rest.all isSpace && wrapped value == value then .ok value else .error (.badNumber text)
  | none => if anyBase && text.toList.all isSpace then .ok 0 else .error (.badNumber text)

/-- A number that an argument has to be: not negative, and below half of what 32 bits can hold. -/
def readCount (text : String) : Except Fault Nat :=
  match readNumber false text with
  | .ok n => if 0 ≤ n ∧ n < 2147483648 then .ok n.toNat else .error (.badNumber text)
  | .error e => .error e

end LedgerBench.Shell
