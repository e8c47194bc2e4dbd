import LedgerBench.Decimal.Digits

/-! Reading of command lines. Arguments are taken from left to right. A value that follows its
option or fills a place is settled only when the next option or place begins, so a fault in it comes
after that of an unknown argument behind it. -/

namespace LedgerBench.CommandLine

inductive Refusal where
  | unknownArgument
  | invalidValue
  | valueValidation
  | tooManyValues
  | argumentConflict
  | helpRequested
  deriving Repr, DecidableEq

inductive Form where
  | text
  | path
  | number
  deriving Repr, DecidableEq

def Form.check (value : String) : Form → Except Refusal Unit
  | .text => .ok ()
  | .path => if value.isEmpty then .error .invalidValue else .ok ()
  | .number =>
    if (Decimal.readWord value.toList).isNone then .error .valueValidation else .ok ()

inductive Role where
  | value (form : Form)
  | switch
  | help
  deriving Repr, DecidableEq

structure Flag where
  long : String
  short : Option Char
  role : Role
  deriving Repr, DecidableEq

structure Grammar where
  flags : List Flag
  places : List (String × Form)
  deriving Repr, DecidableEq

def helpFlag : Flag := ⟨"help", some 'h', .help⟩

structure Pending where
  name : String
  form : Form
  value : Option String
  deriving Repr, DecidableEq

structure Reading where
  given : List (String × String)
  pending : Option Pending
  filled : Nat
  deriving Repr, DecidableEq

namespace Reading

def start : Reading := ⟨[], none, 0⟩

def add (r : Reading) (name value : String) (form : Form) : Except Refusal Reading := do
  if (r.given.lookup name).isSome then throw .argumentConflict
  form.check value
  return { r with given := (name, value) :: r.given }

def settle (r : Reading) : Except Refusal Reading :=
  match r.pending with
  | none => .ok r
  | some ⟨_, _, none⟩ => .error .invalidValue
  | some ⟨name, form, some value⟩ => { r with pending := none }.add name value form

def takeFlag (r : Reading) (flag : Flag) (attached : Option String) : Except Refusal Reading :=
  match flag.role, attached with
  | .switch, some _ | .help, some _ => .error .tooManyValues
  | .switch, none => do (← r.settle).add flag.long "" .text
  | .help, none => do
    discard r.settle
    throw .helpRequested
  | .value form, some value => do (← r.settle).add flag.long value form
  | .value form, none => do return { (← r.settle) with pending := some ⟨flag.long, form, none⟩ }

def takePlace (r : Reading) (grammar : Grammar) (arg : String) : Except Refusal Reading :=
  match grammar.places[r.filled]? with
  | none => .error .unknownArgument
  | some (name, form) => do
    let r ← r.settle
    return { r with pending := some ⟨name, form, some arg⟩, filled := r.filled + 1 }

def takeLong (r : Reading) (grammar : Grammar) (arg : List Char) : Except Refusal Reading :=
  let name := String.ofList (arg.takeWhile (· != '='))
  let attached := match arg.dropWhile (· != '=') with
    | [] => none
    | _ :: value => some (String.ofList value)
  match grammar.flags.find? (·.long == name) with
  | none => .error .unknownArgument
  | some flag => r.takeFlag flag attached

/-- Takes options by their letters, after the dash. What follows the letter of an option that wants
a value is its value, with or without an equals sign. -/
def takeLetters (grammar : Grammar) : Reading → List Char → Except Refusal Reading
  | r, [] => .ok r
  | r, c :: rest =>
    match grammar.flags.find? (·.short == some c) with
    | none => .error .unknownArgument
    | some flag =>
      match flag.role, rest with
      | .value _, [] => r.takeFlag flag none
      | .value _, '=' :: value => r.takeFlag flag (some (String.ofList value))
      | .value _, value => r.takeFlag flag (some (String.ofList value))
      | _, rest => do takeLetters grammar (← r.takeFlag flag none) rest

def takeArgument (r : Reading) (grammar : Grammar) (arg : String) : Except Refusal Reading :=
  match arg.toList, r.pending with
  | '-' :: '-' :: name, _ => r.takeLong grammar name
  | '-' :: c :: letters, _ => takeLetters grammar r (c :: letters)
  | _, some ⟨name, form, none⟩ => .ok { r with pending := some ⟨name, form, some arg⟩ }
  | _, _ => r.takePlace grammar arg

/-- Takes all arguments. Behind a double dash there are only places. -/
def takeAll (grammar : Grammar) : Bool → Reading → List String → Except Refusal Reading
  | _, r, [] => r.settle
  | true, r, arg :: rest => do takeAll grammar true (← r.takePlace grammar arg) rest
  | false, r, arg :: rest =>
    if arg = "--" then takeAll grammar true r rest
    else do takeAll grammar false (← r.takeArgument grammar arg) rest

end Reading

structure Arguments where
  given : List (String × String)
  deriving Repr, DecidableEq

namespace Arguments

def value? (arguments : Arguments) (name : String) : Option String :=
  arguments.given.lookup name

def has (arguments : Arguments) (name : String) : Bool :=
  (arguments.value? name).isSome

end Arguments

def Grammar.read (grammar : Grammar) (args : List String) : Except Refusal Arguments := do
  return ⟨(← Reading.takeAll grammar false .start args).given⟩

/-! ### Outcomes -/

structure Outcome where
  status : Nat
  output : String
  deriving Repr, DecidableEq

namespace Outcome

def success (output : String) : Outcome := ⟨0, output⟩

def failure (output : String) : Outcome := ⟨1, output⟩

/-- Asking for help is no failure. -/
def refused : Refusal → Outcome
  | .helpRequested => ⟨0, ""⟩
  | _ => ⟨2, ""⟩

def after (output : String) (outcome : Outcome) : Outcome :=
  { outcome with output := output ++ outcome.output }

end Outcome

end LedgerBench.CommandLine
