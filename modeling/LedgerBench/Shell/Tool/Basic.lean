import LedgerBench.Shell.Process

/-! Tools: programs that the machine runs by itself. A tool looks at its arguments, its settings, the
files of the machine and perhaps all of its input, and answers what is to be done. -/

namespace LedgerBench.Shell

/-- What a tool can look at. The clock is in millionths of a second, and the input is there if the
tool has asked for all of it. -/
structure Workplace where
  machine : Machine
  settings : List (String × String)
  number : Nat
  parent : Nat
  clock : Nat
  exists? : Nat → Bool
  input : Option String

inductive Answer where
  | done (texts : List (Nat × String)) (machine : Machine) (status : Nat)
  | input
  | pass (filter : Filter)
  | repeat (text : String)
  | pause (micros : Option Nat)
  | become (command : List String) (settings : List (String × String)) (ignored : List Nat)
  | watch (plan : Watch) (command : List String)
  | series (commands : List (List String))
  | signal (signal : Nat) (numbers : List Nat) (status : Nat)

abbrev Tool := Workplace → List String → Answer

namespace Tool

variable (w : Workplace)

def ends (status : Nat) : Answer :=
  .done [] w.machine status

def prints (text : String) (status : Nat) : Answer :=
  .done [(1, text)] w.machine status

def fails (name reason : String) (status : Nat) : Answer :=
  .done [(2, name ++ ": " ++ reason ++ "\n")] w.machine status

/-! ### Options -/

/-- The options of a tool: letters that stand alone, letters with a value, and the letters that long
names stand for. -/
structure Known where
  flags : String
  valued : String
  long : List (String × Char)

structure Given where
  options : List (Char × String)
  operands : List String

def Given.has (given : Given) (c : Char) : Bool :=
  given.options.any fun o => o.1 == c

def Given.value? (given : Given) (c : Char) : Option String :=
  (given.options.reverse.find? fun o => o.1 == c).map (·.2)

def readCluster (known : Known) : List Char → List String → Option (List (Char × String) × List String)
  | [], args => some ([], args)
  | c :: letters, args =>
    if known.flags.toList.contains c then
      (readCluster known letters args).map fun (options, args) => ((c, "") :: options, args)
    else if known.valued.toList.contains c then
      match letters, args with
      | [], value :: args => some ([(c, value)], args)
      | [], [] => none
      | letters, args => some ([(c, String.ofList letters)], args)
    else none

def readLong (known : Known) (word : List Char) (args : List String) :
    Option ((Char × String) × List String) := do
  let name := String.ofList (word.takeWhile (· != '='))
  let value := word.dropWhile (· != '=')
  let (_, c) ← known.long.find? fun (long, _) => name.toList.isPrefixOf long.toList
  if known.valued.toList.contains c then
    match value, args with
    | _ :: value, args => return ((c, String.ofList value), args)
    | [], value :: args => return ((c, value), args)
    | [], [] => none
  else if value.isEmpty then return ((c, ""), args)
  else none

/-- Reads the arguments of a tool, in which options may follow other arguments unless `ordered`;
`none` if an option is not known. The fuel bounds the number of arguments. -/
def readOptions (known : Known) (ordered : Bool) : Nat → List String → Option Given
  | 0, _ => none
  | _, [] => some ⟨[], []⟩
  | fuel + 1, word :: args =>
    match word.toList with
    | ['-', '-'] => some ⟨[], args⟩
    | '-' :: '-' :: name => do
      let (option, args) ← readLong known name args
      let given ← readOptions known ordered fuel args
      return { given with options := option :: given.options }
    | '-' :: c :: letters => do
      let (options, args) ← readCluster known (c :: letters) args
      let given ← readOptions known ordered fuel args
      return { given with options := options ++ given.options }
    | _ =>
      if ordered then some ⟨[], word :: args⟩
      else do
        let given ← readOptions known ordered fuel args
        return { given with operands := word :: given.operands }

def withOptions (known : Known) (ordered : Bool) (misuse : Nat) (args : List String)
    (next : Given → Answer) : Answer :=
  match readOptions known ordered (args.length + 1) args with
  | some given => next given
  | none => fails w "error" "invalid option" misuse

/-! ### Texts -/

def linesOf (text : String) : List (List Char) :=
  let lines := Text.splitAtEach '\n' text.toList
  if lines.getLast? == some [] then lines.dropLast else lines

def textOfLines (lines : List (List Char)) : String :=
  String.ofList (lines.flatMap fun line => line ++ ['\n'])

def readPath (path : String) : Except SystemError String :=
  match w.machine.file? path with
  | some file => .ok file.text
  | none => .error (if w.machine.isDirectory path then .isDirectory else .noSuchFile)

/-- The texts of the operands of a tool, where a hyphen or no operand stands for the input; `none` if
the input is not known yet. -/
def readAll (operands : List String) : Option (List (String × Except SystemError String)) :=
  let operands := if operands.isEmpty then ["-"] else operands
  operands.mapM fun path =>
    if path = "-" ∨ path = "/dev/stdin" then w.input.map fun text => (path, .ok text)
    else some (path, readPath w path)

/-- What a tool makes of the texts of its operands. What cannot be read is reported. -/
def overTexts (name : String) (misuse : Nat) (operands : List String)
    (make : List (String × String) → String × Nat) : Answer :=
  match readAll w operands with
  | none => .input
  | some texts =>
    let readable := texts.filterMap fun (path, text) => text.toOption.map fun t => (path, t)
    let complaints := texts.filterMap fun (path, text) =>
      match text with
      | .error e => some (2, name ++ ": " ++ path ++ ": " ++ e.reason ++ "\n")
      | .ok _ => none
    let (text, status) := make readable
    .done (complaints ++ [(1, text)]) w.machine (if complaints.isEmpty then status else misuse)

def overText (name : String) (operands : List String) (make : String → String) : Answer :=
  overTexts w name 1 operands fun texts => (make (String.join (texts.map (·.2))), 0)

/-- A number of seconds with an optional fraction and an optional unit, in millionths. -/
def microsOf? (text : String) : Option Nat :=
  let digits := text.toList.takeWhile fun c => Decimal.isDigit c || c == '.'
  let unit := match text.toList.drop digits.length with
    | [] | ['s'] => some 1
    | ['m'] => some 60
    | ['h'] => some 3600
    | ['d'] => some 86400
    | _ => none
  let micros := match Text.splitAtEach '.' digits with
    | [whole] => if whole.isEmpty then none else (Decimal.readDigits 0 whole).map (· * 1000000)
    | [whole, fraction] => do
      if whole.isEmpty && fraction.isEmpty then none
      let seconds ← Decimal.readDigits 0 whole
      let micros ← Decimal.readDigits 0 ((fraction ++ List.replicate 6 '0').take 6)
      some (seconds * 1000000 + micros)
    | _ => none
  match unit, micros with
  | some u, some m => some (u * m)
  | _, _ => none

end Tool
end LedgerBench.Shell
