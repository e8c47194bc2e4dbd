import LedgerBench.Shell.Arithmetic
import LedgerBench.Shell.Tool.Basic
import LedgerBench.Shell.Tool.Regex

/-! Expressions whose parts are the arguments of a command. -/

namespace LedgerBench.Shell.Tool.Expr

/-- Why an expression has no value, as an exit status. -/
abbrev Value := Except Nat (String × List String)

def numberOf? (text : String) : Option Int :=
  match text.toList with
  | '-' :: rest => if rest.isEmpty then none else (Decimal.readDigits 0 rest).map fun n => -(n : Int)
  | rest => if rest.isEmpty then none else (Decimal.readDigits 0 rest).map fun n => (n : Int)

def isNull (text : String) : Bool :=
  text.isEmpty || numberOf? text == some 0

def tightness : String → Option Nat
  | "|" => some 1
  | "&" => some 2
  | "=" | "==" | "!=" | "<" | "<=" | ">" | ">=" => some 3
  | "+" | "-" => some 4
  | "*" | "/" | "%" => some 5
  | ":" => some 6
  | _ => none

/-- What an expression matches at the beginning of a text: the first group, or how many characters.
-/
def matched (text pattern : String) : Except Nat String :=
  match Regex.ofText? false pattern with
  | none => .error 2
  | some r =>
    let hasGroup := Text.occursIn ['\\', '('] pattern.toList
    match Regex.find? false (.both .start r) true text.toList with
    | some m =>
      .ok (if hasGroup then String.ofList ((m.groups.lookup 1).getD [])
        else toString m.found.length)
    | none => .ok (if hasGroup then "" else "0")

def combine (sign a b : String) : Except Nat String :=
  let compared (text : String → String → Bool) (number : Int → Int → Bool) : Except Nat String :=
    let holds := match numberOf? a, numberOf? b with
      | some m, some n => number m n
      | _, _ => text a b
    .ok (if holds then "1" else "0")
  match sign with
  | "|" => .ok (if !isNull a then a else if isNull b then "0" else b)
  | "&" => .ok (if isNull a || isNull b then "0" else a)
  | "=" | "==" => compared (· == ·) (· == ·)
  | "!=" => compared (· != ·) (· != ·)
  | "<" => compared (decide <| · < ·) (· < ·)
  | "<=" => compared (decide <| · ≤ ·) (· ≤ ·)
  | ">" => compared (decide <| · > ·) (· > ·)
  | ">=" => compared (decide <| · ≥ ·) (· ≥ ·)
  | ":" => matched a b
  | sign =>
    match numberOf? a, numberOf? b with
    | some m, some n =>
      match Arithmetic.combine sign m n with
      | some n => .ok (toString n)
      | none => .error 2
    | _, _ => .error 2

mutual

def operand : Nat → List String → Value
  | 0, _ => .error 2
  | fuel + 1, words => do
    match words with
    | [] => .error 2
    | "(" :: rest =>
      let (value, rest) ← value fuel 1 rest
      match rest with
      | ")" :: rest => return (value, rest)
      | _ => .error 2
    | "length" :: text :: rest => return (toString (Scope.sizeOf text), rest)
    | "match" :: text :: pattern :: rest => return (← matched text pattern, rest)
    | "substr" :: text :: start :: count :: rest =>
      match numberOf? start, numberOf? count with
      | some start, some count =>
        let found := if start ≤ 0 ∨ count ≤ 0 then [] else
          (text.toList.drop (start.toNat - 1)).take count.toNat
        return (String.ofList found, rest)
      | _, _ => return ("", rest)
    | "index" :: text :: chars :: rest =>
      let n := match text.toList.findIdx? chars.toList.contains with
        | some i => i + 1
        | none => 0
      return (toString n, rest)
    | "+" :: word :: rest => return (word, rest)
    | word :: rest => return (word, rest)

def value : Nat → Nat → List String → Value
  | 0, _, _ => .error 2
  | fuel + 1, least, words => do
    let (first, rest) ← operand fuel words
    valueAfter fuel least first rest

def valueAfter : Nat → Nat → String → List String → Value
  | 0, _, _, _ => .error 2
  | fuel + 1, least, first, words => do
    match words with
    | sign :: rest =>
      match tightness sign with
      | some t =>
        if t < least then return (first, words)
        let (second, rest) ← value fuel (t + 1) rest
        valueAfter fuel least (← combine sign first second) rest
      | none => return (first, words)
    | [] => return (first, [])

end

end Expr

def expr : Tool := fun w args =>
  let args := if args.head? = some "--" then args.tail else args
  match Expr.value (8 * args.length + 8) 1 args with
  | .ok (value, []) => prints w (value ++ "\n") (if Expr.isNull value then 1 else 0)
  | .ok _ => fails w "expr" "syntax error" 2
  | .error status => fails w "expr" "syntax error" status

end LedgerBench.Shell.Tool
