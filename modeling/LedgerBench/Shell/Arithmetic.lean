import LedgerBench.Shell.Scope

/-! Expressions with whole numbers of 64 bits. Variables stand for the numbers that they hold, and
an expression may change them. -/

namespace LedgerBench.Shell

inductive Lexeme where
  | number (n : Int)
  | name (name : String)
  | sign (text : String)
  deriving Repr, DecidableEq

namespace Arithmetic

/-- The signs of an expression; of two that begin alike the longer one comes first. -/
def signs : List String :=
  ["<<=", ">>=", "<<", ">>", "<=", ">=", "==", "!=", "&&", "||", "+=", "-=", "*=", "/=", "%=",
    "&=", "^=", "|=", "<", ">", "&", "^", "|", "!", "~", "?", ":", "=", "+", "-", "*", "/", "%",
    "(", ")"]

/-- The parts of an expression. A character that is none of them is a sign of its own. -/
def lexemes : Nat → List Char → List Lexeme
  | 0, _ | _, [] => []
  | fuel + 1, c :: rest =>
    if isSpace c then lexemes fuel rest
    else if isNameStart c then
      .name (String.ofList (c :: rest.takeWhile isNameRest)) ::
        lexemes fuel (rest.dropWhile isNameRest)
    else
      match takeNumber true (c :: rest) with
      | some (n, rest) => .number (min n largest) :: lexemes fuel rest
      | none =>
        match signs.find? fun s => s.toList.isPrefixOf (c :: rest) with
        | some s => .sign s :: lexemes fuel ((c :: rest).drop s.length)
        | none => .sign (String.singleton c) :: lexemes fuel rest

def tightness : String → Option Nat
  | "*" | "/" | "%" => some 8
  | "+" | "-" => some 7
  | "<<" | ">>" => some 6
  | "<" | ">" | "<=" | ">=" => some 5
  | "==" | "!=" => some 4
  | "&" => some 3
  | "^" => some 2
  | "|" => some 1
  | _ => none

def ofBool (b : Bool) : Int := if b then 1 else 0

def word (n : Int) : Nat := (n.emod (Nat.pow 2 64)).toNat

def distance (n : Int) : Nat := (n.emod 64).toNat

/-- What a sign makes of two operands; `none` for a division by zero. -/
def combine (sign : String) (a b : Int) : Option Int :=
  match sign with
  | "*" => some (wrapped (a * b))
  | "/" => if b = 0 then none else some (wrapped (a.tdiv b))
  | "%" => if b = 0 then none else some (a.tmod b)
  | "+" => some (wrapped (a + b))
  | "-" => some (wrapped (a - b))
  | "<<" => some (wrapped (a * Nat.pow 2 (distance b)))
  | ">>" => some (a.fdiv (Nat.pow 2 (distance b)))
  | "<" => some (ofBool (a < b))
  | ">" => some (ofBool (a > b))
  | "<=" => some (ofBool (a ≤ b))
  | ">=" => some (ofBool (a ≥ b))
  | "==" => some (ofBool (a == b))
  | "!=" => some (ofBool (a != b))
  | "&" => some (wrapped ((word a &&& word b : Nat) : Int))
  | "^" => some (wrapped ((word a ^^^ word b : Nat) : Int))
  | "|" => some (wrapped ((word a ||| word b : Nat) : Int))
  | _ => none

structure Sheet where
  text : String
  rest : List Lexeme
  scope : Scope

abbrev Calc (α : Type) := StateT Sheet (Except Fault) α

def refuse {α : Type} (reason : String) : Calc α := do
  throw (.badExpression reason (← get).text)

def moveTo (rest : List Lexeme) : Calc Unit :=
  modify fun s => { s with rest }

def valueOf (name : String) : Calc Int := do
  match (← get).scope.lookUp? name with
  | some text => readNumber true text
  | none => return 0

def store (name : String) (n : Int) : Calc Unit := do
  let s ← get
  let scope ← s.scope.assign name (toString n)
  set { s with scope }

def combined (live : Bool) (sign : String) (a b : Int) : Calc Int := do
  if !live then return b
  match combine sign a b with
  | some n => return n
  | none => refuse "division by zero"

def assigning? (sign : String) : Option String :=
  if sign = "=" then some ""
  else if ["<<=", ">>=", "+=", "-=", "*=", "/=", "%=", "&=", "^=", "|="].contains sign then
    some (String.ofList sign.toList.dropLast)
  else none

/-! Each of the following reads a part of an expression and gives its value. What is not `live` is
read without any effect. -/

mutual

def operand : Nat → Bool → Calc Int
  | 0, _ => refuse "expecting primary"
  | fuel + 1, live => do
    match (← get).rest with
    | .sign "(" :: rest =>
      moveTo rest
      let n ← assignment fuel live
      match (← get).rest with
      | .sign ")" :: rest =>
        moveTo rest
        return n
      | _ => refuse "expecting ')'"
    | .number n :: rest =>
      moveTo rest
      return n
    | .name name :: rest =>
      moveTo rest
      if live then valueOf name else return 0
    | .sign "+" :: rest =>
      moveTo rest
      operand fuel live
    | .sign "-" :: rest =>
      moveTo rest
      return wrapped (-(← operand fuel live))
    | .sign "!" :: rest =>
      moveTo rest
      return ofBool ((← operand fuel live) == 0)
    | .sign "~" :: rest =>
      moveTo rest
      return -(← operand fuel live) - 1
    | _ => refuse "expecting primary"

/-- What operands with signs between them make that bind at least so tightly. -/
def combination : Nat → Bool → Nat → Calc Int
  | 0, _, _ => refuse "expecting primary"
  | fuel + 1, live, least => do
    let a ← operand fuel live
    combinationAfter fuel live least a

def combinationAfter : Nat → Bool → Nat → Int → Calc Int
  | 0, _, _, _ => refuse "expecting primary"
  | fuel + 1, live, least, a => do
    match (← get).rest with
    | .sign sign :: rest =>
      match tightness sign with
      | some t =>
        if t < least then return a
        moveTo rest
        let b ← combination fuel live (t + 1)
        let n ← combined live sign a b
        combinationAfter fuel live least n
      | none => return a
    | _ => return a

def conjunction : Nat → Bool → Calc Int
  | 0, _ => refuse "expecting primary"
  | fuel + 1, live => do
    let a ← combination fuel live 1
    match (← get).rest with
    | .sign "&&" :: rest =>
      moveTo rest
      let b ← conjunction fuel (live && a != 0)
      return ofBool (a != 0 && b != 0)
    | _ => return a

def disjunction : Nat → Bool → Calc Int
  | 0, _ => refuse "expecting primary"
  | fuel + 1, live => do
    let a ← conjunction fuel live
    match (← get).rest with
    | .sign "||" :: rest =>
      moveTo rest
      let b ← disjunction fuel (live && a == 0)
      return ofBool (a != 0 || b != 0)
    | _ => return a

def conditional : Nat → Bool → Calc Int
  | 0, _ => refuse "expecting primary"
  | fuel + 1, live => do
    let a ← disjunction fuel live
    match (← get).rest with
    | .sign "?" :: rest =>
      moveTo rest
      let b ← assignment fuel (live && a != 0)
      match (← get).rest with
      | .sign ":" :: rest =>
        moveTo rest
        let c ← conditional fuel (live && a == 0)
        return if a != 0 then b else c
      | _ => refuse "expecting ':'"
    | _ => return a

def assignment : Nat → Bool → Calc Int
  | 0, _ => refuse "expecting primary"
  | fuel + 1, live => do
    match (← get).rest with
    | .name name :: .sign sign :: rest =>
      match assigning? sign with
      | some sign =>
        moveTo rest
        let n ← assignment fuel live
        if !live then return n
        let n ← if sign.isEmpty then pure n else do combined true sign (← valueOf name) n
        store name n
        return n
      | none => conditional fuel live
    | _ => conditional fuel live

end

def evaluate (scope : Scope) (text : String) : Except Fault (Int × Scope) := do
  let rest := lexemes text.length text.toList
  let (n, sheet) ← (assignment (12 * rest.length + 12) true).run ⟨text, rest, scope⟩
  if sheet.rest.isEmpty then return (n, sheet.scope)
  else throw (.badExpression "expecting EOF" text)

end Arithmetic
end LedgerBench.Shell
