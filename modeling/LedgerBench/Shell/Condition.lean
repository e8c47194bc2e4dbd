import LedgerBench.Machine.Basic
import LedgerBench.Shell.Scope

/-! Conditions on texts, numbers and files, as the command `test` reads them. -/

namespace LedgerBench.Shell.Condition

inductive Role where
  | unary
  | binary
  | negation
  | conjunction
  | disjunction
  | opening
  | closing
  deriving Repr, DecidableEq

def unarySigns : List String :=
  ["-r", "-w", "-x", "-e", "-f", "-d", "-c", "-b", "-p", "-u", "-g", "-k", "-s", "-t", "-z", "-n",
    "-h", "-L", "-O", "-G", "-S"]

def binarySigns : List String :=
  ["=", "!=", "<", ">", "-eq", "-ne", "-ge", "-gt", "-le", "-lt", "-nt", "-ot", "-ef"]

def role? (word : String) : Option Role :=
  match word with
  | "!" => some .negation
  | "-a" => some .conjunction
  | "-o" => some .disjunction
  | "(" => some .opening
  | ")" => some .closing
  | _ =>
    if unarySigns.contains word then some .unary
    else if binarySigns.contains word then some .binary
    else none

def isOperand : List String → Bool
  | [_] => true
  | [_, _] => false
  | _ :: sign :: _ => role? sign == some .binary
  | [] => false

def roleAt (words : List String) : Option Role :=
  match words with
  | [] => none
  | word :: rest =>
    match role? word with
    | some .unary => if isOperand words then none else some .unary
    | some .opening => if rest.isEmpty then none else some .opening
    | role => role

variable (machine : Machine)

def isDevice (path : String) : Bool :=
  match machine.file? path with
  | some ⟨.device _, _⟩ => true
  | _ => false

def unary (sign word : String) : Except Fault Bool :=
  let exists? := machine.hasPath word
  match sign with
  | "-z" => .ok word.isEmpty
  | "-n" => .ok (!word.isEmpty)
  | "-t" => (readNumber false word).map fun _ => false
  | "-e" | "-r" | "-w" | "-O" | "-G" => .ok exists?
  | "-x" => .ok ((machine.file? word).any File.executable || machine.isDirectory word)
  | "-f" => .ok ((machine.file? word).isSome && !isDevice machine word)
  | "-d" => .ok (machine.isDirectory word)
  | "-c" => .ok (isDevice machine word)
  | "-s" => .ok (machine.isDirectory word || (machine.file? word).any fun file =>
      match file.content with
      | .text text => !text.isEmpty
      | .device _ => false
      | .tool _ => true)
  | _ => .ok false

def binary (left sign right : String) : Except Fault Bool :=
  let numbers (compare : Int → Int → Bool) : Except Fault Bool := do
    return compare (← readNumber false left) (← readNumber false right)
  match sign with
  | "=" => .ok (left == right)
  | "!=" => .ok (left != right)
  | "<" => .ok (decide (left < right))
  | ">" => .ok (decide (left > right))
  | "-eq" => numbers (· == ·)
  | "-ne" => numbers (· != ·)
  | "-lt" => numbers (· < ·)
  | "-le" => numbers (· ≤ ·)
  | "-gt" => numbers (· > ·)
  | "-ge" => numbers (· ≥ ·)
  | "-ef" => .ok (machine.hasPath left && machine.locate left == machine.locate right)
  | _ => .ok false

/-! Each of the following reads a part of a condition, which begins at the first word, and leaves its
last word as the first one. A part may begin with a word that has no part of its own, or end before
it has begun, where there is nothing more. -/

abbrev Outcome := Except Fault (Bool × List String)

mutual

def disjunction : Nat → List String → Outcome
  | 0, _ => .error .malformed
  | fuel + 1, words => do
    let (first, words) ← conjunction fuel words
    match words with
    | last :: "-o" :: rest =>
      let (second, rest) ← if rest.isEmpty then pure (false, [last]) else disjunction fuel rest
      return (first || second, rest)
    | words => return (first, words)

def conjunction : Nat → List String → Outcome
  | 0, _ => .error .malformed
  | fuel + 1, words => do
    let (first, words) ← negation fuel words
    match words with
    | last :: "-a" :: rest =>
      let (second, rest) ← if rest.isEmpty then pure (false, [last]) else conjunction fuel rest
      return (first && second, rest)
    | words => return (first, words)

def negation : Nat → List String → Outcome
  | 0, _ => .error .malformed
  | fuel + 1, words => do
    if roleAt words == some .negation then
      match words with
      | [_] => return (true, words)
      | words =>
        let (outcome, rest) ← negation fuel words.tail
        return (!outcome, rest)
    else primary fuel words

def primary : Nat → List String → Outcome
  | 0, _ => .error .malformed
  | fuel + 1, words => do
    match roleAt words, words with
    | _, [] => return (false, [])
    | some .opening, _ :: rest =>
      if roleAt rest == some .closing then return (false, rest)
      else
        let (outcome, rest) ← disjunction fuel rest
        match rest with
        | _ :: ")" :: rest => return (outcome, ")" :: rest)
        | _ => .error (.misuse "test" "closing paren expected")
    | some .unary, sign :: rest =>
      match rest with
      | [] => .error (.misuse "test" (sign ++ ": argument expected"))
      | word :: _ => return (← unary machine sign word, rest)
    | _, word :: rest =>
      match roleAt rest, rest with
      | some .binary, sign :: right :: after =>
        return (← binary machine word sign right, right :: after)
      | some .binary, sign :: [] => .error (.misuse "test" (sign ++ ": argument expected"))
      | _, _ => return (!word.isEmpty, words)

end

def complete (words : List String) : Except Fault Bool := do
  let (outcome, rest) ← disjunction machine (8 * words.length + 8) words
  match rest with
  | _ :: word :: _ => .error (.misuse "test" (word ++ ": unexpected operator"))
  | _ => return outcome

/-- The outcome of a condition. Where there are few words, their number decides how they are read.
-/
def holds : Nat → List String → Except Fault Bool
  | 0, words => complete machine words
  | fuel + 1, words =>
    let bracketed := words.head? == some "(" && words.getLast? == some ")"
    match words with
    | [] => .ok false
    | [left, sign, right] =>
      if role? sign == some .binary then binary machine left sign right
      else if bracketed then complete machine words.tail.dropLast
      else if words.head? == some "!" then (holds fuel words.tail).map (!·)
      else complete machine words
    | [_, _, _, _] =>
      if bracketed then complete machine words.tail.dropLast
      else if words.head? == some "!" then (holds fuel words.tail).map (!·)
      else complete machine words
    | words => complete machine words

def evaluate (words : List String) : Except Fault Bool :=
  holds machine 4 words

end LedgerBench.Shell.Condition
