import LedgerBench.Json.Basic
import LedgerBench.Decimal.Digits
import LedgerBench.Decimal.Nearest

/-! Reading JSON text. Arrays and objects nest 127 deep at most. A whole number that fits 64 bits
stays exact; any other number keeps the first digits that fit a 64-bit significand and is scaled by
one multiplication or division by a power of ten, so it may miss the nearest double by a little. -/

namespace LedgerBench.Json

def isSpace (c : Char) : Bool :=
  c = ' ' || c = '\n' || c = '\t' || c = '\r'

def skipSpace (s : List Char) : List Char :=
  s.dropWhile isSpace

/-! ### Numbers -/

private def powerOfTen (n : Nat) : Float :=
  Decimal.floatOfNat (Nat.pow 10 n)

private def scaleDown : Nat → Float → Nat → Float
  | 0, x, _ => x
  | fuel + 1, x, exponent =>
    if exponent ≤ 308 then x / powerOfTen exponent
    else if x == 0 then x
    else scaleDown fuel (x / powerOfTen 308) (exponent - 308)

/-- The value of a significand with a decimal exponent; `none` when it is out of range. A 64-bit
significand is used up by three divisions. -/
def scaleReal (significand : Nat) (exponent : Int) : Option Float :=
  let x := Decimal.floatOfNat significand
  match exponent with
  | .ofNat k =>
    if k ≤ 308 then
      let y := x * powerOfTen k
      if y.isInf then none else some y
    else if x == 0 then some x
    else none
  | .negSucc k => some (scaleDown 4 x (k + 1))

/-- Takes digits into a significand while it fits 64 bits. Gives the significand, the number of
digits taken and the rest. -/
def takeDigits (significand taken : Nat) : List Char → Nat × Nat × List Char
  | [] => (significand, taken, [])
  | c :: rest =>
    match Decimal.digitValue c with
    | some d =>
      if 10 * significand + d < UInt64.size then takeDigits (10 * significand + d) (taken + 1) rest
      else (significand, taken, c :: rest)
    | none => (significand, taken, c :: rest)

/-- The exponent at this place of a number, zero if there is none; `none` when it is malformed. -/
def readExponent : List Char → Option (Int × List Char)
  | [] => some (0, [])
  | c :: rest =>
    if c = 'e' ∨ c = 'E' then
      let (negative, rest) := match rest with
        | '+' :: t => (false, t)
        | '-' :: t => (true, t)
        | t => (false, t)
      let ds := rest.takeWhile Decimal.isDigit
      match ds, Decimal.readDigits 0 ds with
      | _ :: _, some n =>
        some (if negative then -(n : Int) else n, rest.dropWhile Decimal.isDigit)
      | _, _ => none
    else some (0, c :: rest)

/-- The part of a number after its whole digits, of which `dropped` did not fit. -/
def readFraction (significand dropped : Nat) : List Char → Option ((Nat × Int) × List Char)
  | '.' :: rest =>
    if (rest.takeWhile Decimal.isDigit).isEmpty then none
    else
      let (significand, taken, rest) := takeDigits significand 0 rest
      (readExponent (rest.dropWhile Decimal.isDigit)).map fun (e, rest) =>
        ((significand, e + dropped - taken), rest)
  | s => (readExponent s).map fun (e, rest) => ((significand, e + dropped), rest)

private def startsReal : List Char → Bool
  | c :: _ => c = '.' || c = 'e' || c = 'E'
  | [] => false

def readMagnitude (negative : Bool) (s : List Char) : Option (Number × List Char) :=
  let whole := s.takeWhile Decimal.isDigit
  let afterWhole := s.dropWhile Decimal.isDigit
  let badStart := match whole with
    | [] => true
    | '0' :: _ :: _ => true
    | _ => false
  if badStart then none
  else
    let (significand, taken, _) := takeDigits 0 0 whole
    let dropped := whole.length - taken
    let real : Option (Number × List Char) := do
      let ((significand, exponent), rest) ← readFraction significand dropped afterWhole
      let x ← scaleReal significand exponent
      some (.real (if negative then -x else x), rest)
    if dropped ≠ 0 ∨ startsReal afterWhole then real
    else if negative then
      if significand = 0 ∨ Nat.pow 2 63 < significand then
        some (.real (-Decimal.floatOfNat significand), afterWhole)
      else some (.negative (Int64.ofInt (-(significand : Int))), afterWhole)
    else some (.natural (UInt64.ofNat significand), afterWhole)

/-! ### Strings -/

private def hexValue (c : Char) : Option Nat :=
  if '0' ≤ c ∧ c ≤ '9' then some (c.toNat - '0'.toNat)
  else if 'a' ≤ c ∧ c ≤ 'f' then some (c.toNat - 'a'.toNat + 10)
  else if 'A' ≤ c ∧ c ≤ 'F' then some (c.toNat - 'A'.toNat + 10)
  else none

private def hexWord (a b c d : Char) : Option Nat := do
  some (((← hexValue a) * 16 + (← hexValue b)) * 256 + (← hexValue c) * 16 + (← hexValue d))

private def simpleEscape (c : Char) : Option Char :=
  match c with
  | '"' => some '"'
  | '\\' => some '\\'
  | '/' => some '/'
  | 'b' => some '\x08'
  | 'f' => some '\x0c'
  | 'n' => some '\n'
  | 'r' => some '\r'
  | 't' => some '\t'
  | _ => none

/-- The characters up to the closing quote. A surrogate counts only in a pair. -/
def readQuoted : List Char → Option (List Char × List Char)
  | [] => none
  | '"' :: rest => some ([], rest)
  | '\\' :: 'u' :: a :: b :: c :: d :: rest => do
    let unit ← hexWord a b c d
    if unit < 0xD800 ∨ 0xDFFF < unit then
      let (s, rest) ← readQuoted rest
      some (Char.ofNat unit :: s, rest)
    else if 0xDBFF < unit then none
    else
      match rest with
      | '\\' :: 'u' :: a :: b :: c :: d :: rest =>
        let low ← hexWord a b c d
        if low < 0xDC00 ∨ 0xDFFF < low then none
        else
          let (s, rest) ← readQuoted rest
          some (Char.ofNat (0x10000 + (unit - 0xD800) * 0x400 + (low - 0xDC00)) :: s, rest)
      | _ => none
  | '\\' :: c :: rest => do
    let escaped ← simpleEscape c
    let (s, rest) ← readQuoted rest
    some (escaped :: s, rest)
  | c :: rest =>
    if c.toNat < 0x20 ∨ c = '\\' then none
    else do
      let (s, rest) ← readQuoted rest
      some (c :: s, rest)

private def readString (s : List Char) : Option (String × List Char) :=
  match s with
  | '"' :: rest => (readQuoted rest).map fun (cs, rest) => (String.ofList cs, rest)
  | _ => none

/-! ### Arrays, objects, values -/

def afterWord (word : String) (s : List Char) : Option (List Char) :=
  if word.toList.isPrefixOf s then some (s.drop word.length) else none

/-- Items separated by commas up to the closing bracket. The fuel is at least the length. -/
def readItems (item : List Char → Option (Json × List Char)) :
    Nat → List Char → Option (List Json × List Char)
  | 0, _ => none
  | fuel + 1, s => do
    let (first, rest) ← item (skipSpace s)
    match skipSpace rest with
    | ',' :: rest =>
      let (others, rest) ← readItems item fuel rest
      some (first :: others, rest)
    | ']' :: rest => some ([first], rest)
    | _ => none

/-- Members separated by commas up to the closing brace. The fuel is at least the length. -/
def readMembers (item : List Char → Option (Json × List Char)) :
    Nat → List Char → Option (List (String × Json) × List Char)
  | 0, _ => none
  | fuel + 1, s => do
    let (name, rest) ← readString (skipSpace s)
    match skipSpace rest with
    | ':' :: rest =>
      let (value, rest) ← item (skipSpace rest)
      match skipSpace rest with
      | ',' :: rest =>
        let (others, rest) ← readMembers item fuel rest
        some ((name, value) :: others, rest)
      | '\x7d' :: rest => some ([(name, value)], rest)
      | _ => none
    | _ => none

def readScalar (s : List Char) : Option (Json × List Char) :=
  match s with
  | 'n' :: _ => (afterWord "null" s).map (.null, ·)
  | 't' :: _ => (afterWord "true" s).map (.bool true, ·)
  | 'f' :: _ => (afterWord "false" s).map (.bool false, ·)
  | '"' :: _ => (readString s).map fun (t, rest) => (.string t, rest)
  | '-' :: rest => (readMagnitude true rest).map fun (n, rest) => (.number n, rest)
  | _ => (readMagnitude false s).map fun (n, rest) => (.number n, rest)

/-- Reads a value that starts with the text and opens fewer than `depth` levels. -/
def readValue : Nat → List Char → Option (Json × List Char)
  | 0, s =>
    match s with
    | '[' :: _ => none
    | '\x7b' :: _ => none
    | s => readScalar s
  | depth + 1, s =>
    match s with
    | '[' :: rest =>
      match skipSpace rest with
      | ']' :: rest => some (.array [], rest)
      | rest => (readItems (readValue depth) rest.length rest).map fun (items, rest) =>
          (.array items, rest)
    | '\x7b' :: rest =>
      match skipSpace rest with
      | '\x7d' :: rest => some (.object [], rest)
      | rest => (readMembers (readValue depth) rest.length rest).map fun (members, rest) =>
          (record members, rest)
    | s => readScalar s

def maxDepth : Nat := 127

def parse? (text : String) : Option Json := do
  let (value, rest) ← readValue maxDepth (skipSpace text.toList)
  if (skipSpace rest).isEmpty then some value else none

end LedgerBench.Json
