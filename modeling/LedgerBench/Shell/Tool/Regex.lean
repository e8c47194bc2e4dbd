import LedgerBench.Shell.Pattern

/-! Regular expressions, in the basic and in the extended notation, and the first place of a text
that one of them matches. -/

namespace LedgerBench.Shell

inductive Regex where
  | empty
  | char (c : Char)
  | any
  | oneOf (inverted : Bool) (members : List Member)
  | start
  | finish
  | both (first second : Regex)
  | either (first second : Regex)
  | many (inner : Regex) (least : Nat) (most : Option Nat)
  | group (number : Nat) (inner : Regex)
  | same (number : Nat)
  deriving Repr

namespace Regex

/-! ### Reading -/

def takeTimes (extended : Bool) : List Char → Option (Nat × Option Nat × List Char)
  | '*' :: rest => some (0, none, rest)
  | '+' :: rest => if extended then some (1, none, rest) else none
  | '?' :: rest => if extended then some (0, some 1, rest) else none
  | '\x7b' :: rest => if extended then takeBounds ['\x7d'] rest else none
  | '\\' :: '\x7b' :: rest => if extended then none else takeBounds ['\\', '\x7d'] rest
  | '\\' :: '+' :: rest => if extended then none else some (1, none, rest)
  | '\\' :: '?' :: rest => if extended then none else some (0, some 1, rest)
  | _ => none
where
  takeBounds (closing rest : List Char) : Option (Nat × Option Nat × List Char) :=
    let low := rest.takeWhile Decimal.isDigit
    let rest := rest.drop low.length
    let least := (Decimal.readDigits 0 low).getD 0
    let closed (most : Option Nat) (rest : List Char) :=
      if closing.isPrefixOf rest then some (least, most, rest.drop closing.length) else none
    match rest with
    | ',' :: rest =>
      let high := rest.takeWhile Decimal.isDigit
      closed (if high.isEmpty then none else Decimal.readDigits 0 high) (rest.drop high.length)
    | rest => closed (some least) rest

def takeSet (text : List Char) : Option (Regex × List Char) :=
  let (inverted, inside) := match text with
    | '^' :: rest => (true, rest)
    | rest => (false, rest)
  (Pattern.takeMembers (inside.length + 1) true (inside.map fun c => ⟨c, false⟩)).map
    fun (members, rest) => (.oneOf inverted members, rest.map Glyph.char)

def isBoundary (extended : Bool) : List Char → Bool
  | [] => true
  | '|' :: _ | ')' :: _ => extended
  | '\\' :: '|' :: _ | '\\' :: ')' :: _ => !extended
  | _ => false

def classOf? : Char → Option Regex
  | 'w' => some (.oneOf false [.kind "alnum", .range '_' '_'])
  | 'W' => some (.oneOf true [.kind "alnum", .range '_' '_'])
  | 's' => some (.oneOf false [.kind "space"])
  | 'S' => some (.oneOf true [.kind "space"])
  | _ => none

/-- A part of an expression with what follows it, and how many groups there are until then. -/
abbrev Part := Option (Regex × List Char × Nat)

mutual

def alternatives (extended : Bool) : Nat → Nat → List Char → Part
  | 0, _, _ => none
  | fuel + 1, groups, text => do
    let (first, rest, groups) ← sequence extended fuel true groups text
    match extended, rest with
    | true, '|' :: rest | false, '\\' :: '|' :: rest =>
      let (second, rest, groups) ← alternatives extended fuel groups rest
      return (.either first second, rest, groups)
    | _, rest => return (first, rest, groups)

def sequence (extended : Bool) : Nat → Bool → Nat → List Char → Part
  | 0, _, _, _ => none
  | fuel + 1, atStart, groups, text => do
    if isBoundary extended text then return (.empty, text, groups)
    let (first, rest, groups) ← atom extended fuel atStart groups text
    let (first, rest) := repeated (rest.length + 1) first rest
    let (second, rest, groups) ← sequence extended fuel false groups rest
    return (.both first second, rest, groups)
where
  repeated : Nat → Regex → List Char → Regex × List Char
    | 0, r, rest => (r, rest)
    | fuel + 1, r, rest =>
      match r, takeTimes extended rest with
      | .start, _ => (r, rest)
      | r, some (least, most, rest) => repeated fuel (.many r least most) rest
      | r, none => (r, rest)

def atom (extended : Bool) : Nat → Bool → Nat → List Char → Part
  | 0, _, _, _ => none
  | fuel + 1, atStart, groups, text => do
    let grouped (rest : List Char) : Part := do
      let number := groups + 1
      let (inner, rest, groups) ← alternatives extended fuel number rest
      match extended, rest with
      | true, ')' :: rest | false, '\\' :: ')' :: rest =>
        return (.group number inner, rest, groups)
      | _, _ => none
    match text with
    | '^' :: rest => return (if extended || atStart then .start else .char '^', rest, groups)
    | '$' :: rest =>
      return (if extended || isBoundary extended rest then .finish else .char '$', rest, groups)
    | '.' :: rest => return (.any, rest, groups)
    | '[' :: rest => do
      let (set, rest) ← takeSet rest
      return (set, rest, groups)
    | '(' :: rest => if extended then grouped rest else return (.char '(', rest, groups)
    | '\\' :: '(' :: rest => if extended then return (.char '(', rest, groups) else grouped rest
    | '\\' :: c :: rest =>
      match Decimal.digitValue c, classOf? c with
      | some n, _ => return (.same n, rest, groups)
      | none, some r => return (r, rest, groups)
      | none, none => return (.char (if c = 'n' then '\n' else c), rest, groups)
    | ['\\'] => none
    | c :: rest => return (.char c, rest, groups)
    | [] => none

end

def ofText? (extended : Bool) (text : String) : Option Regex :=
  match alternatives extended (8 * text.length + 8) 0 text.toList with
  | some (r, [], _) => some r
  | _ => none

/-! ### Matching -/

structure Progress where
  atStart : Bool
  rest : List Char
  groups : List (Nat × List Char)

def Progress.forward (p : Progress) (rest : List Char) : Progress :=
  { p with atStart := false, rest }

/-- A match that goes on with `next`. The fuel bounds how deep it goes. -/
def matchFrom (folded : Bool) :
    Nat → Regex → Progress → (Progress → Option Progress) → Option Progress
  | 0, _, _, _ => none
  | fuel + 1, r, p, next =>
    let fold := fun (c : Char) => if folded then c.toLower else c
    let one (fits : Char → Bool) : Option Progress :=
      match p.rest with
      | c :: rest => if fits c then next (p.forward rest) else none
      | [] => none
    match r with
    | .empty => next p
    | .char c => one fun d => fold c == fold d
    | .any => one fun _ => true
    | .oneOf inverted members => one fun d =>
      (members.any fun m => m.contains d || (folded && (m.contains d.toLower || m.contains d.toUpper)))
        != inverted
    | .start => if p.atStart then next p else none
    | .finish => if p.rest.isEmpty then next p else none
    | .both first second =>
      matchFrom folded fuel first p fun q => matchFrom folded fuel second q next
    | .either first second =>
      match matchFrom folded fuel first p next with
      | some q => some q
      | none => matchFrom folded fuel second p next
    | .many inner least most =>
      let once := if most == some 0 then none else
        matchFrom folded fuel inner p fun q =>
          if least = 0 && q.rest.length == p.rest.length then none
          else matchFrom folded fuel (.many inner (least - 1) (most.map (· - 1))) q next
      match once with
      | some q => some q
      | none => if least = 0 then next p else none
    | .group number inner =>
      matchFrom folded fuel inner p fun q =>
        let text := p.rest.take (p.rest.length - q.rest.length)
        next { q with groups := (number, text) :: q.groups }
    | .same number =>
      let text := (p.groups.lookup number).getD []
      if text.isPrefixOf p.rest then
        next (if text.isEmpty then p else p.forward (p.rest.drop text.length))
      else none

structure Match where
  before : List Char
  found : List Char
  after : List Char
  groups : List (Nat × List Char)

def findFrom (folded : Bool) (fuel : Nat) (r : Regex) :
    Bool → List Char → List Char → Option Match
  | atStart, before, text =>
    match matchFrom folded fuel r ⟨atStart, text, []⟩ some with
    | some p =>
      some ⟨before.reverse, text.take (text.length - p.rest.length), p.rest, p.groups⟩
    | none =>
      match text with
      | [] => none
      | c :: rest => findFrom folded fuel r false (c :: before) rest

/-- The first place of a text that an expression matches. `atStart` tells whether the text begins
where the whole text does. -/
def find? (folded : Bool) (r : Regex) (atStart : Bool) (text : List Char) : Option Match :=
  findFrom folded (1000 + 100 * text.length) r atStart [] text

end Regex
end LedgerBench.Shell
