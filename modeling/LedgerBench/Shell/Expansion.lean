import LedgerBench.Json.Printer
import LedgerBench.Shell.Arithmetic
import LedgerBench.Shell.Pattern

/-! What words stand for: the values of parameters, the outputs of commands and the values of
expressions are put in, and the result is divided into fields where it is not quoted. A command in a
word has to be run by somebody else: expansion stops there, and begins anew when the output is
known. -/

namespace LedgerBench.Shell

inductive Stop where
  | fault (fault : Fault)
  | output (command : Command) (scope : Scope)

structure Known where
  scope : Scope
  outputs : List String

abbrev Expand (α : Type) := StateT Known (Except Stop) α

/-- A piece of an expanded word. A loose character came out of something else and can divide the
word; so does the end of a quoted argument among several, and the gap after an unquoted one if
anything stands before it. -/
inductive Fragment where
  | glyph (glyph : Glyph)
  | loose (c : Char)
  | quotes
  | gap
  | divide
  deriving Repr, DecidableEq

namespace Expand

def refuse {α : Type} (fault : Fault) : Expand α :=
  throw (.fault fault)

def scope : Expand Scope :=
  return (← get).scope

def fragments (quoted : Bool) (text : List Char) : List Fragment :=
  text.map fun c => if quoted then .glyph ⟨c, true⟩ else .loose c

def joinFragments (between : List Fragment) : List (List Fragment) → List Fragment
  | [] => []
  | [last] => last
  | first :: rest => first ++ between ++ joinFragments between rest

/-- The fragments of all arguments together. They stay apart only in a word that may be divided. -/
def argumentFragments (divisible quoted : Bool) (name : String) (scope : Scope) : List Fragment :=
  let each := scope.args.map fun text => fragments quoted text.toList
  if divisible && !quoted then joinFragments [.gap] each
  else if divisible && name == "@" then
    if each.isEmpty then [] else .quotes :: joinFragments [.divide] each
  else joinFragments (fragments quoted scope.joint) each

def parameterFragments (divisible quoted : Bool) (name : String) (scope : Scope) :
    Option (List Fragment) :=
  if name = "@" ∨ name = "*" then some (argumentFragments divisible quoted name scope)
  else (scope.parameter? name).map fun text => fragments quoted text.toList

def parameterText? (name : String) (scope : Scope) : Option String :=
  if name = "@" ∨ name = "*" then some (Json.joined (String.ofList scope.joint) scope.args)
  else scope.parameter? name

def isSet (orEmpty : Bool) (name : String) : Expand Bool := do
  match parameterText? name (← scope) with
  | none => return false
  | some text => return !(orEmpty && text.isEmpty)

def demanded (name : String) : Expand String := do
  let s ← scope
  match parameterText? name s with
  | some text => return text
  | none => if s.has 'u' then refuse (.noValue name "parameter not set") else return ""

def home? (scope : Scope) (user : List Char) : Option (List Char) :=
  if user.isEmpty then (scope.lookUp? "HOME").map String.toList
  else if user = "root".toList then some "/root".toList
  else none

def userAt (inAssignment : Bool) (parts : List Part) : Option (List Char) :=
  let isName : Part → Bool := fun
    | .glyph c false => c != '/' && !(inAssignment && c == ':')
    | _ => false
  match parts.dropWhile isName with
  | [] | .glyph '/' false :: _ => some (Word.characters (parts.takeWhile isName))
  | .glyph ':' false :: _ =>
    if inAssignment then some (Word.characters (parts.takeWhile isName)) else none
  | _ => none

/-- How a word is looked at: whether it may be divided, whether its own unquoted characters divide
it, and whether it is the value of an assignment, in which a tilde may also follow a colon. -/
structure Manner where
  divisible : Bool
  loose : Bool
  inAssignment : Bool

def textOf (fragments : List Fragment) : String :=
  String.ofList (fragments.filterMap fun
    | .glyph g => some g.char
    | .loose c => some c
    | .gap | .divide => some ' '
    | .quotes => none)

def glyphsOf (fragments : List Fragment) : List Glyph :=
  fragments.filterMap fun
    | .glyph g => some g
    | .loose c => some ⟨c, false⟩
    | .gap | .divide => some ⟨' ', false⟩
    | .quotes => none

def inner (divisible quoted : Bool) : Manner := ⟨divisible, !quoted, false⟩

def whole : Manner := ⟨false, false, false⟩

mutual

/-- The fragments of some parts. `atStart` tells whether a tilde here stands for a home directory,
and the first `skipped` parts belong to one that has been put in. -/
def parts (manner : Manner) (atStart : Bool) (skipped : Nat) : List Part → Expand (List Fragment)
  | [] => return []
  | p :: rest =>
    match skipped with
    | n + 1 => parts manner false n rest
    | 0 =>
      match p with
      | .glyph '~' false => do
        let user? := if atStart then userAt manner.inAssignment rest else none
        match user?, user?.bind (home? (← scope)) with
        | some user, some home =>
          return fragments true home ++ (← parts manner false user.length rest)
        | _, _ =>
          let more ← parts manner false 0 rest
          return (if manner.loose then .loose '~' else .glyph ⟨'~', false⟩) :: more
      | .glyph c quoted => do
        let more ← parts manner (manner.inAssignment && c == ':' && !quoted) 0 rest
        return (if manner.loose && !quoted then .loose c else .glyph ⟨c, quoted⟩) :: more
      | p => do
        let first ← part manner p
        let more ← parts manner false 0 rest
        return first ++ more

def part (manner : Manner) : Part → Expand (List Fragment)
  | .glyph c quoted => return [.glyph ⟨c, quoted⟩]
  | .quotes => return [.quotes]
  | .parameter name c quoted => changed manner.divisible quoted name c
  | .output command quoted => do
    match (← get).outputs with
    | [] => throw (.output command (← scope))
    | text :: outputs =>
      modify fun k => { k with outputs }
      return fragments quoted text.toList
  | .number expression quoted => do
    let text ← parts whole false 0 expression
    match Arithmetic.evaluate (← scope) (textOf text) with
    | .error fault => refuse fault
    | .ok (n, scope) =>
      modify fun k => { k with scope }
      return fragments quoted (toString n).toList

def changed (divisible quoted : Bool) (name : String) : Change → Expand (List Fragment)
  | .keep => do
    let _ ← demanded name
    return (parameterFragments divisible quoted name (← scope)).getD []
  | .size => do
    return fragments quoted (toString (Scope.sizeOf (← demanded name))).toList
  | .cut back longest pattern => do
    let text ← demanded name
    let pattern := Pattern.ofGlyphs (glyphsOf (← parts whole true 0 pattern))
    let cut := if back then Pattern.cutBack longest pattern text.toList
      else Pattern.cutFront longest pattern text.toList
    return fragments quoted cut
  | .orElse orEmpty word => do
    if ← isSet orEmpty name then
      return (parameterFragments divisible quoted name (← scope)).getD []
    else parts (inner divisible quoted) (!quoted) 0 word
  | .ifSet orEmpty word => do
    if ← isSet orEmpty name then parts (inner divisible quoted) (!quoted) 0 word
    else return []
  | .assign orEmpty word => do
    if !(← isSet orEmpty name) then
      let value := textOf (← parts whole (!quoted) 0 word)
      match (← scope).assign name value with
      | .ok scope => modify fun k => { k with scope }
      | .error fault => refuse fault
    return (parameterFragments divisible quoted name (← scope)).getD []
  | .demand orEmpty word => do
    if ← isSet orEmpty name then
      return (parameterFragments divisible quoted name (← scope)).getD []
    else
      let text := textOf (← parts whole (!quoted) 0 word)
      let usual := if orEmpty then "parameter not set or null" else "parameter not set"
      refuse (.noValue name (if word.isEmpty then usual else text))
  | .unknown => refuse .badSubstitution

end

/-! ### Fields -/

/-- The field that ends at some place, if anything stands in it. `current` holds it backwards. -/
def ended (current : Option (List Glyph)) : List (List Glyph) :=
  (current.map List.reverse).toList

/-- Divides fragments into fields. A blank that divides counts together with all blanks around it
and with one other separator among them. `mayFollow` tells whether such a one may still come. -/
def divided (separators : List Char) :
    Option (List Glyph) → Bool → List Fragment → List (List Glyph)
  | current, _, [] => ended current
  | current, _, .glyph g :: rest => divided separators (some (g :: current.getD [])) false rest
  | current, _, .quotes :: rest => divided separators (some (current.getD [])) false rest
  | current, _, .gap :: rest => ended current ++ divided separators none false rest
  | current, _, .divide :: rest =>
    (current.getD []).reverse :: divided separators (some []) false rest
  | current, mayFollow, .loose c :: rest =>
    if !separators.contains c then
      divided separators (some (⟨c, false⟩ :: current.getD [])) false rest
    else if c == ' ' || c == '\t' || c == '\n' then
      match current with
      | none => divided separators none mayFollow rest
      | some glyphs => glyphs.reverse :: divided separators none true rest
    else if mayFollow then divided separators none false rest
    else (current.getD []).reverse :: divided separators none false rest

def wholeText (inAssignment : Bool) (word : Word) : Expand String :=
  textOf <$> parts ⟨false, false, inAssignment⟩ true 0 word

def pattern (word : Word) : Expand Pattern :=
  (fun fragments => Pattern.ofGlyphs (glyphsOf fragments)) <$> parts whole true 0 word

def fields (word : Word) : Expand (List (List Glyph)) := do
  let fragments ← parts ⟨true, false, false⟩ true 0 word
  return divided (← scope).separators none false fragments

end Expand
end LedgerBench.Shell
