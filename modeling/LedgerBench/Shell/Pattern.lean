import LedgerBench.Decimal.Digits
import LedgerBench.Shell.Command

/-! Patterns that texts are held against. In a pattern an unquoted `*` stands for any text, an
unquoted `?` for any character, and unquoted brackets for one of some characters. What follows an
unquoted backslash means itself. -/

namespace LedgerBench.Shell

/-- A character of an expanded word. A quoted one always means itself. -/
structure Glyph where
  char : Char
  quoted : Bool
  deriving Repr, DecidableEq

inductive Member where
  | range (first last : Char)
  | kind (name : String)
  deriving Repr, DecidableEq

def isOfKind (name : String) (c : Char) : Bool :=
  match name with
  | "alpha" => c.isAlpha
  | "digit" => Decimal.isDigit c
  | "alnum" => c.isAlpha || Decimal.isDigit c
  | "upper" => c.isUpper
  | "lower" => c.isLower
  | "space" => c == ' ' || ('\t' ≤ c && c ≤ '\r')
  | "blank" => c == ' ' || c == '\t'
  | "punct" => '!' ≤ c && c ≤ '~' && !c.isAlpha && !Decimal.isDigit c
  | "print" => ' ' ≤ c && c ≤ '~'
  | "graph" => '!' ≤ c && c ≤ '~'
  | "cntrl" => c < ' ' || c == '\x7f'
  | "xdigit" => Decimal.isDigit c || ('a' ≤ c && c ≤ 'f') || ('A' ≤ c && c ≤ 'F')
  | _ => false

def Member.contains (c : Char) : Member → Bool
  | .range first last => first ≤ c && c ≤ last
  | .kind name => isOfKind name c

inductive Piece where
  | anyText
  | anyChar
  | char (c : Char)
  | oneOf (inverted : Bool) (members : List Member)
  deriving Repr, DecidableEq

abbrev Pattern := List Piece

namespace Pattern

def takeKind (glyphs : List Glyph) : Option (String × List Glyph) :=
  let name := glyphs.takeWhile fun g => g.char.isAlpha
  match glyphs.dropWhile fun g => g.char.isAlpha with
  | ⟨':', _⟩ :: ⟨']', _⟩ :: rest => some (String.ofList (name.map Glyph.char), rest)
  | _ => none

/-- What stands between brackets up to the closing one, which may not come first. -/
def takeMembers : Nat → Bool → List Glyph → Option (List Member × List Glyph)
  | 0, _, _ => none
  | _, _, [] => none
  | fuel + 1, isFirst, g :: rest =>
    if g = ⟨']', false⟩ && !isFirst then some ([], rest)
    else
      let kind? := match g, rest with
        | ⟨'[', false⟩, ⟨':', _⟩ :: rest => takeKind rest
        | _, _ => none
      match kind?, rest with
      | some (name, rest), _ =>
        (takeMembers fuel false rest).map fun (members, rest) => (.kind name :: members, rest)
      | none, ⟨'-', false⟩ :: last :: after =>
        if last = ⟨']', false⟩ then
          (takeMembers fuel false rest).map fun (members, rest) =>
            (.range g.char g.char :: members, rest)
        else
          (takeMembers fuel false after).map fun (members, rest) =>
            (.range g.char last.char :: members, rest)
      | none, rest =>
        (takeMembers fuel false rest).map fun (members, rest) =>
          (.range g.char g.char :: members, rest)

def takeBrackets (glyphs : List Glyph) : Option (Piece × List Glyph) :=
  let (inverted, inside) := match glyphs with
    | ⟨'!', false⟩ :: rest | ⟨'^', false⟩ :: rest => (true, rest)
    | rest => (false, rest)
  (takeMembers (inside.length + 1) true inside).map fun (members, rest) =>
    (.oneOf inverted members, rest)

def ofGlyphsFrom : Nat → List Glyph → Pattern
  | 0, _ | _, [] => []
  | fuel + 1, g :: rest =>
    if g = ⟨'*', false⟩ then .anyText :: ofGlyphsFrom fuel rest
    else if g = ⟨'?', false⟩ then .anyChar :: ofGlyphsFrom fuel rest
    else if g = ⟨'[', false⟩ then
      match takeBrackets rest with
      | some (piece, rest) => piece :: ofGlyphsFrom fuel rest
      | none => .char '[' :: ofGlyphsFrom fuel rest
    else if g = ⟨'\\', false⟩ then
      match rest with
      | next :: rest => .char next.char :: ofGlyphsFrom fuel rest
      | [] => [.char '\\']
    else .char g.char :: ofGlyphsFrom fuel rest

def ofGlyphs (glyphs : List Glyph) : Pattern :=
  ofGlyphsFrom glyphs.length glyphs

def isOpen (pattern : Pattern) : Bool :=
  pattern.any fun
    | .char _ => false
    | _ => true

def isMatch : Pattern → List Char → Bool
  | [], text => text.isEmpty
  | .anyText :: rest, [] => isMatch rest []
  | .anyText :: rest, c :: text => isMatch rest (c :: text) || isMatch (.anyText :: rest) text
  | _ :: _, [] => false
  | .anyChar :: rest, _ :: text => isMatch rest text
  | .char p :: rest, c :: text => p == c && isMatch rest text
  | .oneOf inverted members :: rest, c :: text =>
    (members.any (Member.contains c) != inverted) && isMatch rest text
termination_by pattern text => pattern.length + text.length

/-- The text without the front that matches a pattern, the shortest one or the longest. -/
def cutFront (longest : Bool) (pattern : Pattern) (text : List Char) : List Char :=
  let sizes := List.range (text.length + 1)
  let fits := fun n => isMatch pattern (text.take n)
  match (if longest then sizes.reverse else sizes).find? fits with
  | some n => text.drop n
  | none => text

def cutBack (longest : Bool) (pattern : Pattern) (text : List Char) : List Char :=
  let sizes := List.range (text.length + 1)
  let fits := fun n => isMatch pattern (text.drop (text.length - n))
  match (if longest then sizes.reverse else sizes).find? fits with
  | some n => text.take (text.length - n)
  | none => text

end Pattern
end LedgerBench.Shell
