import LedgerBench.Machine.Basic
import LedgerBench.Shell.Pattern

/-! The paths that match a pattern. A name that begins with a point is found only by a pattern that
begins with one. -/

namespace LedgerBench.Shell.Glob

def segments (field : List Glyph) : List (List Glyph) :=
  match field with
  | [] => [[]]
  | g :: rest =>
    if g.char = '/' then [] :: segments rest
    else
      match segments rest with
      | [] => [[g]]
      | part :: parts => (g :: part) :: parts

def isFound (pattern : Pattern) (name : String) : Bool :=
  let isHidden := name.toList.head? == some '.'
  (!isHidden || pattern.head? == some (.char '.')) && Pattern.isMatch pattern name.toList

def paths (machine : Machine) : String → List (List Glyph) → List String
  | start, [] => [start]
  | start, segment :: rest =>
    let pattern := Pattern.ofGlyphs segment
    let names :=
      if !pattern.isOpen then [String.ofList (segment.map Glyph.char)]
      else
        match machine.locate (if start.isEmpty then "." else start) with
        | some place =>
          if machine.directories.contains place then
            ("." :: ".." :: machine.namesIn place).filter (isFound pattern)
          else []
        | none => []
    if rest.isEmpty then names.map (start ++ ·)
    else names.flatMap fun name => paths machine (start ++ name ++ "/") rest

/-- What a field stands for: the paths that it matches, or itself if it is no pattern or nothing
matches. -/
def expand (machine : Machine) (field : List Glyph) : List String :=
  let plain := String.ofList (field.map Glyph.char)
  if !(Pattern.ofGlyphs field).isOpen then [plain]
  else
    match (paths machine "" (segments field)).filter machine.hasPath with
    | [] => [plain]
    | found => found.mergeSort fun a b => decide (a ≤ b)

end LedgerBench.Shell.Glob
