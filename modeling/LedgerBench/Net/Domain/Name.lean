import LedgerBench.Net.Domain.Bidi
import LedgerBench.Net.Domain.Composition
import LedgerBench.Net.Domain.Mapping
import LedgerBench.Net.Domain.Punycode
import LedgerBench.Text.Blank
import LedgerBench.Text.Joining

/-! Names of hosts in all scripts and in their one plain spelling. The characters of a name are
replaced and put together, and a label that is not plain after that is written in code after the mark
`xn--`. -/

namespace LedgerBench.Net.Domain

open Text (joinsBothWays joinsBefore joinsAfter isJoiningTransparent)

def codeMark : List Char := "xn--".toList

def isForbidden (c : Char) : Bool :=
  c.toNat ≤ 0x20 || c.toNat == 0x7F ||
    ['#', '/', ':', '<', '>', '?', '@', '[', '\\', ']', '^', '|', '%'].contains c

/-! ### Joiners -/

def joinsFromBefore (before : List Char) : Bool :=
  ((before.dropWhile isJoiningTransparent).head?).any fun c =>
    joinsBothWays.contains c || joinsAfter.contains c

def joinsFromAfter (after : List Char) : Bool :=
  ((after.dropWhile isJoiningTransparent).head?).any fun c =>
    joinsBothWays.contains c || joinsBefore.contains c

/-- Whether the joiners of a label have something to join or to keep apart. The characters before
this place are given in reverse. -/
def joinersFit : List Char → List Char → Bool
  | _, [] => true
  | before, c :: after =>
    let afterVirama := before.head?.any isVirama
    (match c.toNat with
      | 0x200C => afterVirama || (joinsFromBefore before && joinsFromAfter after)
      | 0x200D => afterVirama
      | _ => true) && joinersFit (c :: before) after

/-! ### Labels -/

def isWellFormed (label : List Char) : Bool :=
  !label.head?.any Text.isMark && joinersFit [] label

def readLabel (label : List Char) : Option (List Char) :=
  if codeMark.isPrefixOf label then
    match Punycode.decode (label.drop codeMark.length) with
    | none => none
    | some decoded =>
      if decoded.all Punycode.isPlain || !decoded.all isStable || composed decoded != decoded ||
          codeMark.isPrefixOf decoded || !isWellFormed decoded then none
      else some decoded
  else if label.all Punycode.isPlain || isWellFormed label then some label
  else none

def plainLabel (label : List Char) : List Char :=
  if label.all Punycode.isPlain then label else codeMark ++ Punycode.encode label

def plainName (s : List Char) : Option (List Char) := do
  let name := composed (← s.mapM mapped).flatten
  if name.any isForbidden then none
  let labels ← (Text.splitAtEach '.' name).mapM readLabel
  if followDirections labels then some (['.'].intercalate (labels.map plainLabel)) else none

end LedgerBench.Net.Domain
