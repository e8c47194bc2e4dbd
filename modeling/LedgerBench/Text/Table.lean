import LedgerBench.Text.Blank
import LedgerBench.Text.Columns

/-! Tables in frames of line-drawing characters. A column is as wide as its widest line, with a
blank on both sides; all text stands to the left; a rule runs between all rows; a line break inside
a cell makes its row one line higher. -/

namespace LedgerBench.Text

structure Table where
  header : List String
  rows : List (List String)
  deriving Repr, DecidableEq

namespace Table

def cellLines (cell : String) : List (List Char) :=
  splitAtEach '\n' cell.toList

def cellColumns (cell : String) : Nat :=
  ((cellLines cell).map fun line => (columns line).toNat).foldl max 0

def widths (table : Table) : List Nat :=
  table.rows.foldl (fun ws row => List.zipWith max ws (row.map cellColumns))
    (table.header.map cellColumns)

def padded (width : Nat) (s : List Char) : List Char :=
  s ++ List.replicate (width - columns s).toNat ' '

def rule (left cross right : Char) (ws : List Nat) : List Char :=
  left :: [cross].intercalate (ws.map fun w => List.replicate (w + 2) '─') ++ [right]

def rowLines (ws : List Nat) (row : List String) : List (List Char) :=
  let cells := row.map cellLines
  let height := (cells.map List.length).foldl max 0
  (List.range height).map fun i =>
    '│' :: ['│'].intercalate
      (List.zipWith (fun w cell => ' ' :: padded w (cell.getD i []) ++ [' ']) ws cells) ++ ['│']

/-- The text of a table; its last line is not ended. -/
def text (table : Table) : String :=
  let ws := table.widths
  let rows := (table.header :: table.rows).map (rowLines ws)
  let lines := rule '┌' '┬' '┐' ws ::
    [rule '├' '┼' '┤' ws].intercalate rows ++ [rule '└' '┴' '┘' ws]
  String.ofList (['\n'].intercalate lines)

theorem columns_padded {width : Nat} {s : List Char} (h : columns s ≤ width) :
    columns (padded width s) = width := by
  rw [padded, columns_append_spaces]
  omega

end Table
end LedgerBench.Text
