/-
Tables of text.

Columns are as wide as their widest line and at least one character. A cell with line feeds takes several lines,
every row has a rule below it, and the rule below the header is double.
-/
import SearchFilter.Text.Width

namespace SearchFilter.Command

/-- a header and rows of cells -/
structure Table where
  header : List String
  rows : List (List String)

namespace Table

def cellLines (s : String) : List String := (s.toList.splitOn '\n').map String.ofList

/-- columns a cell takes -/
def cellWidth (s : String) : Nat := ((cellLines s).map fun l => Text.width l.toList).foldl max 1

def widths (t : Table) : List Nat :=
  t.rows.foldl (fun ws row => List.zipWith max ws (row.map cellWidth)) (t.header.map cellWidth)

/-- `n` times a character -/
def repeated (n : Nat) (c : Char) : String := String.ofList (List.replicate n c)

def rule (ends join fill : Char) (ws : List Nat) : String :=
  String.singleton ends ++ (String.singleton join).intercalate (ws.map fun w => repeated (w + 2) fill) ++
    String.singleton ends

/-- one line of a row, line `i` of each of its cells -/
def rowLine (ws : List Nat) (cells : List (List String)) (i : Nat) : String :=
  "|" ++ "|".intercalate
    (List.zipWith (fun w (c : List String) => " " ++ Text.padTo w (c.getD i "") ++ " ") ws cells) ++ "|"

def rowLines (ws : List Nat) (row : List String) : List String :=
  let cells := row.map cellLines
  let height := (cells.map List.length).foldl max 1
  (List.range height).map (rowLine ws cells)

/-- a table as text, without a line feed at the end -/
def text (t : Table) : String :=
  let ws := t.widths
  let top := rule '+' '+' '-' ws
  let between := rule '|' '+' '-' ws
  let rows := t.rows.map (rowLines ws)
  "\n".intercalate
    ([top] ++ rowLines ws t.header ++ [rule '+' '=' '=' ws] ++ (rows.intersperse [between]).flatten ++ [top])

end Table
end SearchFilter.Command
