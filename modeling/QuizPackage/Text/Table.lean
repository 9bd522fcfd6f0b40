/-!
# Text tables

Tables drawn with letters, as an outside library draws them: a header above a double line, and rows
with lines between them.
-/

namespace QuizPackage.Text

/-- A table. Every row has as many cells as the header. -/
structure Table where
  header : List String
  rows : List (List String)

def cellLines (cell : String) : List String :=
  cell.splitOn "\n"

def cellWidth (cell : String) : Nat :=
  ((cellLines cell).map String.length).foldl max 0

def Table.widths (table : Table) : List Nat :=
  table.rows.foldl (fun widths row => List.zipWith max widths (row.map cellWidth))
    (table.header.map cellWidth)

def rule (c : Char) (length : Nat) : String :=
  String.ofList (List.replicate length c)

def padded (width : Nat) (line : String) : String :=
  line ++ rule ' ' (width - line.length)

def rowLine (widths : List Nat) (lines : List String) : String :=
  "| " ++ " | ".intercalate (List.zipWith padded widths lines) ++ " |"

def rowLines (widths : List Nat) (row : List String) : List String :=
  let cells := row.map cellLines
  let height := (cells.map List.length).foldl max 0
  (List.range height).map fun index =>
    rowLine widths (cells.map fun lines => (lines[index]?).getD "")

def crossLine (edge : String) (widths : List Nat) : String :=
  edge ++ "+".intercalate (widths.map fun width => rule '-' (width + 2)) ++ edge

def headerLine (widths : List Nat) : String :=
  let length := widths.foldr (fun width length => width + 2 + length) (widths.length - 1)
  "+" ++ rule '=' length ++ "+"

/-- The lines of all rows, with a line between each and the next. -/
def bodyLines (widths : List Nat) : List (List String) → List String
  | [] => []
  | [row] => rowLines widths row
  | row :: rest => rowLines widths row ++ crossLine "|" widths :: bodyLines widths rest

def Table.lines (table : Table) : List String :=
  let widths := table.widths
  crossLine "+" widths :: rowLines widths table.header ++ headerLine widths ::
    bodyLines widths table.rows ++ [crossLine "+" widths]

def Table.render (table : Table) : String :=
  "\n".intercalate table.lines

end QuizPackage.Text
