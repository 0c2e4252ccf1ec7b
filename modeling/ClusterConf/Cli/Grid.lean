import ClusterConf.Text.Width
set_option autoImplicit false

/-!
Tables drawn with dashes and bars. Every column is as wide as its widest line, and a cell of
several lines makes its row as high.
-/
namespace ClusterConf.Grid

def cellLines (cell : String) : List String := (cell.splitOn "\n")

def cellWidth (cell : String) : Nat := (cellLines cell).foldl (fun w l => max w (Text.width l)) 0

def cellHeight (cell : String) : Nat := (cellLines cell).length

def columnWidths (rows : List (List String)) : List Nat :=
  rows.foldl (fun ws row => (ws.zip row).map fun (w, cell) => max w (cellWidth cell))
    ((rows.headD []).map fun _ => 0)

/-- The line between two rows. -/
def rule (widths : List Nat) : String :=
  "+" ++ String.join (widths.map fun w => "".pushn '-' (w + 2) ++ "+")

def rowLine (widths : List Nat) (row : List String) (i : Nat) : String :=
  let cells := (widths.zip row).map fun (w, cell) =>
    let line := (cellLines cell).getD i ""
    " " ++ line ++ "".pushn ' ' (w - Text.width line) ++ " |"
  "|" ++ String.join cells

/-- The lines of a row, as many as its highest cell has. -/
def rowLines (widths : List Nat) (row : List String) : List String :=
  let height := row.foldl (fun h cell => max h (cellHeight cell)) 1
  (List.range height).map (rowLine widths row)

/-- The table with a header and rows, without a line feed at its end. -/
def draw (header : List String) (rows : List (List String)) : String :=
  let all := header :: rows
  let widths := columnWidths all
  let border := rule widths
  "\n".intercalate (border :: all.flatMap fun row => rowLines widths row ++ [border])

end ClusterConf.Grid
