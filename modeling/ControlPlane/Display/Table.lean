import ControlPlane.Text.Split
import ControlPlane.Text.Width

/-!
# Tables

A table has a head and rows below it, with a rule above and below each. A column is as wide as its widest cell, and a row is as
high as its highest cell.
-/

namespace ControlPlane.Display.Table

/-- A cell: its lines. -/
abbrev Cell := List (List Char)

/-- The cell with a text. -/
def cell (s : String) : Cell := Text.split (· == '\n') s.toList

/-- The width of a cell. -/
def cellWidth (c : Cell) : Nat := (c.map Text.width).foldl max 0

/-- The widths of columns that also hold one more row. -/
def widen : List Nat → List Cell → List Nat
  | w :: ws, c :: cs => max w (cellWidth c) :: widen ws cs
  | [], cs => cs.map cellWidth
  | ws, [] => ws

/-- A line of a cell with blanks behind it, up to a width and one more, and a blank before it. -/
def padded (width : Nat) (line : List Char) : List Char :=
  ' ' :: line ++ List.replicate (width - Text.width line + 1) ' '

/-- The rule between rows. -/
def rule (widths : List Nat) : List Char :=
  '+' :: widths.flatMap fun w => List.replicate (w + 2) '-' ++ ['+']

/-- A line of a row. -/
def rowLine (widths : List Nat) (row : List Cell) (i : Nat) : List Char :=
  '|' :: (widths.zip row).flatMap fun (w, c) => padded w (c.getD i []) ++ ['|']

/-- The lines of a row, with the rule below them. -/
def rowLines (widths : List Nat) (row : List Cell) : List (List Char) :=
  (List.range ((row.map List.length).foldl max 0)).map (rowLine widths row) ++ [rule widths]

/-- The text of a table. -/
def text (head : List String) (rows : List (List String)) : String :=
  let cells := (head :: rows).map (·.map cell)
  let widths := cells.foldl widen []
  "\n".intercalate ((rule widths :: cells.flatMap (rowLines widths)).map String.ofList)

end ControlPlane.Display.Table
