import CatchAll.Console.Markup

/-!
# Blocks

What is printed on a terminal: lines, panels with a title, and tables whose
columns stand below each other. All texts in them are markup.
-/

set_option autoImplicit false

namespace CatchAll.Console

open scoped Text

inductive Block where
  | line (markup : Text)
  | panel (title : Text) (body : List Text)
  | grid (title : Text) (header : List Text) (rows : List (List Text))

/-- The lines of a row: a cell with several lines makes the row higher. -/
def rowLines (cells : List Text) : List (List Text) :=
  let columns := cells.map Text.lines
  let height := (columns.map (·.length)).foldl max 0
  (List.range height).map fun n => columns.map fun column => (column[n]?).getD []

def columnWidth (rows : List (List Text)) (n : Nat) : Nat :=
  (rows.map fun row => ((row[n]?).getD []).length).foldl max 0

def alignRow (widths : List Nat) (row : List Text) : Text :=
  Text.stripEnd (Text.joinWith "  " ((widths.zip row).map fun (width, cell) =>
    Text.padEnd width cell))

/-- Rows with each column as wide as its widest cell. -/
def align (rows : List (List Text)) : List Text :=
  let count := (rows.map (·.length)).foldl max 0
  let widths := (List.range count).map (columnWidth rows)
  rows.map (alignRow widths)

namespace Block

/-- The lines of a block, if its markup can be read. -/
def lines : Block → Except Fault (List Text)
  | line markup => do return Text.lines (← display markup)
  | panel title body => do
    let title ← display title
    let body ← display (Text.unlines body)
    return ("── " ++ title ++ " ──") :: (Text.lines body).map fun line => "  " ++ line
  | grid title header rows => do
    let title ← display title
    let header ← header.mapM display
    let rows ← rows.mapM fun row => row.mapM display
    return title :: align (header :: rows.flatMap rowLines)

def text (b : Block) : Except Fault Text :=
  b.lines.map fun ls => ls.flatMap fun line => line ++ ['\n']

end Block

end CatchAll.Console
