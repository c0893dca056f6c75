import CatchAll.Text.Basic

/-!
# Common indentation

Text of several lines may be written with the indentation of the code around
it. Removing the margin that all lines with content share gives the text that
is meant. Only spaces and tabs make a margin, and a line of spaces and tabs
alone becomes empty.
-/

set_option autoImplicit false

namespace CatchAll.Text

def isIndent (c : Char) : Bool := c = ' ' || c = '\t'

def indentOf (line : Text) : Text := line.takeWhile isIndent

def hasContent (line : Text) : Bool := !line.all isIndent

def commonStart : Text → Text → Text
  | a :: as, b :: bs => if a = b then a :: commonStart as bs else []
  | _, _ => []

/-- The margin of a list of lines; lines without content do not count. -/
def margin (ls : List Text) : Text :=
  match (ls.filter hasContent).map indentOf with
  | [] => []
  | first :: rest => rest.foldl commonStart first

def dedentLines (ls : List Text) : List Text :=
  let m := margin ls
  ls.map fun line => if hasContent line then line.drop m.length else []

def dedent (t : Text) : Text := unlines (dedentLines (lines t))

/-- The lines of a passage: a single line as it stands, several lines without
their margin and without the line feeds around them. -/
def passage (t : Text) : List Text :=
  if '\n' ∈ t then lines (stripLineFeeds (dedent t)) else [t]

theorem passage_of_single {t : Text} (h : '\n' ∉ t) : passage t = [t] := by
  simp [passage, h]

end CatchAll.Text
