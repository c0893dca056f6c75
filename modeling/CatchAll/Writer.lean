import CatchAll.Template.Engine
import CatchAll.Text.Dedent

/-!
# Source writer

A writer collects the lines of a source text. Lines stand at the level of the
writer, each level one unit of indentation; lines that show nothing are empty.
Documentation lines carry a mark in front.
-/

set_option autoImplicit false

namespace CatchAll

open scoped Text

/-- One unit of indentation, and the mark before documentation. -/
structure Layout where
  unit : Text
  docMark : Text

/-- A tab, or a number of spaces; a negative number gives none. -/
def Layout.ofOptions (size : Int) (tabs : Bool) (docMark : Text) : Layout :=
  ⟨if tabs then ['\t'] else List.replicate size.toNat ' ', docMark⟩

/-- Why a template was not written. -/
inductive WriteError where
  | takenName
  | template (e : Template.TemplateError)

structure Writer where
  layout : Layout
  lines : List Text
  level : Nat

namespace Writer

def start (layout : Layout) : Writer := ⟨layout, [], 0⟩

def indentation (w : Writer) : Text := (List.replicate w.level w.layout.unit).flatten

def codeLine (w : Writer) (line : Text) : Text :=
  if Text.allBlank line then [] else w.indentation ++ line

def marked (mark line : Text) : Text :=
  if mark = [] then line
  else if line = [] then mark
  else mark ++ " " ++ line

def docLine (w : Writer) (line : Text) : Text :=
  let marked := marked w.layout.docMark line
  if marked = [] then [] else w.indentation ++ marked

def append (w : Writer) (new : List Text) : Writer := { w with lines := w.lines ++ new }

def write (w : Writer) (t : Text) : Writer := w.append ((Text.passage t).map w.codeLine)

def docs (w : Writer) (t : Text) : Writer := w.append ((Text.passage t).map w.docLine)

def blank (w : Writer) : Writer := w.append [[]]

/-- The names that no slot of a written template can have: those of the writer and of
the template. -/
def takenNames : List Text := ["self", "template"]

/-- Writes what a template gives, without the line feeds around it. -/
def writeTemplate (w : Writer) (template : Text) (values : Fields) :
    Except WriteError Writer := do
  if takenNames.any fun name => Table.has name values then throw .takenName
  match Template.renderText (Text.dedent template) values with
  | .ok t => return w.write (Text.stripLineFeeds t)
  | .error e => throw (.template e)

def enter (w : Writer) : Writer := { w with level := w.level + 1 }

def leave (w : Writer) : Writer := { w with level := w.level - 1 }

def indented (w : Writer) (body : Writer → Writer) : Writer :=
  { body w.enter with level := w.level }

def close (w : Writer) : Option Text → Writer
  | some closer => w.write closer
  | none => w

/-- A header, a body one level deeper and a closer. -/
def block (w : Writer) (header : Text) (closer : Option Text) (body : Writer → Writer) :
    Writer :=
  ((w.write header).indented body).close closer

def render (w : Writer) : Text := Text.unlines w.lines

@[simp] theorem lines_append (w : Writer) (new : List Text) :
    (w.append new).lines = w.lines ++ new := rfl

@[simp] theorem level_append (w : Writer) (new : List Text) : (w.append new).level = w.level := rfl

@[simp] theorem level_write (w : Writer) (t : Text) : (w.write t).level = w.level := rfl

@[simp] theorem level_docs (w : Writer) (t : Text) : (w.docs t).level = w.level := rfl

@[simp] theorem level_indented (w : Writer) (body : Writer → Writer) :
    (w.indented body).level = w.level := rfl

end Writer

end CatchAll
