import CatchAll.Journal
import CatchAll.Template.Reader
import CatchAll.Text.Casing

/-!
# Rendering by name and from text

A library of named templates, and templates given as text. A failure tells
which template it was.
-/

set_option autoImplicit false

namespace CatchAll.Template

open scoped Text

/-- What went wrong, and in which named template. -/
structure TemplateError where
  name : Option Text
  fault : Fault
  deriving DecidableEq

/-- The text of a fault, for those that the library describes itself. -/
def Fault.describe? (name : Option Text) : Fault → Option Text
  | .undefined x => some (Text.quoted x ++ " is undefined")
  | .noField kind x => some (Text.quoted kind ++ " has no attribute " ++ Text.quoted x)
  | .missing => some (name.getD [])
  | _ => none

/-- The kind of a fault that only the outside describes. -/
def Fault.outside? : Fault → Option Outside
  | .notIterable | .wrongArgument | .reservedName => some .wrongKind
  | .noFilter => some .filterNotFound
  | .malformed => some .malformedTemplate
  | .unknownFilter => some .unknownFilter
  | .undefined _ | .noField _ _ | .missing => none

def TemplateError.headline (e : TemplateError) : Text :=
  match e.name with
  | some name => "Failed to render template " ++ name
  | none => "Failed to render template string"

def TemplateError.message (e : TemplateError) : Text :=
  match e.fault.describe? e.name with
  | some t => e.headline ++ ": " ++ t
  | none => e.headline

/-- Templates of the markup formats are known by the end of their name. -/
def isMarkupName (name : Text) : Bool :=
  let name := Text.lower name
  (".html" : Text).isSuffixOf name || (".xml" : Text).isSuffixOf name

abbrev Shelf := List (Text × List Node)

/-- The name of the template among what is handed to it. -/
def ownName : Text := "self"

def checkNames (values : Fields) : Except Fault Unit :=
  if Table.has ownName values then .error .reservedName else .ok ()

def renderNodes (markup : Bool) (values : Fields) (nodes : List Node) : Except Fault Text := do
  checkNames values
  render markup values nodes

def renderText (template : Text) (values : Fields) : Except TemplateError Text :=
  match read template >>= renderNodes false (constants ++ values) with
  | .ok t => .ok t
  | .error fault => .error ⟨none, fault⟩

def renderNamed (shelf : Shelf) (name : Text) (values : Fields) : Except TemplateError Text :=
  match shelf.find? (·.1 == name) with
  | none => .error ⟨some name, .missing⟩
  | some (_, nodes) =>
    match renderNodes (isMarkupName name) values nodes with
    | .ok t => .ok t
    | .error fault => .error ⟨some name, fault⟩

/-- Renders one of several templates given as text. -/
def renderFrom (templates : List (Text × Text)) (name : Text) (values : Fields) :
    Except TemplateError Text :=
  match templates.find? (·.1 == name) with
  | none => .error ⟨some name, .missing⟩
  | some (_, template) =>
    match read template with
    | .ok nodes => renderNamed [(name, nodes)] name (constants ++ values)
    | .error fault => .error ⟨some name, fault⟩

end CatchAll.Template
