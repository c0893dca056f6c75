import CatchAll.Json.Shown

/-!
# Templates

A template is text with slots, conditions and loops over a set of named
values. A name that has no value is a fault, never an empty text. Values are
put in as they are; only in documents of the markup formats are the five
characters with a meaning there replaced.
-/

set_option autoImplicit false

namespace CatchAll.Template

open scoped Text

/-- A filter with what it is told. One that is told what it cannot use, and one that
nobody knows, fail when they are reached. -/
inductive Filter where
  | indent (width : Nat)
  | comment (mark : Text)
  | join (separator : Text)
  | misfit
  | unknown

/-- A name, fields of its value, and filters for the result. -/
structure Slot where
  name : Text
  path : List Text
  filters : List Filter

def Slot.ofName (name : Text) : Slot := ⟨name, [], []⟩

def Slot.field (slot : Slot) (name : Text) : Slot := { slot with path := slot.path ++ [name] }

def Slot.through (slot : Slot) (filter : Filter) : Slot :=
  { slot with filters := slot.filters ++ [filter] }

/-- A name alone is a slot. -/
scoped instance : Coe String Slot := ⟨fun name => Slot.ofName name.toList⟩

inductive Node where
  | lit (t : Text)
  | put (slot : Slot)
  | cond (slot : Slot) (yes no : List Node)
  | each (name : Text) (slot : Slot) (body : List Node)

inductive Fault where
  | undefined (name : Text)
  | noField (kind name : Text)
  | notIterable
  | wrongArgument
  | noFilter
  | malformed
  | unknownFilter
  | reservedName
  | missing
  deriving DecidableEq

/-- Adds spaces before every line that shows something. -/
def indentLines (width : Nat) (t : Text) : Text :=
  Text.unlines ((Text.lines t).map fun line =>
    if Text.allBlank line then line else List.replicate width ' ' ++ line)

/-- Adds a comment mark before every line. -/
def commentLines (mark : Text) (t : Text) : Text :=
  Text.unlines ((Text.lines t).map fun line =>
    if Text.allBlank line then mark else mark ++ " " ++ line)

/-- What a loop or a join runs over. -/
def elements : Json → Except Fault (List Json)
  | .arr items => .ok items
  | .str t => .ok (t.map fun c => .str [c])
  | .obj fields => .ok (fields.map fun field => .str field.1)
  | _ => .error .notIterable

def Filter.apply (v : Json) : Filter → Except Fault Json
  | .indent width => .ok (.str (indentLines width v.shown))
  | .comment mark => .ok (.str (commentLines mark v.shown))
  | .join separator => do
    return .str (Text.joinWith separator ((← elements v).map Json.shown))
  | .misfit => .error .wrongArgument
  | .unknown => .error .noFilter

/-- How a fault names the kind of a value. -/
def kindName : Json → Text
  | .null => "None"
  | v => v.kind ++ " object"

def stepInto (v : Json) (name : Text) : Except Fault Json :=
  match v.field? name with
  | some w => .ok w
  | none => .error (.noField (kindName v) name)

def Slot.value (values : Fields) (slot : Slot) : Except Fault Json := do
  match Table.get? slot.name values with
  | none => throw (.undefined slot.name)
  | some v =>
    let v ← slot.path.foldlM stepInto v
    slot.filters.foldlM Filter.apply v

def markupChar : Char → Text
  | '&' => "&amp;"
  | '<' => "&lt;"
  | '>' => "&gt;"
  | '"' => "&#34;"
  | '\'' => "&#39;"
  | c => [c]

def escapeMarkup (t : Text) : Text := t.flatMap markupChar

/-- How a value is written into the text around it. -/
def written (markup : Bool) (v : Json) : Text :=
  if markup then escapeMarkup v.shown else v.shown

mutual

def renderNode (markup : Bool) (values : Fields) : Node → Except Fault Text
  | .lit t => .ok t
  | .put slot => do return written markup (← slot.value values)
  | .cond slot yes no => do
    if (← slot.value values).truthy then render markup values yes
    else render markup values no
  | .each name slot body => do
    let items ← elements (← slot.value values)
    let parts ← items.mapM fun item => render markup ((name, item) :: values) body
    return parts.flatten

def render (markup : Bool) (values : Fields) : List Node → Except Fault Text
  | [] => .ok []
  | node :: rest => do
    let head ← renderNode markup values node
    return head ++ (← render markup values rest)

end

end CatchAll.Template
