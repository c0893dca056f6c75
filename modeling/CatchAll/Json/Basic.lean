import CatchAll.Table

/-!
# Document values

The values of a schema document or a settings file. Objects keep their fields
in the order in which the keys first appeared; a key holds its last value.
Whole numbers are exact and kept apart from binary fractions.
-/

set_option autoImplicit false

namespace CatchAll

open scoped Text

inductive Json where
  | null
  | bool (b : Bool)
  | int (i : Int)
  | num (f : Float)
  | str (t : Text)
  | arr (items : List Json)
  | obj (fields : List (Text × Json))

/-- What an object is made of. -/
abbrev Fields := Table Json

namespace Json

/-- What counts as present: not null, false, zero or empty. -/
def truthy : Json → Bool
  | .null => false
  | .bool b => b
  | .int i => i != 0
  | .num f => !(f == 0)
  | .str t => t != []
  | .arr items => !items.isEmpty
  | .obj fields => !fields.isEmpty

/-- The word a message uses for the kind of a value. -/
def kind : Json → Text
  | .null => "NoneType"
  | .bool _ => "bool"
  | .int _ => "int"
  | .num _ => "float"
  | .str _ => "str"
  | .arr _ => "list"
  | .obj _ => "dict"

def text? : Json → Option Text
  | .str t => some t
  | _ => none

def field? (key : Text) : Json → Option Json
  | .obj fields => Table.get? key fields
  | _ => none

def ofOption {α : Type} (f : α → Json) : Option α → Json
  | some a => f a
  | none => .null

def strings (ts : List Text) : Json := .arr (ts.map .str)

end Json

end CatchAll
