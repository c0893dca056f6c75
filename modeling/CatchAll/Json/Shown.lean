import CatchAll.Decimal.Number
import CatchAll.Json.Basic
import CatchAll.Text.Quoted

/-!
# Values in messages

How a message shows a value. Texts inside a value are quoted; a text on its
own is shown as it is.
-/

set_option autoImplicit false

namespace CatchAll.Json

open scoped Text

mutual

/-- The value as it stands inside another value. -/
def quoted : Json → Text
  | .null => "None"
  | .bool true => "True"
  | .bool false => "False"
  | .int i => Text.ofInt i
  | .num f => Decimal.text f
  | .str t => Text.quoted t
  | .arr items => "[" ++ Text.joinWith ", " (quotedItems items) ++ "]"
  | .obj fields => ['{'] ++ Text.joinWith ", " (quotedFields fields) ++ ['}']

def quotedItems : List Json → List Text
  | [] => []
  | item :: rest => quoted item :: quotedItems rest

def quotedFields : List (Text × Json) → List Text
  | [] => []
  | (key, value) :: rest => (Text.quoted key ++ ": " ++ quoted value) :: quotedFields rest

end

/-- The value on its own. -/
def shown : Json → Text
  | .str t => t
  | v => quoted v

@[simp] theorem shown_str (t : Text) : shown (.str t) = t := rfl

end CatchAll.Json
