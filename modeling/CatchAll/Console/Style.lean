import CatchAll.Console.Color
import CatchAll.Table

/-!
# Styles

A style is written in words: attributes, alone or after a `not`, a color, a color
after `on`, and an address after `link`. Two ways to write the same style have one
name, and words that are no style are their own name.
-/

set_option autoImplicit false

namespace CatchAll.Console

open scoped Text

structure Style where
  attributes : Table Bool
  color : Option Text
  ground : Option Text
  link : Option Text

namespace Style

def plain : Style := ⟨[], none, none, none⟩

/-- In the order in which they are named. -/
def attributeNames : List Text :=
  ["bold", "dim", "italic", "underline", "blink", "blink2", "reverse", "conceal", "strike",
   "underline2", "frame", "encircle", "overline"]

def aliases : List (Text × Text) :=
  [("b", "bold"), ("d", "dim"), ("i", "italic"), ("u", "underline"), ("uu", "underline2"),
   ("r", "reverse"), ("c", "conceal"), ("s", "strike"), ("o", "overline")]

/-- The full name of an attribute. -/
def attribute? (word : Text) : Option Text :=
  if word ∈ attributeNames then some word else (aliases.find? (·.1 == word)).map (·.2)

def withAttribute (s : Style) (name : Text) (on : Bool) : Style :=
  { s with attributes := s.attributes.put name on }

/-- Takes the words from the left; none if one of them fits nothing. -/
def readWords (s : Style) : List Text → Except Outside (Option Style)
  | [] => .ok (some s)
  | word :: rest =>
    let lower := Text.lower word
    if lower = "on" then
      match rest with
      | ground :: rest => do
        match ← readColor ground with
        | some name => readWords { s with ground := some name } rest
        | none => return none
      | [] => .ok none
    else if lower = "not" then
      match rest with
      | word :: rest =>
        match attribute? word with
        | some name => readWords (s.withAttribute name false) rest
        | none => .ok none
      | [] => .ok none
    else if lower = "link" then
      match rest with
      | address :: rest => readWords { s with link := some address } rest
      | [] => .ok none
    else match attribute? lower with
      | some name => readWords (s.withAttribute name true) rest
      | none => do
        match ← readColor lower with
        | some name => readWords { s with color := some name } rest
        | none => return none

def read (t : Text) : Except Outside (Option Style) :=
  if Text.strip t = "none" then .ok (some plain) else plain.readWords (Text.words t)

def attributeText (s : Style) (name : Text) : Option Text :=
  (Table.get? name s.attributes).map fun on => if on then name else "not " ++ name

def name (s : Style) : Text :=
  let after (word : Text) (t : Text) : Text := word ++ " " ++ t
  let words : List Text :=
    attributeNames.filterMap s.attributeText ++ s.color.toList ++
      (s.ground.map (after "on")).toList ++ (s.link.map (after "link")).toList
  if words.isEmpty then "none" else Text.joinWith " " words

end Style

/-- The one name of all ways to write a style. -/
def styleName (t : Text) : Except Outside Text := do
  match ← Style.read t with
  | some s => return s.name
  | none => return Text.lower (Text.strip t)

end CatchAll.Console
