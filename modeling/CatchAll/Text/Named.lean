import CatchAll.Text.Codes
import CatchAll.Text.NameTable

/-!
# Characters by name

Finds a character by its name, in capitals or not.
-/

set_option autoImplicit false

namespace CatchAll.Text

def entries (names : String) : List Text := (cut (· = ';') names.toList).map strip

def inRun? (first : Nat) (names : String) (name : Text) : Option Nat :=
  ((entries names).findIdx? (· == name)).map (first + ·)

/-- The code before a name that is in the list. -/
def amongOthers? (name : Text) : Option Nat :=
  (entries otherNames).findSome? fun entry =>
    if (entry.dropWhile (· ≠ ' ')).drop 1 = name then
      some (hexNumber (entry.takeWhile (· ≠ ' ')))
    else none

def named? (name : Text) : Option Nat :=
  let name := name.map Char.toUpper
  match nameRuns.findSome? fun (first, names) => inRun? first names name with
  | some n => some n
  | none => amongOthers? name

end CatchAll.Text
