import CatchAll.Journal
import CatchAll.Json.Shown
import CatchAll.Naming.Sanitizer
import CatchAll.Schema.Member

/-!
# Member identifiers

Identifiers are handed out in canonical order, so that the number a name gets
in a conflict does not depend on the order of the schema. An identifier that
belongs to the catch-all is taken from the text with `_value` added instead.
-/

set_option autoImplicit false

namespace CatchAll.Naming

open scoped Text
open Schema

/-- Derives a name from a value of any kind. A value that is no text has a name
only if a text shown alike was converted before. -/
def Sanitizer.deriveFrom (s : Sanitizer) (source : Json) (case : Case) (suffix : Text) :
    Except Outside (Option Text × Sanitizer) :=
  match source with
  | .str t => .ok (s.derive t case suffix)
  | other =>
    match s.known? (Sanitizer.key other.shown case) with
    | some converted => .ok (s.claim? suffix converted)
    | none => .error .wrongKind

/-- A reserved name, or one that a conflict counter was added to. -/
def collidesWith (reserved candidate : Text) : Bool :=
  candidate == reserved ||
    ((reserved ++ "_").isPrefixOf candidate &&
      let counter := candidate.drop (reserved.length + 1)
      counter ≠ [] && counter.all Char.isDigit)

def collides (reserved : List Text) (candidate : Text) : Bool :=
  reserved.any fun name => collidesWith name candidate

def memberIdentifier (reserved : List Text) (case : Case) (s : Sanitizer) (m : Member) :
    Except Outside (Option Text × Sanitizer) := do
  let (candidate, s) ← s.deriveFrom m.source case "_"
  if candidate.any (collides reserved) then
    return s.derive (m.source.shown ++ "_value") case "_"
  else return (candidate, s)

/-- Members one after the other, each with the identifier it gets. -/
def nameMembers (reserved : List Text) (case : Case) (s : Sanitizer) :
    List Member → Except Outside (List Member)
  | [] => .ok []
  | m :: rest => do
    let (identifier, s) ← memberIdentifier reserved case s m
    return m.withIdentifier identifier :: (← nameMembers reserved case s rest)

/-- A sanitizer at the start of an enum: only the reserved names are used. -/
def Sanitizer.startWith (s : Sanitizer) (reserved : List Text) : Sanitizer :=
  reserved.foldl (fun s name => s.addUsed name) s.reset

def deriveMembers (members : List Member) (s : Sanitizer) (case : Case) (reserved : List Text) :
    Except Outside (List Member) :=
  nameMembers reserved case (s.startWith reserved) (sortMembers members)

end CatchAll.Naming
