import CatchAll.Journal
import CatchAll.Text.Basic

/-!
# Decorations

What stands in front of a generated type: derived traits with a visibility,
or class decorators. Names that have no written form cannot be rendered.
-/

set_option autoImplicit false

namespace CatchAll.Target

open scoped Text

inductive Decoration where
  | derives (traits : List Text) (visibility : Text)
  | decorators (names : List Text)

/-- The path of each trait that may be derived. -/
def traitPaths : List (Text × Text) :=
  [("Clone", "::std::clone::Clone"),
   ("Copy", "::std::marker::Copy"),
   ("Debug", "::std::fmt::Debug"),
   ("Default", "::std::default::Default"),
   ("Eq", "::std::cmp::Eq"),
   ("Hash", "::std::hash::Hash"),
   ("Ord", "::std::cmp::Ord"),
   ("PartialEq", "::std::cmp::PartialEq"),
   ("PartialOrd", "::std::cmp::PartialOrd")]

/-- The imported name behind each decorator that is known. -/
def decoratorImports : List (Text × Text) :=
  [("final", "final"), ("typing.final", "final")]

def lookUp (table : List (Text × Text)) (name : Text) : Except Outside Text :=
  match table.find? (·.1 == name) with
  | some (_, written) => .ok written
  | none => .error .missingKey

def deriveLine (traits : List Text) : Except Outside (List Text) :=
  if traits.isEmpty then .ok []
  else do
    let paths ← (Text.sort traits).mapM (lookUp traitPaths)
    return ["#[derive(" ++ Text.joinWith ", " paths ++ ")]"]

def Decoration.render : Decoration → Except Outside Text
  | .derives traits visibility => do
    let head ← deriveLine traits
    let keyword : Text := if visibility = [] then [] else visibility ++ " "
    return Text.unlines (head ++ [keyword])
  | .decorators names => do
    let written ← names.mapM (lookUp decoratorImports)
    return written.flatMap fun name => "@" ++ name ++ "\n"

/-- The names that decorators need imported, sorted. -/
def decoratorNames (names : List Text) : Except Outside (List Text) := do
  return Text.sort (Text.distinct (← names.mapM (lookUp decoratorImports)))

end CatchAll.Target
