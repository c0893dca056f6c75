import CatchAll.Text.Casing

/-!
# Paths

A path is a list of steps; steps of nothing and steps that stay in place are
dropped when it is read, steps to the parent are kept. The written form of a
path without steps is a dot.
-/

set_option autoImplicit false

namespace CatchAll.Files

open scoped Text

/-- A path, and how many slashes stand at its root: none, one or two. -/
structure Path where
  root : Nat
  steps : List Text
  deriving DecidableEq

namespace Path

def rootOf (t : Text) : Nat :=
  let slashes := (t.takeWhile (· = '/')).length
  if slashes = 0 then 0 else if slashes = 2 then 2 else 1

def ofText (t : Text) : Path :=
  ⟨rootOf t, (Text.cut (· = '/') t).filter fun step => step ≠ [] && step ≠ "."⟩

def text (p : Path) : Text :=
  if p.root = 0 && p.steps.isEmpty then "."
  else List.replicate p.root '/' ++ Text.joinWith "/" p.steps

/-- The steps from the working directory, or from the root as a place in it. -/
def key (p : Path) : List Text := if p.root = 0 then p.steps else "/" :: p.steps

/-- The last step from its last dot on, unless that dot begins or ends it. -/
def suffix (p : Path) : Text :=
  match p.steps.getLast? with
  | none => []
  | some name =>
    let after := name.reverse.takeWhile (· ≠ '.')
    if after.isEmpty || after.length + 1 ≥ name.length then []
    else name.drop (name.length - after.length - 1)

/-- The steps with each return to a parent taken together with the step before it. -/
def normalSteps (p : Path) : List Text :=
  let up : Text := ".."
  p.key.foldl (fun place step =>
    if step = up ∧ place.getLast?.any (· ≠ up) then place.dropLast else place ++ [step]) []

def isJson (p : Path) : Bool := Text.lower p.suffix = ".json"

end Path

end CatchAll.Files
