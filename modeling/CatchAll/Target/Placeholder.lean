import CatchAll.Schema.Member

/-!
# The placeholder of the documentation

The documentation of a generated enum shows how to handle a value that is not
known yet. The value it shows must not be one that the enum already has.
-/

set_option autoImplicit false

namespace CatchAll.Target

open scoped Text
open Schema

def placeholderBase : Text := "NewFeature"

/-- The values and identifiers of the members. -/
def taken (members : List Member) : List Text :=
  members.flatMap fun m => m.value :: m.variant?.toList

def placeholderAt (base : Text) : Nat → Text
  | 0 => base
  | n + 1 => base ++ Text.ofNat (n + 2)

/-- A candidate is free when neither it nor the variant it would become is taken. -/
def isFree (taken : List Text) (variant : Option (Text → Text)) (candidate : Text) : Bool :=
  candidate ∉ taken && variant.all fun f => f candidate ∉ taken

/-- The first free candidate. A taken text rules out one candidate by itself and
few by their variants, so the search is short. -/
def choosePlaceholder (members : List Member) (base : Text)
    (variant : Option (Text → Text)) : Text :=
  let all := taken members
  match (List.range (4 * members.length + 1)).find? fun n =>
      isFree all variant (placeholderAt base n) with
  | some n => placeholderAt base n
  | none => base

/-- A passage written with a margin, which the writer takes away again. -/
def withMargin (width : Nat) (ls : List Text) : Text :=
  let margin := List.replicate width ' '
  '\n' :: (ls.flatMap fun line => margin ++ line ++ ['\n']) ++ margin

/-- Why matching without a default breaks when the schema grows. -/
def forwardNote (typeName artifact : Text) : Text :=
  withMargin 8
    ["When writing a match expression against `" ++ typeName ++
       "`, it is important to ensure",
     "your code is forward-compatible. That is, if a match arm handles a case for a",
     "feature that is supported by the service but has not been represented as an enum",
     "variant in a current version of " ++ artifact ++
       ", your code should continue to work when you",
     "upgrade " ++ artifact ++
       " to a future version in which the enum does include a variant for that",
     "feature."]

/-- Why the catch-all variant should not be matched by name. -/
def catchAllCaution (variant wrapper : Text) : Text :=
  withMargin 8
    ["Explicitly matching on the `" ++ variant ++ "` variant should",
     "be avoided for two reasons:",
     "- The inner data `" ++ wrapper ++
       "` is opaque, and no further information can be extracted.",
     "- It might inadvertently shadow other intended match arms."]

end CatchAll.Target
