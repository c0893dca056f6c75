import CatchAll.Json.Basic

/-!
# Enum members

A member is one permitted value of a string enum; a definition lists the
members of one enum as its document gives them. A name or a documentation that
the document supplies is kept as the value it is; an empty one counts as
absent.
-/

set_option autoImplicit false

namespace CatchAll.Schema

open scoped Text

structure Member where
  value : Text
  name : Json
  documentation : Json
  deprecated : Bool
  identifier : Option Text

structure Definition where
  name : Text
  members : List Member
  documentation : Json

namespace Member

def ofValue (value : Text) : Member := ⟨value, .null, .null, false, none⟩

/-- What the identifier is derived from: the name given, else the value. -/
def source (m : Member) : Json := if m.name.truthy then m.name else .str m.value

def withIdentifier (m : Member) (identifier : Option Text) : Member :=
  { m with identifier }

/-- The identifier of a member that has a variant of its own. -/
def variant? (m : Member) : Option Text := m.identifier.filter (· ≠ [])

def isNamed (m : Member) : Bool := m.variant?.isSome

@[simp] theorem value_withIdentifier (m : Member) (identifier : Option Text) :
    (m.withIdentifier identifier).value = m.value := rfl

end Member

def valueLe (a b : Member) : Bool := Text.le a.value b.value

/-- Canonical order: by value, members of one value in the order given. -/
def sortMembers (members : List Member) : List Member := members.mergeSort valueLe

def Definition.member? (d : Definition) (value : Text) : Option Member :=
  d.members.find? (·.value == value)

end CatchAll.Schema
