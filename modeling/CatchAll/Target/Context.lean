import CatchAll.Schema.Member
import CatchAll.Target.Decoration

/-!
# Generation contexts

What a policy knows about the enum it emits code for. Members stand in
canonical order, so every emission sees the same sequence.
-/

set_option autoImplicit false

namespace CatchAll.Target

open Schema

structure Context where
  typeName : Text
  members : List Member
  decoration : Option Decoration

namespace Context

def ofMembers (typeName : Text) (members : List Member) (decoration : Option Decoration) :
    Context :=
  ⟨typeName, sortMembers members, decoration⟩

/-- The members with a variant of their own. -/
def named (c : Context) : List Member := c.members.filter (·.isNamed)

/-- The members that only the catch-all represents. -/
def unnamed (c : Context) : List Member := c.members.filter (!·.isNamed)

/-- Variant and value of each named member. -/
def arms (c : Context) : List (Text × Text) :=
  c.members.filterMap fun m => m.variant?.map fun v => (v, m.value)

def variants (c : Context) : List Text := c.members.filterMap (·.variant?)

def values (c : Context) : List Text := c.members.map (·.value)

end Context

end CatchAll.Target
