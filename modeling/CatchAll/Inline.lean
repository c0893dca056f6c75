import CatchAll.Text.Basic

/-!
# Shared definitions

Enums of one module share helper types. The register keeps one definition for
each module and name: the first one that was made.
-/

set_option autoImplicit false

namespace CatchAll

open scoped Text

/-- A type that is defined in a generated module. -/
structure TypeReference where
  name : Text
  module : Text

def TypeReference.qualified (r : TypeReference) (separator root : Text) : Text :=
  Text.joinWith separator ([root, r.module, r.name].filter (· ≠ []))

structure Shared where
  module : Text
  name : Text
  source : Text

/-- Definitions in the order in which they were made. -/
abbrev Register := List Shared

namespace Register

def isDefined (register : Register) (module name : Text) : Bool :=
  register.any fun d => d.module = module && d.name = name

def definitions (register : Register) (module : Text) : List Text :=
  (register.filter (·.module = module)).map (·.source)

def define (register : Register) (d : Shared) : Register :=
  if register.isDefined d.module d.name then register else register ++ [d]

/-- Defines a type unless it is defined. The source is made only when it is
needed, and may fail; then nothing changes. The flag tells a new definition. -/
def getOrDefine {ε : Type} (register : Register) (module name : Text)
    (source : Unit → Except ε Text) : Except ε (Register × Bool) :=
  if register.isDefined module name then .ok (register, false)
  else do return (register.define ⟨module, name, ← source ()⟩, true)

end Register

end CatchAll
