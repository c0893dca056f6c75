import CatchAll.Target.PythonPolicy
import CatchAll.Target.RustPolicy

/-!
# Policies

A policy says which code an enum gets beyond its members. Besides the catch-all
policies of the two languages there are policies of constant fragments, which
look at no enum and need no layout.
-/

set_option autoImplicit false

namespace CatchAll.Target

open Schema

/-- Fragments that are the same for every enum. -/
structure FixedPolicy where
  name : Text
  members : Text
  fromImpl : Text
  fromStrImpl : Text
  asStrArm : Text
  docs : Text
  reserved : List Text

inductive Policy where
  | rust
  | python
  | fixed (p : FixedPolicy)

/-- What the emission of fragments depends on besides the enum. The layout is
looked at only by the policies that need one. -/
structure Surroundings where
  module : Json
  layout : Except Outside Layout
  variantCase : Naming.Case

namespace Surroundings

def rust (s : Surroundings) : Emission Rust.Policy := do
  return ⟨s.module, ← Emission.ofOutside s.layout⟩

def python (s : Surroundings) : Emission Python.Policy := do
  return ⟨s.module, ← Emission.ofOutside s.layout, s.variantCase⟩

end Surroundings

namespace Policy

open scoped Text

def name : Policy → Text
  | rust | python => "InfallibleEnumType"
  | fixed p => p.name

def reserved : Policy → List Text
  | rust | python => [catchAllName]
  | fixed p => p.reserved

def placeholder (case : Naming.Case) : Policy → List Member → Text
  | rust, members => Rust.placeholder members
  | python, members => Python.placeholder case members
  | fixed _, members => choosePlaceholder members placeholderBase none

def members (s : Surroundings) (c : Context) : Policy → Emission Text
  | rust => do (← s.rust).members c
  | python => do (← s.python).members c
  | fixed p => return p.members

def fromImpl (s : Surroundings) (c : Context) : Policy → Emission Text
  | rust => do (← s.rust).fromImpl c
  | python => do (← s.python).fromImpl c
  | fixed p => return p.fromImpl

def fromStrImpl (s : Surroundings) (c : Context) : Policy → Emission Text
  | rust => do return (← s.rust).fromStrImpl c
  | python => do return (← s.python).fromStrImpl c
  | fixed p => return p.fromStrImpl

def asStrArm (s : Surroundings) (c : Context) : Policy → Emission Text
  | rust => return Rust.asStrArmText c
  | python => do (← s.python).asStrArm c
  | fixed p => return p.asStrArm

def docs (s : Surroundings) (c : Context) : Policy → Emission Text
  | rust => do return (← s.rust).docs c
  | python => do return (← s.python).docs c
  | fixed p => return p.docs

end Policy

end CatchAll.Target
