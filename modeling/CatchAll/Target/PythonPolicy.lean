import CatchAll.Target.Context
import CatchAll.Target.Emission
import CatchAll.Target.Placeholder
import CatchAll.Target.PythonNames
import CatchAll.Writer

/-!
# The catch-all policy for Python

A class gets a constructor for values that were not known when the code was
generated, so that converting a text never fails. Fragments name the wrapper
by its class name alone, since it is defined in the same module.
-/

set_option autoImplicit false

namespace CatchAll.Target.Python

open scoped Text
open Schema

/-- A header with an indented body and no closing line. -/
def suite (w : Writer) (header : Text) (body : Writer → Writer) : Writer :=
  w.block header none body

def fromCase (w : Writer) (arm : Text × Text) : Writer :=
  suite w ("case " ++ literal arm.2 ++ ":") fun w => w.write ("return cls." ++ arm.1)

def fromImplText (layout : Layout) (c : Context) : Text :=
  let w := (Writer.start layout).write "@classmethod"
  let w := suite w ("def from_str(cls, s: str) -> " ++ c.typeName ++ ":") fun w =>
    let w := w.write
      ("\"\"\"Convert ``s`` to a ``" ++ c.typeName ++
        "``; unrecognized values become ``" ++ catchAllName ++ "``.\"\"\"")
    suite w "match s:" fun w =>
      suite (c.arms.foldl fromCase w) "case other:" fun w =>
        w.write ("return cls." ++ catchAllName ++ "(" ++ wrapperName ++ "(other))")
  w.render

def fromStrImplText (layout : Layout) (c : Context) : Text :=
  let w := (Writer.start layout).write "@classmethod"
  let w := suite w ("def parse(cls, s: str) -> " ++ c.typeName ++ ":") fun w =>
    w.write (withMargin 16
      ["\"\"\"Parse ``s`` into a ``" ++ c.typeName ++ "``.",
       [],
       "This operation cannot fail: it never raises.",
       "\"\"\"",
       "return cls.from_str(s)"])
  w.render

def membersText (layout : Layout) (c : Context) : Text :=
  let w := (Writer.start layout).write "@classmethod"
  let header : Text :=
    "def " ++ catchAllName ++ "(cls, value: " ++ wrapperName ++ ") -> " ++ c.typeName ++ ":"
  let w := suite w header fun w =>
    (w.write ("\"\"\"``" ++ catchAllName ++
        "`` contains new variants that have been added since this code was generated.\"\"\"")).write
      ("return cls(" ++ literal catchAllName ++ ", value)")
  w.render

def asStrArmText (layout : Layout) : Text :=
  (suite (Writer.start layout) ("case " ++ wrapperName ++ "() as value:") fun w =>
    w.write "return value._as_str()").render

/-! ## Documentation -/

/-- The variant that a value becomes once the schema has it. -/
def futureVariant (case : Naming.Case) (value : Text) : Text :=
  memberVocabulary.nameOf value case

def placeholder (case : Naming.Case) (members : List Member) : Text :=
  choosePlaceholder members placeholderBase (some (futureVariant case))

def exampleCase (typeName : Text) (w : Writer) (variant : Text) : Writer :=
  suite w ("case " ++ typeName ++ "." ++ variant ++ ":") fun w => w.docs "..."

def explanation (typeName binding placeholder future : Text) : Text :=
  let variant := typeName ++ "." ++ future
  withMargin 12
    ["The above code demonstrates that when `" ++ binding ++ "` represents",
     "`\"" ++ placeholder ++ "\"`, the execution path will lead to the second last case,",
     "even though the class does not define a variant `" ++ variant ++ "`",
     "in the current version of the generated code. The reason is that the",
     "variable `other` is bound to",
     "`" ++ typeName ++ "." ++ catchAllName ++ "(" ++ wrapperName ++ "(\"" ++ placeholder ++
       "\"))`",
     "and calling `as_str` on it returns `\"" ++ placeholder ++ "\"`.",
     "The same match statement keeps working once the code is regenerated from a",
     "schema where `" ++ variant ++ "` is defined: calling `as_str` on",
     "`" ++ variant ++ "` also returns `\"" ++ placeholder ++ "\"`, so the execution",
     "path still hits the second last case."]

def exampleMatch (w : Writer) (c : Context) (binding placeholder : Text) : Writer :=
  suite w ("match " ++ binding ++ ":") fun w =>
    let w := c.variants.foldl (exampleCase c.typeName) w
    let w := suite w ("case other if other.as_str() == \"" ++ placeholder ++ "\":") fun w =>
      (w.docs ("# handles a case for `" ++ placeholder ++ "`")).docs "..."
    suite w "case _:" fun w => w.docs "..."

def docsText (layout : Layout) (case : Naming.Case) (c : Context) : Text :=
  let binding := vocabulary.nameOf c.typeName .snake
  let shown := placeholder case c.members
  let w := (Writer.start layout).docs (forwardNote c.typeName "the generated code")
  let w := (w.docs []).docs
    "Here is an example of how you can make a match statement forward-compatible::"
  let w := (w.docs []).indented fun w => exampleMatch w c binding shown
  let w := (w.docs []).docs (explanation c.typeName binding shown (futureVariant case shown))
  ((w.docs []).docs (catchAllCaution catchAllName wrapperName)).render

/-! ## The wrapper -/

def wrapperInit : Text :=
  withMargin 16
    ["\"\"\"Opaque value used as inner data for the ``" ++ catchAllName ++ "`` variant of",
     "enums in this module.",
     [],
     "While this is not intended to be used directly, it is public because it is",
     "part of the enums that are public interface. Instances are created only by",
     "the enums' ``from_str``; calling the constructor is internal to this module",
     "and not part of the public interface.",
     "\"\"\"",
     [],
     "__slots__ = (\"_value\",)",
     [],
     "def __init__(self, value: str) -> None:",
     "    self._value = value"]

def wrapperMethods : Text :=
  withMargin 16
    ["def __eq__(self, other: object) -> bool:",
     "    if not isinstance(other, " ++ wrapperName ++ "):",
     "        return NotImplemented",
     "    return self._value == other._value",
     [],
     "def __hash__(self) -> int:",
     "    return hash(self._value)",
     [],
     "def __repr__(self) -> str:",
     "    return f\"" ++ wrapperName ++ "(\x7bself._value!r\x7d)\""]

def wrapperText (layout : Layout) (decoration : Text) : Text :=
  let w := (Writer.start layout).write (decoration ++ "class " ++ wrapperName ++ ":")
  let w := w.indented fun w =>
    let w := suite (w.write wrapperInit).blank "def _as_str(self) -> str:" fun w =>
      (w.write "# Private: code outside this module must not read the wrapped string").write
        "return self._value"
    w.blank.write wrapperMethods
  w.render

def wrapperSource (layout : Layout) (c : Context) : Except Outside Text := do
  match c.decoration with
  | some d => return wrapperText layout (← d.render)
  | none => return wrapperText layout []

/-! ## Emissions -/

/-- The module of the wrapper, the layout of the fragments and the case of the
variants. -/
structure Policy where
  module : Json
  layout : Layout
  variantCase : Naming.Case

namespace Policy

def request (p : Policy) (c : Context) : Emission Unit :=
  requestWrapper p.module fun _ => wrapperSource p.layout c

def members (p : Policy) (c : Context) : Emission Text := do
  p.request c
  return membersText p.layout c

def fromImpl (p : Policy) (c : Context) : Emission Text := do
  p.request c
  return fromImplText p.layout c

def fromStrImpl (p : Policy) (c : Context) : Text := fromStrImplText p.layout c

def asStrArm (p : Policy) (c : Context) : Emission Text := do
  p.request c
  return asStrArmText p.layout

def docs (p : Policy) (c : Context) : Text := docsText p.layout p.variantCase c

end Policy

end CatchAll.Target.Python
