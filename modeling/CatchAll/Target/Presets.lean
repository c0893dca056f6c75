import CatchAll.Target.Decoration
import CatchAll.Json.Basic

/-!
# Presets

Overrides for common uses of a language.
-/

set_option autoImplicit false

namespace CatchAll.Target

open scoped Text

namespace Rust

/-- For a client library: documentation, and every trait that an open enum can have. -/
def sdkPreset : Fields :=
  [("module_name", .str "types"), ("add_comments", .bool true),
   ("derives", Json.strings
      ["Clone", "Debug", "Eq", "Hash", "Ord", "PartialEq", "PartialOrd"])]

/-- Few traits, and no documentation from the schema. -/
def minimalPreset : Fields :=
  [("module_name", .str "types"), ("add_comments", .bool false),
   ("derives", Json.strings ["Clone", "Debug", "PartialEq"])]

end Rust

namespace Python

/-- Classes that type checkers treat as final. -/
def typedPreset : Fields :=
  [("module_name", .str "types"), ("decorators", Json.strings ["final"])]

/-- Classes without decorators. -/
def plainPreset : Fields := [("module_name", .str "types"), ("decorators", Json.strings [])]

end Python

end CatchAll.Target
