import CatchAll.Template.Engine

/-!
# Templates of a Rust module

The header of a module, the declaration of an enum and its implementations.
-/

set_option autoImplicit false

namespace CatchAll.Target.Rust

open scoped Text Template
open Template (Node Slot)

def headerTemplate : List Node :=
  [.lit "// Code generated by openenum. DO NOT EDIT.\n",
   .cond "module_docs"
     [.put (Slot.through "module_docs" (.comment "//!")), .lit "\n"] []]

def variantSlot (field : Text) : Slot := Slot.field "variant" field

def enumTemplate : List Node :=
  [.cond "docs" [.put "docs", .lit "\n"] [],
   .put "metadata", .lit "enum ", .put "enum_name", .lit " \x7b\n",
   .each "variant" "variants"
     [.cond (variantSlot "docs")
        [.put ((variantSlot "docs").through (.indent 4)), .lit "\n"]
        [.lit "    #[allow(missing_docs)] // documentation missing in model\n"],
      .cond (variantSlot "deprecated") [.lit "    #[deprecated]\n"] [],
      .lit "    ", .put (variantSlot "name"), .lit ",\n"],
   .put (Slot.through "additional_members" (.indent 4)), .lit "\n\x7d"]

def allowDeprecated : Node := .cond "allow_deprecated" [.lit "#[allow(deprecated)]\n"] []

def implTemplate : List Node :=
  [allowDeprecated,
   .put "from_impl", .lit "\n\n", .put "from_str_impl", .lit "\n\n",
   allowDeprecated,
   .lit "impl ", .put "enum_name", .lit " \x7b\n",
   .lit "    /// Returns the `&str` value of the enum member.\n",
   .lit "    pub fn as_str(&self) -> &str \x7b\n",
   .lit "        match self \x7b\n",
   .each "arm" "as_str_arms" [.lit "            ", .put "arm", .lit "\n"],
   .put (Slot.through "additional_as_str_arms" (.indent 12)),
   .lit "\n        \x7d\n",
   .lit "    \x7d\n\n",
   .lit "    /// Returns all the `&str` representations of the enum members.\n",
   .lit "    pub const fn values() -> &'static [&'static str] \x7b\n",
   .lit "        &[", .put (Slot.through "values" (.join ", ")), .lit "]\n",
   .lit "    \x7d\n",
   .lit "\x7d\n\n",
   .lit "impl ::std::convert::AsRef<str> for ", .put "enum_name", .lit " \x7b\n",
   .lit "    fn as_ref(&self) -> &str \x7b\n",
   .lit "        self.as_str()\n",
   .lit "    \x7d\n",
   .lit "\x7d\n\n",
   .lit "impl ::std::fmt::Display for ", .put "enum_name", .lit " \x7b\n",
   .lit "    fn fmt(&self, f: &mut ::std::fmt::Formatter<'_>) -> ::std::fmt::Result \x7b\n",
   .lit "        f.write_str(self.as_str())\n",
   .lit "    \x7d\n",
   .lit "\x7d"]

def shelf : Template.Shelf :=
  [("module_header.rs.j2", headerTemplate),
   ("enum.rs.j2", enumTemplate),
   ("enum_impl.rs.j2", implTemplate)]

end CatchAll.Target.Rust
