import CatchAll.Template.Engine

/-!
# Templates of a Python module

The header of a module, a class and the list of exported names.
-/

set_option autoImplicit false

namespace CatchAll.Target.Python

open scoped Text Template
open Template (Node Slot)

def headerTemplate : List Node :=
  [.cond "module_docs"
     [.lit "\"\"\"\n", .put "module_docs", .lit "\n\"\"\"\n\n"] [],
   .cond "add_header" [.lit "# Code generated by openenum. DO NOT EDIT.\n\n"] [],
   .lit "from __future__ import annotations\n\n",
   .lit "from typing import ", .put (Slot.through "typing_imports" (.join ", "))]

def variantSlot (field : Text) : Slot := Slot.field "variant" field

def classTemplate : List Node :=
  [.put "metadata", .lit "class ", .put "enum_name", .lit ":\n",
   .lit "    \"\"\"", .put "summary", .lit "\n",
   .cond "docs" [.lit "\n", .put (Slot.through "docs" (.indent 4)), .lit "\n"] [],
   .lit "    \"\"\"\n\n",
   .lit "    __slots__ = (\"_name\", \"_value\")\n\n",
   .each "variant" "variants"
     [.lit "    ", .put (variantSlot "name"), .lit ": ClassVar[", .put "enum_name", .lit "]\n",
      .cond (variantSlot "docs")
        [.lit "    \"\"\"", .put (variantSlot "docs"), .lit "\"\"\"\n"] []],
   .lit "\n",
   .lit "    def __init__(self, name: str, value: str | ", .put "unknown_value",
   .lit ") -> None:\n",
   .lit "        self._name = name\n",
   .lit "        self._value = value\n\n",
   .put (Slot.through "additional_members" (.indent 4)), .lit "\n\n",
   .put (Slot.through "from_impl" (.indent 4)), .lit "\n\n",
   .put (Slot.through "from_str_impl" (.indent 4)), .lit "\n\n",
   .lit "    def as_str(self) -> str:\n",
   .lit "        \"\"\"Returns the string value of the enum member.\"\"\"\n",
   .lit "        match self._value:\n",
   .put (Slot.through "additional_as_str_arms" (.indent 12)), .lit "\n",
   .lit "            case str() as value:\n",
   .lit "                return value\n\n",
   .lit "    @classmethod\n",
   .lit "    def values(cls) -> tuple[str, ...]:\n",
   .lit "        \"\"\"Returns all the string representations of the enum members.\"\"\"\n",
   .lit "        return (", .put (Slot.through "values" (.join ", ")), .lit ",)\n\n",
   .lit "    @property\n",
   .lit "    def name(self) -> str:\n",
   .lit "        \"\"\"Name of the variant.\"\"\"\n",
   .lit "        return self._name\n\n",
   .lit "    def __eq__(self, other: object) -> bool:\n",
   .lit "        if not isinstance(other, ", .put "enum_name", .lit "):\n",
   .lit "            return NotImplemented\n",
   .lit "        return self._name == other._name and self._value == other._value\n\n",
   .lit "    def __hash__(self) -> int:\n",
   .lit "        return hash((self._name, self._value))\n\n",
   .lit "    def __repr__(self) -> str:\n",
   .lit "        if isinstance(self._value, ", .put "unknown_value", .lit "):\n",
   .lit "            return f\"", .put "enum_name", .lit ".", .put "unknown_variant",
   .lit "(\x7bself._value!r\x7d)\"\n",
   .lit "        return f\"", .put "enum_name", .lit ".\x7bself._name\x7d\"\n\n",
   .lit "    def __str__(self) -> str:\n",
   .lit "        return self.as_str()\n\n\n",
   .each "variant" "variants"
     [.put "enum_name", .lit ".", .put (variantSlot "name"), .lit " = ", .put "enum_name",
      .lit "(", .put (variantSlot "name_literal"), .lit ", ", .put (variantSlot "value"),
      .lit ")\n"]]

def footerTemplate : List Node :=
  [.lit "__all__ = [\n",
   .each "name" "exports" [.lit "    \"", .put "name", .lit "\",\n"],
   .lit "]"]

def shelf : Template.Shelf :=
  [("module_header.py.j2", headerTemplate),
   ("class.py.j2", classTemplate),
   ("footer.py.j2", footerTemplate)]

end CatchAll.Target.Python
