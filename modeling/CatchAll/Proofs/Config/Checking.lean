import CatchAll.Config.Basic
import Mathlib.Tactic.ByContra

/-!
# What the check of a configuration finds

The naming cases come first, that of types before that of variants, and then the
indentation. A value is reported when it can be looked at and is wrong; a value that
cannot be looked at makes the check fail in another way.
-/

set_option autoImplicit false

namespace CatchAll.Config

open scoped Text

def IsCase (v : Json) : Prop := ∃ case : Naming.Case, v = .str case.label

def IsCollection (v : Json) : Prop := (∃ items, v = .arr items) ∨ ∃ fields, v = .obj fields

/-- What can be compared with one. -/
def IsNumber (v : Json) : Prop := (∃ i, v = .int i) ∨ (∃ b, v = .bool b) ∨ ∃ f, v = .num f

/-- A fraction that is not a number is not below one either. -/
inductive AtLeastOne : Json → Prop
  | int {i : Int} (h : 1 ≤ i) : AtLeastOne (.int i)
  | true : AtLeastOne (.bool true)
  | num {f : Float} (h : ¬ f < 1) : AtLeastOne (.num f)

/-- A configuration that the check has nothing against. -/
structure Valid (c : Config) : Prop where
  typeCase : IsCase c.typeCase
  variantCase : IsCase c.variantCase
  indent : AtLeastOne c.indentSize

/-- Settings that the check reports; the first one counts. -/
inductive CheckFault (value : Text → Json) : ConfigError → Prop
  | typeCase (hcase : ¬ IsCase (value "type_case"))
      (hkind : ¬ IsCollection (value "type_case")) :
      CheckFault value (.unknownCase "type_case" (value "type_case"))
  | variantCase (htype : IsCase (value "type_case")) (hcase : ¬ IsCase (value "variant_case"))
      (hkind : ¬ IsCollection (value "variant_case")) :
      CheckFault value (.unknownCase "variant_case" (value "variant_case"))
  | indent (htype : IsCase (value "type_case")) (hvariant : IsCase (value "variant_case"))
      (hnumber : IsNumber (value "indent_size")) (hsmall : ¬ AtLeastOne (value "indent_size")) :
      CheckFault value (.indentTooSmall (value "indent_size"))

/-- Settings that the check cannot look at. -/
inductive CheckEscape (value : Text → Json) : Outside → Prop
  | typeCase (hkind : IsCollection (value "type_case")) : CheckEscape value .wrongKind
  | variantCase (htype : IsCase (value "type_case"))
      (hkind : IsCollection (value "variant_case")) : CheckEscape value .wrongKind
  | indent (htype : IsCase (value "type_case")) (hvariant : IsCase (value "variant_case"))
      (hnumber : ¬ IsNumber (value "indent_size")) : CheckEscape value .wrongKind

section

variable {setting : Text} {v : Json}

end

section

variable {c : Config} {value : Text → Json}

end

end CatchAll.Config
