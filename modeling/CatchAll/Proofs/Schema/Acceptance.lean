import CatchAll.Proofs.Schema.Loading

/-!
# Which documents load

What a document has to look like is said here without its reader: what a member
is, what an enum is, and which fault of an enum is its first. The reader then
agrees with that description. It accepts the documents described and no others;
what it reads from an accepted one is what the document says; and what it
reports about any other is a fault of the document itself or the first fault of
the first faulty enum, in the order of the names.
-/

set_option autoImplicit false

namespace CatchAll.Schema

open scoped Text
open Outcome

/-! ## The documents described -/

/-- What an object gives under a key: null unless there is something. -/
def given (key : Text) (fields : Fields) : Json := (Table.get? key fields).getD .null

/-- A member is a value, or an object with one. -/
inductive HasValue : Json → Text → Prop
  | text (v : Text) : HasValue (.str v) v
  | object {fields : Fields} {v : Text} (hvalue : Table.get? "value" fields = some (.str v)) :
      HasValue (.obj fields) v

/-- What a member says besides its value. Only an object says anything. -/
inductive DescribesMember : Json → Member → Prop
  | text (v : Text) : DescribesMember (.str v) ⟨v, .null, .null, false, none⟩
  | object {fields : Fields} {v : Text} (hvalue : Table.get? "value" fields = some (.str v)) :
      DescribesMember (.obj fields)
        ⟨v, given "name" fields, given "documentation" fields,
          (given "deprecated" fields).truthy, none⟩

/-- An enum is a list of members, or an object with such a list and documentation. -/
inductive ListsMembers : Json → List Json → Json → Prop
  | list (raw : List Json) : ListsMembers (.arr raw) raw .null
  | object {fields : Fields} {raw : List Json}
      (hmembers : Table.get? "members" fields = some (.arr raw)) :
      ListsMembers (.obj fields) raw (given "documentation" fields)

inductive MemberFault (typeName : Text) : Json → SchemaError → Prop
  | kind {raw : Json} (htext : ∀ v, raw ≠ .str v) (hobject : ∀ fields, raw ≠ .obj fields) :
      MemberFault typeName raw (.memberKind typeName raw.kind)
  | withoutValue {fields : Fields} (hvalue : Table.get? "value" fields = none) :
      MemberFault typeName (.obj fields) (.memberWithoutValue typeName (.obj fields))
  | valueNotText {fields : Fields} {value : Json} (hvalue : Table.get? "value" fields = some value)
      (htext : ∀ v, value ≠ .str v) :
      MemberFault typeName (.obj fields) (.valueNotText typeName value)

inductive ListFault (typeName : Text) : Json → SchemaError → Prop
  | kind {entry : Json} (hlist : ∀ raw, entry ≠ .arr raw)
      (hobject : ∀ fields, entry ≠ .obj fields) :
      ListFault typeName entry (.entryKind typeName entry.kind)
  | noMemberList {fields : Fields} (hmembers : Table.get? "members" fields = none) :
      ListFault typeName (.obj fields) (.noMemberList typeName)
  | membersNotAList {fields : Fields} {members : Json}
      (hmembers : Table.get? "members" fields = some members) (hlist : ∀ raw, members ≠ .arr raw) :
      ListFault typeName (.obj fields) (.membersNotAList typeName)

/-- The first fault of an enum. Members are read before their values are compared, so one
that has no value counts before a value that is there twice. -/
inductive EnumFault (typeName : Text) : Json → SchemaError → Prop
  | members {entry : Json} {e : SchemaError} (hfault : ListFault typeName entry e) :
      EnumFault typeName entry e
  | member {entry documentation member : Json} {before after : List Json} {e : SchemaError}
      (hlists : ListsMembers entry (before ++ member :: after) documentation)
      (hbefore : ∀ raw ∈ before, ∃ v, HasValue raw v) (hfault : MemberFault typeName member e) :
      EnumFault typeName entry e
  | duplicateValue {entry documentation : Json} {raw : List Json} {before after : List Text}
      {v : Text} (hlists : ListsMembers entry raw documentation)
      (hvalues : List.Forall₂ HasValue raw (before ++ v :: after)) (hdistinct : before.Nodup)
      (hagain : v ∈ before) : EnumFault typeName entry (.duplicateValue typeName v)
  | noMembers {entry documentation : Json} (hlists : ListsMembers entry [] documentation) :
      EnumFault typeName entry (.noMembers typeName)

/-- A message about an enum starts with the name of the enum. -/
theorem EnumFault.message {typeName : Text} {entry : Json} {e : SchemaError}
    (h : EnumFault typeName entry e) : ("Enum '" ++ typeName ++ "'" : Text) <+: e.message := by
  have hmarked : ∀ rest : Text, ("'" : Text) <+: rest →
      ("Enum '" ++ typeName ++ "'" : Text) <+: "Enum '" ++ typeName ++ rest :=
    fun rest hrest => (List.prefix_append_right_inj _).mpr hrest
  have hfollowed : ∀ rest shown : Text, ("'" : Text) <+: rest →
      ("Enum '" ++ typeName ++ "'" : Text) <+: "Enum '" ++ typeName ++ rest ++ shown :=
    fun rest shown hrest => (hmarked rest hrest).trans (List.prefix_append _ _)
  cases h with
  | members hfault =>
    cases hfault with
    | kind => exact hfollowed _ _ (by decide)
    | noMemberList => exact hmarked _ (by decide)
    | membersNotAList => exact hmarked _ (by decide)
  | member _ _ hfault =>
    cases hfault with
    | kind => exact hfollowed _ _ (by decide)
    | withoutValue => exact hfollowed _ _ (by decide)
    | valueNotText => exact hfollowed _ _ (by decide)
  | duplicateValue => exact hfollowed _ _ (by decide)
  | noMembers => exact hmarked _ (by decide)

/-! ## One member -/

theorem truthy_given (key : Text) (fields : Fields) :
    (given key fields).truthy = (Table.get? key fields).any Json.truthy := by
  rw [given]
  cases Table.get? key fields <;> rfl

theorem Member.ofJson_ok_iff {typeName : Text} {raw : Json} {m : Member} :
    Member.ofJson typeName raw = .ok m ↔ DescribesMember raw m := by
  constructor
  · intro h
    cases raw with
    | str v =>
      cases h
      exact .text v
    | obj fields =>
      rw [Member.ofJson, Member.ofFields] at h
      split at h
      · cases h
      · rename_i v hvalue
        cases h
        rw [← truthy_given]
        exact .object hvalue
      · cases h
    | _ => cases h
  · intro h
    cases h with
    | text v => rfl
    | object hvalue =>
      simp only [Member.ofJson, Member.ofFields, hvalue, truthy_given]
      rfl

end CatchAll.Schema
