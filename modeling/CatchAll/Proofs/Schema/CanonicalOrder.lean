import CatchAll.Schema.Member
import Mathlib.Data.List.Nodup

/-!
# Canonical order

Texts are ordered by code point, and the order is total. Members with distinct
values therefore stand in one canonical order, whatever order they came in.
-/

set_option autoImplicit false

namespace CatchAll

theorem Text.le_iff {a b : Text} : Text.le a b = true ↔ List.le a b := decide_eq_true_iff

theorem Text.le_transitive (a b c : Text) (hab : Text.le a b = true) (hbc : Text.le b c = true) :
    Text.le a c = true := by
  rw [Text.le_iff] at *
  exact List.le_trans hab hbc

theorem Text.le_linear (a b : Text) : (Text.le a b || Text.le b a) = true := by
  rw [Bool.or_eq_true, Text.le_iff, Text.le_iff]
  exact List.le_total a b

theorem Text.le_antisymmetric {a b : Text} (hab : Text.le a b = true) (hba : Text.le b a = true) :
    a = b := by
  rw [Text.le_iff] at *
  exact List.le_antisymm hab hba

namespace Schema

theorem sortMembers_perm (members : List Member) : (sortMembers members).Perm members :=
  List.mergeSort_perm members valueLe

theorem sortMembers_pairwise (members : List Member) :
    (sortMembers members).Pairwise fun a b => valueLe a b = true :=
  List.pairwise_mergeSort (fun a b c => Text.le_transitive a.value b.value c.value)
    (fun a b => Text.le_linear a.value b.value) members

theorem sortMembers_of_pairwise {members : List Member}
    (h : members.Pairwise fun a b => valueLe a b = true) : sortMembers members = members :=
  List.mergeSort_of_pairwise h

@[simp] theorem sortMembers_sortMembers (members : List Member) :
    sortMembers (sortMembers members) = sortMembers members :=
  sortMembers_of_pairwise (sortMembers_pairwise members)

theorem sortMembers_ascending {members : List Member}
    (hdistinct : (members.map (·.value)).Nodup) :
    ((sortMembers members).map (·.value)).Pairwise List.lt := by
  have hsorted : ((sortMembers members).map (·.value)).Pairwise fun a b => Text.le a b = true :=
    List.pairwise_map.mpr (sortMembers_pairwise members)
  refine hsorted.imp₂ (fun a b hle hne => ?_)
    (((sortMembers_perm members).map _).nodup_iff.mpr hdistinct)
  by_contra hnot
  exact hne (Text.le_antisymmetric hle (Text.le_iff.mpr hnot))

/-- Distinct values leave one order only. -/
theorem sortMembers_eq_of_perm {a b : List Member} (hperm : a.Perm b)
    (hdistinct : (a.map (·.value)).Nodup) : sortMembers a = sortMembers b := by
  have hsame : (sortMembers a).Perm (sortMembers b) :=
    (sortMembers_perm a).trans (hperm.trans (sortMembers_perm b).symm)
  refine hsame.eq_of_pairwise ?_ (sortMembers_pairwise a) (sortMembers_pairwise b)
  intro x y hx hy hxy hyx
  have hx' := (sortMembers_perm a).mem_iff.mp hx
  have hy' := hperm.mem_iff.mpr ((sortMembers_perm b).mem_iff.mp hy)
  exact List.inj_on_of_nodup_map hdistinct hx' hy' (Text.le_antisymmetric hxy hyx)

end Schema

end CatchAll
