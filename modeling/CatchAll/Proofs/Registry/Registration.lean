import CatchAll.Proofs.Table
import CatchAll.Registry

/-!
# Registrations

A registration takes its aliases one after the other, up to the first that another
language stands in the way of. The aliases before that one stay although the
registration is refused; a refused registration leaves the registry as it is just
when those aliases led to the language already.
-/

set_option autoImplicit false

namespace CatchAll

open scoped Text
open Target

namespace Table

variable {α : Type}

/-- Putting a value that is there already changes nothing. -/
theorem put_of_get? {table : Table α} {key : Text} {value : α}
    (h : get? key table = some value) : put key value table = table := by
  induction table with
  | nil => cases h
  | cons entry rest ih =>
    obtain ⟨k, v⟩ := entry
    rw [get?_cons] at h
    rw [put]
    split
    · rename_i hk
      rw [if_pos hk] at h
      rw [Option.some.inj h]
    · rename_i hk
      rw [if_neg hk] at h
      rw [ih h]

theorem has_iff {table : Table α} {key : Text} : has key table = true ↔ key ∈ keys table := by
  rw [has, Option.isSome_iff_ne_none, ne_eq, get?_eq_none, not_not]

end Table

namespace Registry

variable {r : Registry} {key : Text}

theorem mem_languages {l : Text} : l ∈ r.languages ↔ l ∈ Table.keys r.backends :=
  (List.mergeSort_perm _ _).mem_iff

/-! ## Aliases -/

/-- What stands in the way of an alias, apart from the wording. -/
theorem conflict?_eq_none (r : Registry) (key byname : Text) :
    r.conflict? key byname = none ↔
      Text.lower byname ∉ Table.keys r.backends ∧
        ∀ target, Table.get? (Text.lower byname) r.aliases = some target → target = key := by
  rw [conflict?, ← Table.has_iff]
  split
  · simp [*]
  · split
    · rename_i target htarget
      by_cases hkey : target = key <;> simp_all
    · simp_all

/-- An alias that nothing stands in the way of, put into the registry. -/
def withAlias (r : Registry) (key byname : Text) : Registry :=
  if Text.lower byname = key then r
  else { r with aliases := r.aliases.put (Text.lower byname) key }

@[simp] theorem withAlias_backends (r : Registry) (key byname : Text) :
    (r.withAlias key byname).backends = r.backends := by
  rw [withAlias]
  split <;> rfl

theorem get?_withAlias (r : Registry) (key byname t : Text) :
    Table.get? t (r.withAlias key byname).aliases =
      if Text.lower byname ≠ key ∧ Text.lower byname = t then some key
      else Table.get? t r.aliases := by
  rw [withAlias]
  split
  · simp [*]
  · rw [Table.get?_put]
    simp [*]

/-- The language itself is no alias and is passed over. -/
def accepts (r : Registry) (key byname : Text) : Bool :=
  Text.lower byname = key || (r.conflict? key byname).isNone

/-- An alias that was accepted stands in no other one's way, and makes no way for one. -/
theorem conflict?_withAlias {byname : Text} (h : r.accepts key byname = true) (other : Text) :
    (r.withAlias key byname).conflict? key other = r.conflict? key other := by
  by_cases hself : Text.lower byname = key
  · rw [withAlias, if_pos hself]
  · have hnone : r.conflict? key byname = none := by simpa [accepts, hself] using h
    by_cases hsame : Text.lower byname = Text.lower other
    · have hother : r.conflict? key other = none := by
        rw [conflict?_eq_none, ← hsame]
        exact (conflict?_eq_none r key byname).mp hnone
      rw [hother, conflict?_eq_none, withAlias_backends, get?_withAlias, if_pos ⟨hself, hsame⟩,
        ← hsame]
      exact ⟨((conflict?_eq_none r key byname).mp hnone).1,
        fun target ht => (Option.some.inj ht).symm⟩
    · have hget : Table.get? (Text.lower other) (r.withAlias key byname).aliases =
          Table.get? (Text.lower other) r.aliases := by
        rw [get?_withAlias]
        exact if_neg fun hboth => hsame hboth.2
      rw [conflict?, conflict?, withAlias_backends, hget]

def withAliases (r : Registry) (key : Text) (bynames : List Text) : Registry :=
  bynames.foldl (fun r byname => r.withAlias key byname) r

@[simp] theorem withAliases_backends (r : Registry) (key : Text) (bynames : List Text) :
    (r.withAliases key bynames).backends = r.backends := by
  induction bynames generalizing r with
  | nil => rfl
  | cons byname bynames ih => exact (ih (r.withAlias key byname)).trans (withAlias_backends _ _ _)

theorem get?_withAliases (r : Registry) (key : Text) (bynames : List Text) (t : Text) :
    Table.get? t (r.withAliases key bynames).aliases =
      if t ≠ key ∧ t ∈ bynames.map Text.lower then some key else Table.get? t r.aliases := by
  induction bynames generalizing r with
  | nil => simp [withAliases]
  | cons byname bynames ih =>
    rw [withAliases, List.foldl_cons, ← withAliases, ih, get?_withAlias]
    by_cases hrest : t ≠ key ∧ t ∈ bynames.map Text.lower
    · rw [if_pos hrest, if_pos ⟨hrest.1, List.mem_cons_of_mem _ hrest.2⟩]
    · rw [if_neg hrest]
      by_cases hhead : Text.lower byname = t
      · subst hhead
        by_cases hself : Text.lower byname = key <;> simp [hself]
      · rw [if_neg fun hboth => hhead hboth.2, if_neg]
        rintro ⟨hne, hmem⟩
        rcases List.mem_cons.mp hmem with rfl | hmem
        · exact hhead rfl
        · exact hrest ⟨hne, hmem⟩

/-- Aliases are added up to the first that is not accepted, whose conflict is reported. -/
theorem addAliases_eq (r : Registry) (key : Text) (bynames : List Text) :
    r.addAliases key false bynames =
      (r.withAliases key (bynames.takeWhile (r.accepts key)),
        (bynames.find? fun byname => !r.accepts key byname).bind (r.conflict? key)) := by
  induction bynames generalizing r with
  | nil => rfl
  | cons byname bynames ih =>
    -- what is accepted does not depend on the aliases that were added before
    have hlater (h : r.accepts key byname = true) :
        (r.withAlias key byname).addAliases key false bynames =
          (r.withAliases key (byname :: bynames.takeWhile (r.accepts key)),
            (bynames.find? fun byname => !r.accepts key byname).bind (r.conflict? key)) := by
      have hconflict : (r.withAlias key byname).conflict? key = r.conflict? key :=
        funext (conflict?_withAlias h)
      have haccepts : (r.withAlias key byname).accepts key = r.accepts key := by
        funext other
        rw [accepts, accepts, hconflict]
      rw [ih, hconflict, haccepts, withAliases, withAliases, List.foldl_cons]
    rw [addAliases]
    split
    · rename_i hself
      have haccepts : r.accepts key byname = true := by simp [accepts, hself]
      rw [List.takeWhile_cons_of_pos haccepts, List.find?_cons_of_neg (by simp [haccepts]),
        ← hlater haccepts, withAlias, if_pos hself]
    · rename_i hself
      split
      · rename_i e hconflict
        replace hconflict : r.conflict? key byname = some e := by simpa using hconflict
        have hrefused : ¬ r.accepts key byname = true := by simp [accepts, hself, hconflict]
        rw [List.takeWhile_cons_of_neg hrefused, List.find?_cons_of_pos (by simpa using hrefused)]
        exact congrArg (Prod.mk r) hconflict.symm
      · rename_i hconflict
        replace hconflict : r.conflict? key byname = none := by simpa using hconflict
        have haccepts : r.accepts key byname = true := by simp [accepts, hconflict]
        rw [List.takeWhile_cons_of_pos haccepts, List.find?_cons_of_neg (by simp [haccepts]),
          ← hlater haccepts, withAlias, if_neg hself]

/-- When a language is replaced no alias is refused. -/
theorem addAliases_replacing (r : Registry) (key : Text) (bynames : List Text) :
    r.addAliases key true bynames = (r.withAliases key bynames, none) := by
  induction bynames generalizing r with
  | nil => rfl
  | cons byname bynames ih =>
    have hlater := ih (r.withAlias key byname)
    rw [withAliases, List.foldl_cons, ← withAliases, ← hlater, addAliases, withAlias]
    split
    · rfl
    · rfl

/-! ## The outcome -/

/-- The aliases that a registration leads to its language before it comes to one that is
refused. -/
def added (r : Registry) (language : Text) (bynames : List Text) : List Text :=
  ((bynames.takeWhile (r.accepts (Text.lower language))).map Text.lower).filter
    (· ≠ Text.lower language)

/-- A refusal is for what is offered or for the first alias that is not accepted; only the
aliases before it have been added. -/
theorem register_refused {language : Text} {offer : Option Backend} {bynames : List Text}
    {replace : Bool} {e : RegistryError}
    (h : (r.register language offer bynames replace).2 = .refused e) :
    (r.register language offer bynames replace).1 =
      if offer.isSome then
        r.withAliases (Text.lower language) (bynames.takeWhile (r.accepts (Text.lower language)))
      else r := by
  cases offer with
  | none => rfl
  | some b =>
    rw [register] at h ⊢
    split at h
    · cases h
    · rename_i hnew
      rw [if_neg hnew]
      cases replace with
      | true =>
        rw [addAliases_replacing] at h
        cases h
      | false =>
        rw [addAliases_eq] at h ⊢
        cases hfirst : (bynames.find? fun byname => !r.accepts (Text.lower language) byname).bind
            (r.conflict? (Text.lower language)) with
        | none =>
          rw [hfirst] at h
          cases h
        | some e' => rfl

theorem withAliases_eq_self_iff (r : Registry) (key : Text) (bynames : List Text) :
    r.withAliases key bynames = r ↔ ∀ byname ∈ bynames, Text.lower byname ≠ key →
      Table.get? (Text.lower byname) r.aliases = some key := by
  constructor
  · intro h byname hmem hne
    rw [← h, get?_withAliases, if_pos ⟨hne, List.mem_map_of_mem hmem⟩]
  · intro h
    induction bynames with
    | nil => rfl
    | cons byname bynames ih =>
      obtain ⟨hfirst, hrest⟩ := List.forall_mem_cons.mp h
      have hsame : r.withAlias key byname = r := by
        rw [withAlias]
        split
        · rfl
        · rw [Table.put_of_get? (hfirst ‹_›)]
      rw [withAliases, List.foldl_cons, hsame]
      exact ih hrest

/-- A refused registration keeps the languages. The aliases that it came to before the
refusal lead to the refused language from then on and all others where they led; so nothing
has changed just when these aliases led there already. -/
theorem refused_registration_unchanged_iff (r : Registry) (language : Text)
    (offer : Option Backend) (bynames : List Text) (replace : Bool) {e : RegistryError}
    (h : (r.register language offer bynames replace).2 = .refused e) :
    (r.register language offer bynames replace).1.backends = r.backends ∧
      ((r.register language offer bynames replace).1 = r ↔
        offer = none ∨ ∀ byname ∈ r.added language bynames,
          Table.get? byname r.aliases = some (Text.lower language)) ∧
      ∀ name, (r.register language offer bynames replace).1.resolve name =
        if offer.isSome ∧ Text.lower name ∈ r.added language bynames then Text.lower language
        else r.resolve name := by
  rw [register_refused h]
  cases offer with
  | none => simp
  | some b =>
    refine ⟨withAliases_backends _ _ _, ?_, fun name => ?_⟩
    · simp [withAliases_eq_self_iff, added]
    · simp only [Option.isSome_some, if_true, true_and]
      have hadded : Text.lower name ∈ r.added language bynames ↔
          Text.lower name ≠ Text.lower language ∧ Text.lower name ∈
            (bynames.takeWhile (r.accepts (Text.lower language))).map Text.lower := by
        rw [added, List.mem_filter, decide_eq_true_iff, and_comm]
      rw [resolve, resolve, get?_withAliases]
      split
      · rw [if_pos (hadded.mpr ‹_›)]
        rfl
      · rw [if_neg fun hmem => ‹¬ _› (hadded.mp hmem)]

/-- Asked for once more, the registration is refused again and finds its alias in place. -/
theorem repeated_refusal_unchanged :
    let once := ((empty.register "a" (some Rust.backend) ["x"] false).1.register "b"
      (some Python.backend) ["y", "x"] false).1
    (once.register "b" (some Python.backend) ["y", "x"] false).2 =
        .refused (.aliasTaken "x" "a") ∧
      (once.register "b" (some Python.backend) ["y", "x"] false).1 = once := by
  intro once
  have hrefused : (once.register "b" (some Python.backend) ["y", "x"] false).2 =
      .refused (.aliasTaken "x" "a") := rfl
  refine ⟨hrefused, (refused_registration_unchanged_iff once "b" (some Python.backend) ["y", "x"]
    false hrefused).2.1.mpr (Or.inr ?_)⟩
  decide

/-- The alias before the one that is refused leads to a language which is not there. -/
theorem refused_alias_stays :
    let before := (empty.register "a" (some Rust.backend) ["x"] false).1
    let after := before.register "b" (some Python.backend) ["y", "x"] false
    after.2 = .refused (.aliasTaken "x" "a") ∧ before.resolve "y" = "y".toList ∧
      after.1.resolve "y" = "b".toList ∧ after.1.isSupported "b" = false :=
  ⟨rfl, by decide, by decide, by decide⟩

end Registry

end CatchAll
