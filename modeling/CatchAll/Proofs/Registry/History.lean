import CatchAll.Proofs.Registry.Registration
import CatchAll.Proofs.Text.SmallLetters
import Mathlib.Data.List.Induction
import Mathlib.Data.List.TakeWhile

/-!
# Histories of a registry

A language that has come in keeps its backend until it is unregistered, and no
alias takes its name. But a language may come in under a name that is an alias
already, and then the alias goes first. So a language is reached under its own
name just when that name was no alias before, or when the language which the alias
led to has been unregistered since.
-/

set_option autoImplicit false

namespace CatchAll

open scoped Text
open Target

namespace Table

variable {α : Type}

theorem get?_filter_value {table : Table α} (h : (keys table).Nodup) (keep : α → Bool)
    (key : Text) :
    get? key (table.filter fun entry => keep entry.2) = (get? key table).filter keep := by
  have hfiltered : (keys (table.filter fun entry => keep entry.2)).Nodup :=
    h.sublist (List.filter_sublist.map _)
  ext value
  rw [get?_eq_some hfiltered, List.mem_filter, Option.filter_eq_some_iff, get?_eq_some h]

end Table

namespace Registry

/-- What a registry can be asked to change, when no language is to be replaced. -/
inductive Change where
  | register (language : Text) (offer : Option Backend) (bynames : List Text)
  | unregister (name : Text)

def apply (r : Registry) : Change → Registry
  | .register language offer bynames => (r.register language offer bynames false).1
  | .unregister name => r.unregister name

/-- The registry after a history that began with the empty one. -/
def after (changes : List Change) : Registry := changes.foldl apply empty

theorem after_concat (changes : List Change) (c : Change) :
    after (changes ++ [c]) = (after changes).apply c := by
  rw [after, List.foldl_append, ← after, List.foldl_cons, List.foldl_nil]

variable {r : Registry} {l : Text}

/-! ## What a change does -/

/-- A registration adds aliases that are accepted, and the language too when all are. -/
theorem register_cases (r : Registry) (language : Text) (offer : Option Backend)
    (bynames : List Text) :
    ∃ done, (∀ byname ∈ done, r.accepts (Text.lower language) byname = true) ∧
      ((r.register language offer bynames false).1 = r.withAliases (Text.lower language) done ∨
        ∃ b, offer = some b ∧ Text.lower language ∉ r.languages ∧
          (r.register language offer bynames false).1 =
            { r.withAliases (Text.lower language) done with
              backends := r.backends.put (Text.lower language) b }) := by
  have hdone : ∀ byname ∈ bynames.takeWhile (r.accepts (Text.lower language)),
      r.accepts (Text.lower language) byname = true := fun _ => List.mem_takeWhile_imp
  cases offer with
  | none => exact ⟨[], by simp, Or.inl rfl⟩
  | some b =>
    rw [register]
    split
    · exact ⟨[], by simp, Or.inl rfl⟩
    · rename_i hnew
      rw [addAliases_eq]
      cases (bynames.find? fun byname => !r.accepts (Text.lower language) byname).bind
          (r.conflict? (Text.lower language)) with
      | some e => exact ⟨_, hdone, Or.inl rfl⟩
      | none =>
        refine ⟨_, hdone, Or.inr ⟨b, rfl, ?_, ?_⟩⟩
        · simpa [mem_languages, Table.has_iff] using hnew
        · dsimp only
          rw [withAliases_backends]

/-- No alias that is accepted takes the name of a language, or of the one it leads to. -/
theorem resolve_withAliases {key : Text} {done : List Text}
    (hdone : ∀ byname ∈ done, r.accepts key byname = true) (hl : l ∈ r.languages ∨ l = key)
    (hsmall : Text.lower l = l) : (r.withAliases key done).resolve l = r.resolve l := by
  rw [resolve, resolve, get?_withAliases, hsmall, if_neg]
  rintro ⟨hne, hmem⟩
  obtain ⟨byname, hbyname, rfl⟩ := List.mem_map.mp hmem
  have hnone : r.conflict? key byname = none := by
    simpa [accepts, hne] using hdone byname hbyname
  exact ((conflict?_eq_none r key byname).mp hnone).1 (mem_languages.mp (hl.resolve_right hne))

/-- Languages are in small letters, and no alias is there twice. -/
structure Sound (r : Registry) : Prop where
  small : ∀ key ∈ r.languages, Text.lower key = key
  distinct : (Table.keys r.aliases).Nodup

theorem withAliases_distinct (h : (Table.keys r.aliases).Nodup) (key : Text) (done : List Text) :
    (Table.keys (r.withAliases key done).aliases).Nodup := by
  induction done generalizing r with
  | nil => exact h
  | cons byname done ih =>
    refine ih (r := r.withAlias key byname) ?_
    rw [withAlias]
    split
    · exact h
    · exact Table.nodup_keys_put h _ _

theorem Sound.apply (h : r.Sound) (c : Change) : (r.apply c).Sound := by
  cases c with
  | register language offer bynames =>
    obtain ⟨done, -, hafter | ⟨b, -, -, hafter⟩⟩ := register_cases r language offer bynames
    · rw [Registry.apply, hafter]
      refine ⟨fun key hkey => h.small key ?_, withAliases_distinct h.distinct _ _⟩
      rwa [mem_languages, withAliases_backends, ← mem_languages] at hkey
    · rw [Registry.apply, hafter]
      refine ⟨fun key hkey => ?_, withAliases_distinct h.distinct _ _⟩
      rw [mem_languages, Table.keys_put] at hkey
      split at hkey
      · exact h.small key (mem_languages.mpr hkey)
      · rcases List.mem_append.mp hkey with hkey | hkey
        · exact h.small key (mem_languages.mpr hkey)
        · rw [List.mem_singleton.mp hkey, Text.lower_lower]
  | unregister name =>
    refine ⟨fun key hkey => h.small key ?_, h.distinct.sublist (List.filter_sublist.map _)⟩
    rw [mem_languages] at hkey ⊢
    exact (List.filter_sublist.map _).subset hkey

theorem sound_after (changes : List Change) : (after changes).Sound := by
  induction changes using List.reverseRecOn with
  | nil => exact ⟨fun key hkey => absurd (mem_languages.mp hkey) List.not_mem_nil, List.nodup_nil⟩
  | append_singleton changes c ih =>
    rw [after_concat]
    exact ih.apply c

/-! ## One language -/

/-- The change takes away the language that `l` leads to, and with it the alias `l`. -/
def Change.Frees (r : Registry) (l : Text) : Change → Prop
  | unregister name => r.resolve name = r.resolve l
  | register _ _ _ => False

/-- A language that was not there comes in by a registration of its own, and its name leads
where it led before. -/
theorem apply_new {c : Change} (hl : l ∉ r.languages)
    (hl' : l ∈ (r.apply c).languages) :
    ∃ language b bynames, c = .register language (some b) bynames ∧ Text.lower language = l ∧
      Table.get? l (r.apply c).backends = some b ∧ (r.apply c).resolve l = r.resolve l := by
  rw [mem_languages] at hl hl'
  cases c with
  | unregister name => exact absurd ((List.filter_sublist.map _).subset hl') hl
  | register language offer bynames =>
    obtain ⟨done, hdone, hafter | ⟨b, rfl, -, hafter⟩⟩ := register_cases r language offer bynames
    · rw [Registry.apply, hafter, withAliases_backends] at hl'
      exact absurd hl' hl
    · rw [Registry.apply, hafter] at hl' ⊢
      have hlanguage : Text.lower language = l := by
        rw [Table.keys_put] at hl'
        split at hl'
        · exact absurd hl' hl
        · exact (List.mem_singleton.mp ((List.mem_append.mp hl').resolve_left hl)).symm
      subst hlanguage
      refine ⟨language, b, bynames, rfl, rfl, ?_, ?_⟩
      · rw [Table.get?_put, if_pos rfl]
      · exact resolve_withAliases hdone (Or.inr rfl) (Text.lower_lower language)

theorem resolve_unregister (hr : r.Sound) (hsmall : Text.lower l = l) (name : Text) :
    (r.unregister name).resolve l = if r.resolve name = r.resolve l then l else r.resolve l := by
  have hafter : (r.unregister name).resolve l =
      ((Table.get? l r.aliases).filter fun t => t ≠ r.resolve name).getD l := by
    rw [resolve, hsmall]
    exact congrArg (Option.getD · l)
      (Table.get?_filter_value hr.distinct (fun t => t ≠ r.resolve name) l)
  have hbefore : r.resolve l = (Table.get? l r.aliases).getD l := by rw [resolve, hsmall]
  rw [hafter, hbefore]
  cases Table.get? l r.aliases with
  | none => simp
  | some t =>
    rw [Option.getD_some]
    split
    · rename_i hsame
      simp [Option.filter, hsame]
    · rename_i hother
      simp [Option.filter, Ne.symm hother]

/-- A language that stays keeps its backend. Its name leads where it led, until the
language it leads to is taken away. -/
theorem apply_kept (hr : r.Sound) {c : Change} (hl : l ∈ r.languages)
    (hl' : l ∈ (r.apply c).languages) :
    Table.get? l (r.apply c).backends = Table.get? l r.backends ∧
      (c.Frees r l → (r.apply c).resolve l = l) ∧
      (¬ c.Frees r l → (r.apply c).resolve l = r.resolve l) := by
  have hsmall := hr.small l hl
  cases c with
  | unregister name =>
    have hne : r.resolve name ≠ l := by
      rintro rfl
      rw [mem_languages] at hl'
      obtain ⟨entry, hentry, hkey⟩ := List.mem_map.mp hl'
      have hkept := (List.mem_filter.mp hentry).2
      simp [hkey] at hkept
    refine ⟨?_, fun hfrees => ?_, fun hstays => ?_⟩
    · show Table.get? l (r.backends.erase _) = _
      rw [Table.get?_erase, if_neg hne]
    · rw [Registry.apply, resolve_unregister hr hsmall]
      exact if_pos hfrees
    · rw [Registry.apply, resolve_unregister hr hsmall]
      exact if_neg hstays
  | register language offer bynames =>
    refine ⟨?_, False.elim, fun _ => ?_⟩
    · obtain ⟨done, -, hafter | ⟨b, -, hnew, hafter⟩⟩ := register_cases r language offer bynames
      · rw [Registry.apply, hafter, withAliases_backends]
      · rw [Registry.apply, hafter, Table.get?_put, if_neg]
        rintro rfl
        exact hnew hl
    · obtain ⟨done, hdone, hafter | ⟨b, -, -, hafter⟩⟩ := register_cases r language offer bynames
      · rw [Registry.apply, hafter]
        exact resolve_withAliases hdone (Or.inl hl) hsmall
      · rw [Registry.apply, hafter]
        exact resolve_withAliases hdone (Or.inl hl) hsmall

/-! ## Histories -/

/-- `call` is the registration by which the language `l` came in to stay. -/
structure Adds (l : Text) (b : Backend) (before : List Change) (call : Change)
    (later : List Change) : Prop where
  offer : ∃ language bynames, call = .register language (some b) bynames ∧ Text.lower language = l
  new : l ∉ (after before).languages
  stays : ∀ part, part <+: later → l ∈ (after (before ++ call :: part)).languages

/-- What `owner` stands for is unregistered in the course of `later`. -/
def Unregisters (owner : Text) (before later : List Change) : Prop :=
  ∃ part name rest, later = part ++ .unregister name :: rest ∧
    (after (before ++ part)).resolve name = owner

theorem Adds.concat {b : Backend} {before later : List Change} {call c : Change}
    (h : Adds l b before call later)
    (hl : l ∈ (after (before ++ call :: (later ++ [c]))).languages) :
    Adds l b before call (later ++ [c]) where
  offer := h.offer
  new := h.new
  stays := by
    intro part hpart
    rcases List.prefix_concat_iff.mp hpart with rfl | hpart
    · exact hl
    · exact h.stays part hpart

theorem unregisters_concat {owner : Text} {before later : List Change} {c : Change} :
    Unregisters owner before (later ++ [c]) ↔
      Unregisters owner before later ∨
        ∃ name, c = .unregister name ∧ (after (before ++ later)).resolve name = owner := by
  constructor
  · rintro ⟨part, name, rest, hsplit, howner⟩
    rcases List.eq_nil_or_concat' rest with rfl | ⟨rest, last, rfl⟩
    · obtain ⟨rfl, hc⟩ := List.append_inj' hsplit rfl
      exact Or.inr ⟨name, (List.cons.inj hc).1, howner⟩
    · rw [← List.cons_append, ← List.append_assoc] at hsplit
      obtain ⟨rfl, -⟩ := List.append_inj' hsplit rfl
      exact Or.inl ⟨part, name, rest, rfl, howner⟩
  · rintro (⟨part, name, rest, rfl, howner⟩ | ⟨name, rfl, howner⟩)
    · exact ⟨part, name, rest ++ [c], by simp, howner⟩
    · exact ⟨later, name, [], rfl, howner⟩

/-- By induction on the history, from its end: a language keeps the backend that it came in
with, and its name leads where it led then until that language is unregistered. -/
theorem language_history (changes : List Change) (h : l ∈ (after changes).languages) :
    ∃ before call later b, changes = before ++ call :: later ∧ Adds l b before call later ∧
      Table.get? l (after changes).backends = some b ∧
      (Unregisters ((after before).resolve l) (before ++ [call]) later →
        (after changes).resolve l = l) ∧
      (¬ Unregisters ((after before).resolve l) (before ++ [call]) later →
        (after changes).resolve l = (after before).resolve l) := by
  induction changes using List.reverseRecOn with
  | nil => exact absurd (mem_languages.mp h) List.not_mem_nil
  | append_singleton changes c ih =>
    have hsound := sound_after changes
    have hafter := after_concat changes c
    by_cases hold : l ∈ (after changes).languages
    · obtain ⟨before, call, later, b, rfl, hadds, hbackend, hfreed, hkept⟩ := ih hold
      obtain ⟨hsame, hfrees, hleads⟩ := apply_kept hsound hold (hafter ▸ h)
      have hassoc : before ++ call :: later ++ [c] = before ++ call :: (later ++ [c]) := by simp
      have hpart : before ++ [call] ++ later = before ++ call :: later := by simp
      refine ⟨before, call, later ++ [c], b, hassoc, hadds.concat (hassoc ▸ h), ?_, ?_, ?_⟩
      · rw [hafter, hsame, hbackend]
      · rw [unregisters_concat, hafter]
        intro hunregisters
        by_cases hbefore : Unregisters ((after before).resolve l) (before ++ [call]) later
        · by_cases hc : c.Frees (after (before ++ call :: later)) l
          · exact hfrees hc
          · rw [hleads hc, hfreed hbefore]
        · obtain ⟨name, rfl, howner⟩ := hunregisters.resolve_left hbefore
          rw [hpart] at howner
          exact hfrees (howner.trans (hkept hbefore).symm)
      · rw [unregisters_concat, hafter, not_or]
        rintro ⟨hbefore, hnone⟩
        rw [← hkept hbefore]
        refine hleads fun hc => hnone ?_
        cases c with
        | register language offer bynames => exact absurd hc id
        | unregister name => exact ⟨name, rfl, hpart ▸ hc.trans (hkept hbefore)⟩
    · obtain ⟨language, b, bynames, rfl, hlanguage, hbackend, hresolve⟩ :=
        apply_new hold (hafter ▸ h)
      refine ⟨changes, .register language (some b) bynames, [], b, rfl,
        ⟨⟨language, bynames, rfl, hlanguage⟩, hold, fun part hpart => ?_⟩, ?_, ?_, ?_⟩
      · rw [List.prefix_nil.mp hpart]
        exact h
      · rw [hafter, hbackend]
      · rintro ⟨part, name, rest, hsplit, -⟩
        simp at hsplit
      · intro _
        rw [hafter, hresolve]

/-- A language is reached under its own name, with the backend it came in with, just when
its name led to itself before it came in or when the language it led to has been
unregistered since. -/
theorem language_reached_iff (changes : List Change) {l : Text}
    (h : l ∈ (after changes).languages) :
    ∃ before call later b, changes = before ++ call :: later ∧ Adds l b before call later ∧
      ((after changes).resolve l = l ∧ (after changes).backend l = .ok b ↔
        (after before).resolve l = l ∨
          Unregisters ((after before).resolve l) (before ++ [call]) later) := by
  obtain ⟨before, call, later, b, hsplit, hadds, hbackend, hfreed, hkept⟩ :=
    language_history changes h
  refine ⟨before, call, later, b, hsplit, hadds, ?_, fun hcases => ?_⟩
  · rintro ⟨hresolve, -⟩
    by_cases hunregisters : Unregisters ((after before).resolve l) (before ++ [call]) later
    · exact Or.inr hunregisters
    · exact Or.inl ((hkept hunregisters).symm.trans hresolve)
  · have hresolve : (after changes).resolve l = l := by
      by_cases hunregisters : Unregisters ((after before).resolve l) (before ++ [call]) later
      · exact hfreed hunregisters
      · exact (hkept hunregisters).trans (hcases.resolve_right hunregisters)
    refine ⟨hresolve, ?_⟩
    rw [backend, backend?, hresolve, hbackend]

/-- A name that was an alias comes in as a language and is reached once the other language
is gone. -/
theorem freed_language_reached :
    let changes : List Change :=
      [.register "rust" (some Rust.backend) ["py"], .register "Py" (some Python.backend) ["rust"],
        .register "PY" (some Python.backend) ["p"], .unregister "RUST"]
    "py".toList ∈ (after changes).languages ∧
      ∃ before call later b, changes = before ++ call :: later ∧
        Adds "py" b before call later ∧
        ((after changes).resolve "py" = "py".toList ∧ (after changes).backend "py" = .ok b ↔
          (after before).resolve "py" = "py".toList ∨
            Unregisters ((after before).resolve "py") (before ++ [call]) later) := by
  intro changes
  have hmem : "py".toList ∈ (after changes).languages := mem_languages.mpr (by decide)
  exact ⟨hmem, language_reached_iff changes hmem⟩

/-- The alias of one language hides another that comes in under its name. -/
theorem hidden_language :
    let changes : List Change :=
      [.register "rust" (some Rust.backend) ["py"], .register "py" (some Python.backend) []]
    "py".toList ∈ (after changes).languages ∧ (after changes).resolve "py" = "rust".toList ∧
      (after changes).backend "py" = .ok Rust.backend :=
  ⟨mem_languages.mpr (by decide), by decide, rfl⟩

end Registry

end CatchAll
