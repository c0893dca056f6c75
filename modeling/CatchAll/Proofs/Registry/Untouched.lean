import CatchAll.Proofs.Registry.History

/-!
# What a change of a registry leaves alone

A registration never takes a name away from those who use it: an alias that is
accepted led to the same language before, or its name led to nothing. Taking a
language away takes its aliases with it, and nothing else. Neither depends on how the
registry came about, so languages may be hidden behind aliases, and aliases may lead
to languages that are not there.
-/

set_option autoImplicit false

namespace CatchAll

open scoped Text
open Target

namespace Table

variable {α : Type}

/-- The entry that counts for a key stays the one that counts. -/
theorem get?_filter_of_kept (keep : α → Bool) {table : Table α} {key : Text}
    (h : ∀ value, get? key table = some value → keep value = true) :
    get? key (table.filter fun entry => keep entry.2) = get? key table := by
  induction table with
  | nil => rfl
  | cons entry rest ih =>
    obtain ⟨k, value⟩ := entry
    simp only [get?_cons] at h ⊢
    by_cases hk : k = key
    · have hkeep : keep value = true := h value (if_pos hk)
      rw [if_pos hk, List.filter_cons, if_pos hkeep, get?_cons, if_pos hk]
    · have hrest : get? key (rest.filter fun entry => keep entry.2) = get? key rest := by
        apply ih
        intro found hfound
        exact h found (by rw [if_neg hk, hfound])
      rw [if_neg hk, List.filter_cons]
      split
      · rw [get?_cons, if_neg hk, hrest]
      · exact hrest

end Table

namespace Registry

variable {r : Registry} {key name : Text}

/-! ## Names in use -/

theorem isSupported_iff : r.isSupported name = true ↔ r.resolve name ∈ r.languages := by
  rw [isSupported, backend?, mem_languages, ← Table.has_iff, Table.has]

theorem backend_eq_ok {b : Backend} : r.backend name = .ok b ↔ r.backend? name = some b := by
  rw [backend]
  cases r.backend? name <;> simp

theorem backend_of_not_supported (h : r.isSupported name = false) :
    r.backend name = .error (.unknownLanguage name r.languages) := by
  rw [isSupported, Option.isSome_eq_false_iff, Option.isNone_iff_eq_none] at h
  rw [backend, h]

/-! ## Registrations -/

/-- An alias that is accepted is new or leads to its language already. A name in use is not
new, as no alias may have the name of a language. -/
theorem resolve_withAliases_of_supported {done : List Text}
    (hdone : ∀ byname ∈ done, r.accepts key byname = true) (h : r.isSupported name = true) :
    (r.withAliases key done).resolve name = r.resolve name := by
  rw [resolve, resolve, get?_withAliases]
  split
  · rename_i hadded
    obtain ⟨hne, hmem⟩ := hadded
    obtain ⟨byname, hbyname, hlower⟩ := List.mem_map.mp hmem
    have hnone : r.conflict? key byname = none := by
      simpa [accepts, hlower, hne] using hdone byname hbyname
    obtain ⟨hnew, hsame⟩ := (conflict?_eq_none r key byname).mp hnone
    rw [hlower] at hnew hsame
    cases htarget : Table.get? (Text.lower name) r.aliases with
    | some target => rw [hsame target htarget]
    | none =>
      have hitself : r.resolve name = Text.lower name := by rw [resolve, htarget, Option.getD_none]
      rw [isSupported_iff, hitself, mem_languages] at h
      exact absurd h hnew
  · rfl

theorem register_keeps_supported (language : Text) (offer : Option Backend)
    (bynames : List Text) (h : r.isSupported name = true) :
    (r.register language offer bynames false).1.resolve name = r.resolve name ∧
      (r.register language offer bynames false).1.backend? name = r.backend? name := by
  obtain ⟨done, hdone, hafter | ⟨b, -, hnew, hafter⟩⟩ := register_cases r language offer bynames
  · have hresolve := resolve_withAliases_of_supported hdone h
    rw [hafter, backend?, backend?, hresolve, withAliases_backends]
    exact ⟨rfl, rfl⟩
  · have hresolve := resolve_withAliases_of_supported hdone h
    -- the language that came in was not there, and the name leads to one that was
    have hne : Text.lower language ≠ r.resolve name := by
      intro heq
      exact hnew (heq ▸ isSupported_iff.mp h)
    rw [hafter]
    refine ⟨hresolve, ?_⟩
    show Table.get? ((r.withAliases (Text.lower language) done).resolve name) _ = _
    rw [hresolve, Table.get?_put, if_neg hne, backend?]

/-! ## Taking a language away -/

theorem not_mem_languages_unregister (r : Registry) (name : Text) :
    r.resolve name ∉ (r.unregister name).languages := by
  rw [mem_languages, ← Table.get?_eq_none]
  exact (Table.get?_erase _ _ _).trans (if_pos rfl)

theorem unregister_keeps_others {other : Text} (h : r.resolve other ≠ r.resolve name) :
    (r.unregister name).resolve other = r.resolve other ∧
      (r.unregister name).backend? other = r.backend? other := by
  have hresolve : (r.unregister name).resolve other = r.resolve other := by
    refine congrArg (Option.getD · (Text.lower other))
      (Table.get?_filter_of_kept (fun target => target ≠ r.resolve name) ?_)
    intro target htarget
    have hleads : r.resolve other = target := by rw [resolve, htarget, Option.getD_some]
    exact decide_eq_true (hleads ▸ h)
  refine ⟨hresolve, ?_⟩
  rw [backend?, hresolve]
  exact (Table.get?_erase _ _ _).trans (if_neg (Ne.symm h))

/-! ## Both changes -/

/-- A registration that replaces nothing, accepted or refused, leaves each name that was
supported with its language and its backend. When a language is taken away, no alias leads to
it any more, and every name that led elsewhere leads there still, with the same backend; a name
that had none has none, though the languages told about it are fewer. -/
theorem changes_touch_named_only (r : Registry) :
    (∀ language offer bynames name, r.isSupported name = true →
      (r.register language offer bynames false).1.resolve name = r.resolve name ∧
        (r.register language offer bynames false).1.backend name = r.backend name) ∧
    ∀ name, r.resolve name ∉ (r.unregister name).languages ∧
      (∀ entry ∈ (r.unregister name).aliases, entry.2 ≠ r.resolve name) ∧
      ∀ other, r.resolve other ≠ r.resolve name →
        (r.unregister name).resolve other = r.resolve other ∧
        (r.unregister name).isSupported other = r.isSupported other ∧
        (∀ b, (r.unregister name).backend other = .ok b ↔ r.backend other = .ok b) ∧
        (r.isSupported other = false →
          r.backend other = .error (.unknownLanguage other r.languages) ∧
          (r.unregister name).backend other =
            .error (.unknownLanguage other (r.unregister name).languages)) := by
  constructor
  · intro language offer bynames name h
    obtain ⟨hresolve, hbackend⟩ := register_keeps_supported language offer bynames h
    obtain ⟨b, hb⟩ := Option.isSome_iff_exists.mp h
    exact ⟨hresolve, (backend_eq_ok.mpr (hbackend.trans hb)).trans (backend_eq_ok.mpr hb).symm⟩
  · intro name
    refine ⟨not_mem_languages_unregister r name, fun entry hentry => ?_, fun other hother => ?_⟩
    · exact of_decide_eq_true (List.mem_filter.mp hentry).2
    · obtain ⟨hresolve, hbackend⟩ := unregister_keeps_others hother
      have hsupported : (r.unregister name).isSupported other = r.isSupported other :=
        congrArg Option.isSome hbackend
      refine ⟨hresolve, hsupported, fun b => ?_, fun hnot => ?_⟩
      · rw [backend_eq_ok, backend_eq_ok, hbackend]
      · exact ⟨backend_of_not_supported hnot, backend_of_not_supported (hsupported.trans hnot)⟩

/-- One language hides behind the alias of another, and one alias leads to a language that is
not there yet. It comes in, and the other one goes. -/
theorem hidden_names_untouched :
    let r : Registry := ⟨[("py", Python.backend), ("rust", Rust.backend)],
      [("py", "rust"), ("ghost", "go")]⟩
    r.isSupported "PY" = true ∧ r.resolve "ghost" ≠ r.resolve "py" ∧
      (r.register "Go" (some Python.backend) ["ghost", "rs", "py"] false).1.backend "PY" =
        r.backend "PY" ∧
      (r.unregister "py").resolve "ghost" = r.resolve "ghost" := by
  intro r
  have hsupported : r.isSupported "PY" = true := by decide
  have hother : r.resolve "ghost" ≠ r.resolve "py" := by decide
  obtain ⟨hregister, hunregister⟩ := changes_touch_named_only r
  exact ⟨hsupported, hother, (hregister "Go" _ _ "PY" hsupported).2,
    ((hunregister "py").2.2 "ghost" hother).1⟩

end Registry

end CatchAll
