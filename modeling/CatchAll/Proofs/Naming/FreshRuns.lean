import CatchAll.Proofs.Naming.Memory
import CatchAll.Proofs.Search
import Mathlib.Data.List.Induction
import Mathlib.Data.List.ReduceOption

/-!
# Names over a whole run

A sanitizer looks for a name by a search that tries the converted text, changed if the
language lays claim to it, and then that text with 1, 2 and so on behind it. Whatever is
used already the search ends, and its name is used from then on. So as long as nothing
is reset, the used names are those of the start and all that were handed out or added,
and no name is handed out that is among them.
-/

set_option autoImplicit false

namespace CatchAll.Naming

open scoped Text
open Sanitizer

/-! ## One search -/

/-- A base with a conflict counter behind it. -/
def numbered (base suffix : Text) (counter : Nat) : Text :=
  base ++ (if suffix = "_" then suffix else []) ++ Text.ofNat counter

/-- A name that the search from a base ends with. If it has a counter then the base is used,
and the base with any smaller counter. -/
structure FoundFrom (used : List Text) (base suffix name : Text) : Prop where
  ends : ∃ bound ≤ used.length + 1, ∀ trials found,
    Search (· ∉ used) (numbered base suffix) base 1 trials found ↔ trials = bound ∧ found = name
  smallest : name = base ∨ ∃ counter ≥ 1, name = numbered base suffix counter ∧ base ∈ used ∧
    ∀ k ≥ 1, k < counter → numbered base suffix k ∈ used

theorem fresh_found (used : List Text) (base suffix : Text) :
    FoundFrom used base suffix (fresh used base suffix) := by
  obtain ⟨n, hn, hfree, hused⟩ := fresh_spec used base suffix
  obtain ⟨m, hm, hfree'⟩ := exists_unused_candidate used base suffix
  have hbound : n ≤ m := by
    by_contra hlt
    exact hfree' (hused m (Nat.lt_of_not_le hlt))
  rw [hn]
  constructor
  · have hmake (k : Nat) : numbered base suffix (1 + k) = candidate base suffix (k + 1) := by
      rw [Nat.add_comm, candidate, numbered]
    refine ⟨n + 1, by omega, fun trials found => ?_⟩
    have htaken : ∀ k < n, ¬ candidate base suffix k ∉ used := fun k hk =>
      not_not_intro (hused k hk)
    exact search_iff_of_first hmake hfree htaken trials found
  · cases n with
    | zero => exact Or.inl rfl
    | succ n =>
      refine Or.inr ⟨n + 1, Nat.succ_pos n, rfl, hused 0 (Nat.succ_pos n), fun k hk hlt => ?_⟩
      obtain ⟨k, rfl⟩ := Nat.exists_eq_add_of_le' hk
      exact hused (k + 1) hlt

/-! ## One call -/

/-- The text that the search of a call begins with, and the suffix. A call without a search
asks for no name, or for the name of a text without a letter and a digit. -/
def Call.base? (s : Sanitizer) : Call → Option (Text × Text)
  | sanitize t case suffix =>
    let converted := (s.convert t case).1
    some (s.avoid suffix (if converted = [] then fallback case else converted), suffix)
  | derive t case suffix =>
    let converted := (s.convert t case).1
    if converted = [] then none else some (s.avoid suffix converted, suffix)
  | add _ => none
  | reset => none

/-- What a call other than a reset does: it returns the name that its search ends with, and
none if it has no search. The name returned was not used, and together with a name added it
is all that is used anew. -/
structure Serves (s : Sanitizer) (call : Call) (name : Option Text) (s' : Sanitizer) : Prop where
  found : ∀ base suffix, call.base? s = some (base, suffix) →
    ∃ t, name = some t ∧ FoundFrom s.used base suffix t
  unasked : call.base? s = none → name = none
  fresh : ∀ t, name = some t → t ∉ s.used
  used : ∀ t, t ∈ s'.used ↔ t ∈ s.used ∨ name = some t ∨ call = .add t
  unnamed : name = none → (∀ t, call ≠ .add t) → s'.used = s.used

theorem convert_frame (s : Sanitizer) (t : Text) (case : Case) :
    (s.convert t case).2.used = s.used ∧ (s.convert t case).2.vocabulary = s.vocabulary := by
  rw [convert]
  split <;> exact ⟨rfl, rfl⟩

/-- A converted text becomes a name of a call, after which the name is used. -/
theorem serves_claim {s s' : Sanitizer} {call : Call} {suffix converted : Text}
    (hbase : call.base? s = some (s.avoid suffix converted, suffix))
    (hadd : ∀ t, call ≠ .add t) (hused : s'.used = s.used)
    (hvocabulary : s'.vocabulary = s.vocabulary) :
    Serves s call (some (s'.claim suffix converted).1) (s'.claim suffix converted).2 := by
  have hname : (s'.claim suffix converted).1 = fresh s.used (s.avoid suffix converted) suffix := by
    rw [claim, avoid, avoid, hused, hvocabulary]
  refine ⟨fun base suffix' h => ?_, fun h => ?_, fun t ht => ?_, fun t => ?_,
    fun h => by cases h⟩
  · obtain ⟨rfl, rfl⟩ := Prod.mk.inj (Option.some.inj (hbase.symm.trans h))
    exact ⟨_, rfl, hname ▸ fresh_found s.used _ _⟩
  · rw [hbase] at h
    cases h
  · rw [← Option.some.inj ht, hname]
    exact fresh_not_mem s.used _ _
  · have hmem : t ∈ (s'.claim suffix converted).2.used ↔
        t = (s'.claim suffix converted).1 ∨ t ∈ s'.used := mem_addUsed s' _ t
    rw [hmem, hused, or_iff_left (hadd t), Option.some.injEq, or_comm, eq_comm]

theorem serves_sanitize (s : Sanitizer) (t : Text) (case : Case) (suffix : Text) :
    Serves s (.sanitize t case suffix) (some (s.sanitize t case suffix).1)
      (s.sanitize t case suffix).2 := by
  obtain ⟨hused, hvocabulary⟩ := convert_frame s t case
  have hclaim : s.sanitize t case suffix = (s.convert t case).2.claim suffix
      (if (s.convert t case).1 = [] then fallback case else (s.convert t case).1) := by
    rw [sanitize, derive]
    dsimp only
    rw [claim?]
    by_cases hempty : (s.convert t case).1 = []
    · rw [if_pos hempty, if_pos hempty]
    · rw [if_neg hempty, if_neg hempty]
  rw [hclaim]
  exact serves_claim rfl (fun _ h => by cases h) hused hvocabulary

theorem serves_derive (s : Sanitizer) (t : Text) (case : Case) (suffix : Text) :
    Serves s (.derive t case suffix) (s.derive t case suffix).1 (s.derive t case suffix).2 := by
  obtain ⟨hused, hvocabulary⟩ := convert_frame s t case
  rw [derive]
  dsimp only
  rw [claim?]
  split
  · rename_i hempty
    have hbase : Call.base? s (.derive t case suffix) = none := if_pos hempty
    refine ⟨fun base suffix h => ?_, fun _ => rfl, fun _ h => (by cases h), fun u => ?_,
      fun _ _ => hused⟩
    · rw [hbase] at h
      cases h
    · simp [hused]
  · rename_i hsome
    exact serves_claim (if_neg hsome) (fun _ h => by cases h) hused hvocabulary

theorem serves_answer (s : Sanitizer) {call : Call} (h : call ≠ .reset) :
    Serves s call (s.answer call).1 (s.answer call).2 := by
  cases call with
  | sanitize t case suffix => exact serves_sanitize s t case suffix
  | derive t case suffix => exact serves_derive s t case suffix
  | add name =>
    refine ⟨fun _ _ h => (by cases h), fun _ => rfl, fun _ h => (by cases h), fun t => ?_,
      fun _ hadd => absurd rfl (hadd name)⟩
    have hmem : t ∈ (s.answer (.add name)).2.used ↔ t = name ∨ t ∈ s.used := mem_addUsed s name t
    rw [hmem, or_comm]
    simp [answer, eq_comm]
  | reset => exact absurd rfl h

/-! ## Runs -/

namespace Sanitizer

/-- What the sanitizer is after some calls. -/
def after (s : Sanitizer) (calls : List Call) : Sanitizer :=
  calls.foldl (fun s call => (s.answer call).2) s

theorem after_concat (s : Sanitizer) (calls : List Call) (call : Call) :
    s.after (calls ++ [call]) = ((s.after calls).answer call).2 := by
  rw [after, List.foldl_append]
  rfl

theorem run_concat (s : Sanitizer) (calls : List Call) (call : Call) :
    s.run (calls ++ [call]) = s.run calls ++ [((s.after calls).answer call).1] := by
  induction calls generalizing s with
  | nil => rfl
  | cons first calls ih =>
    rw [List.cons_append, run, ih, run]
    rfl

end Sanitizer

/-- Without a reset nothing is used but what was used at the start, returned or added. -/
theorem mem_used_after (s : Sanitizer) {calls : List Call} (h : Call.reset ∉ calls) (t : Text) :
    t ∈ (s.after calls).used ↔ t ∈ s.used ∨ some t ∈ s.run calls ∨ .add t ∈ calls := by
  induction calls using List.reverseRecOn with
  | nil => simp [after, run]
  | append_singleton calls call ih =>
    rw [List.mem_append, not_or, List.mem_singleton] at h
    rw [after_concat, run_concat, (serves_answer _ (Ne.symm h.2)).used, ih h.1]
    simp only [List.mem_append, List.mem_singleton]
    tauto

/-- A name that is returned is none of those used at the start, returned or added before. -/
theorem answer_new (s : Sanitizer) {before : List Call} {call : Call} {t : Text}
    (h : Call.reset ∉ before) (hcall : call ≠ .reset)
    (hname : ((s.after before).answer call).1 = some t) :
    t ∉ s.used ∧ some t ∉ s.run before ∧ .add t ∉ before := by
  have hnew := (serves_answer (s.after before) hcall).fresh t hname
  rwa [mem_used_after s h, not_or, not_or] at hnew

theorem run_distinct (s : Sanitizer) {calls : List Call} (h : Call.reset ∉ calls) :
    (s.run calls).reduceOption.Nodup := by
  induction calls using List.reverseRecOn with
  | nil => exact List.nodup_nil
  | append_singleton calls call ih =>
    rw [List.mem_append, not_or, List.mem_singleton] at h
    rw [run_concat, List.reduceOption_append]
    cases hname : ((s.after calls).answer call).1 with
    | none => simpa using ih h.1
    | some t =>
      have hnew := (answer_new s h.1 (Ne.symm h.2) hname).2.1
      rw [List.reduceOption_singleton, Option.toList_some]
      refine List.nodup_append.mpr ⟨ih h.1, List.nodup_singleton t, ?_⟩
      rintro a ha b hb rfl
      rw [List.mem_singleton.mp hb, List.reduceOption_mem_iff] at ha
      exact hnew ha

/-- However the sanitizer was used before, every call of a run without a reset is served: its
search ends with a name that was not used, with the smallest counter if it has one, and a
call without a name leaves the used names as they are. So the names of a run are distinct,
and none of them was used or added before it was returned. -/
theorem names_fresh_over_runs (s : Sanitizer) {calls : List Call} (h : Call.reset ∉ calls) :
    (∀ before call later, calls = before ++ call :: later →
      Serves (s.after before) call ((s.after before).answer call).1 (s.after (before ++ [call])) ∧
      ∀ t, ((s.after before).answer call).1 = some t →
        t ∉ s.used ∧ some t ∉ s.run before ∧ .add t ∉ before) ∧
    (s.run calls).reduceOption.Nodup := by
  refine ⟨fun before call later hcalls => ?_, run_distinct s h⟩
  rw [hcalls, List.mem_append, not_or, List.mem_cons, not_or] at h
  obtain ⟨hbefore, hcall, -⟩ := h
  rw [after_concat]
  exact ⟨serves_answer _ (Ne.symm hcall), fun t => answer_new s hbefore (Ne.symm hcall)⟩

/-- A word of the language with nothing to set it apart, whose first counter is taken by a
name that was added, and a text without letters, asked for in both ways. -/
theorem crowded_names_fresh :
    Call.reset ∉ [.derive "type" .snake "", .add "type1", .derive "type" .snake "",
      .derive "!" .snake "", .sanitize "!" .snake ""] ∧
    (ofVocabulary ⟨["type"], []⟩).run [.derive "type" .snake "", .add "type1",
      .derive "type" .snake "", .derive "!" .snake "", .sanitize "!" .snake ""] =
      [some "type".toList, none, some "type2".toList, none, some "value".toList] ∧
    (List.reduceOption ((ofVocabulary ⟨["type"], []⟩).run [.derive "type" .snake "",
      .add "type1", .derive "type" .snake "", .derive "!" .snake "",
      .sanitize "!" .snake ""])).Nodup :=
  ⟨by simp, by decide, (names_fresh_over_runs (ofVocabulary ⟨["type"], []⟩) (by simp)).2⟩

end CatchAll.Naming
