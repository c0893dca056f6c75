import CatchAll.Proofs.Naming.MemberNames

/-!
# What a sanitizer remembers

A sanitizer keeps its conversions under keys, and two requests share a key when
one asks for a text in screaming snake case and the other for that text with
`_screaming` after it in snake case. Any other two requests have keys of their
own, so as long as no such pair is asked for between two resets, the answers are
those of a sanitizer that converts every text anew.
-/

set_option autoImplicit false

namespace CatchAll.Naming

open scoped Text
open Sanitizer

/-! ## Calls -/

/-- What a sanitizer can be asked to do. -/
inductive Call where
  | sanitize (t : Text) (case : Case) (suffix : Text)
  | derive (t : Text) (case : Case) (suffix : Text)
  | add (name : Text)
  | reset

/-- A text to be converted, and the case to convert it to. -/
abbrev Request := Text × Case

def Call.request? : Call → Option Request
  | sanitize t case _ => some (t, case)
  | derive t case _ => some (t, case)
  | _ => none

namespace Sanitizer

def answer (s : Sanitizer) : Call → Option Text × Sanitizer
  | .sanitize t case suffix => ((s.sanitize t case suffix).1, (s.sanitize t case suffix).2)
  | .derive t case suffix => s.derive t case suffix
  | .add name => (none, s.addUsed name)
  | .reset => (none, s.reset)

def run (s : Sanitizer) : List Call → List (Option Text)
  | [] => []
  | call :: calls => (s.answer call).1 :: (s.answer call).2.run calls

/-- The same sanitizer without any conversion to fall back on. -/
def forget (s : Sanitizer) : Sanitizer := { s with known := [] }

/-- The answers when every call has to convert its text anew. -/
def runAnew (s : Sanitizer) : List Call → List (Option Text)
  | [] => []
  | call :: calls => (s.forget.answer call).1 :: (s.forget.answer call).2.runAnew calls

end Sanitizer

/-! ## Keys -/

/-- Two requests with one key that are not the same. -/
def Clash (p q : Request) : Prop :=
  (p.2 = .screamingSnake ∧ q.2 = .snake ∧ q.1 = p.1 ++ "_screaming") ∨
    (q.2 = .screamingSnake ∧ p.2 = .snake ∧ p.1 = q.1 ++ "_screaming")

instance (p q : Request) : Decidable (Clash p q) := inferInstanceAs (Decidable (_ ∨ _))

/-- What a key has after the text. -/
def ending (case : Case) : Text := "_" ++ case.label

theorem key_eq (t : Text) (case : Case) : key t case = t ++ ending case := by
  rw [key, ending, List.append_assoc]

/-- One ending is the end of another in one case only. -/
theorem ending_eq_append {a b : Case} {before : Text} (h : ending a = before ++ ending b) :
    (a = b ∧ before = []) ∨
      (a = .screamingSnake ∧ b = .snake ∧ before = "_screaming") := by
  have hsuffix : ending b <:+ ending a := ⟨before, h.symm⟩
  have hcases : a = b ∨ (a = .screamingSnake ∧ b = .snake) := by
    revert hsuffix
    cases a <;> cases b <;> decide
  rcases hcases with rfl | ⟨rfl, rfl⟩
  · exact Or.inl ⟨rfl, List.append_left_eq_self.mp h.symm⟩
  · have hsplit : ending .screamingSnake = "_screaming".toList ++ ending .snake := by decide
    exact Or.inr ⟨rfl, rfl, List.append_cancel_right (h.symm.trans hsplit)⟩

theorem key_eq_key_iff {p q : Request} : key p.1 p.2 = key q.1 q.2 ↔ p = q ∨ Clash p q := by
  obtain ⟨t, a⟩ := p
  obtain ⟨u, b⟩ := q
  have hscreaming : ending .screamingSnake = "_screaming".toList ++ ending .snake := by decide
  rw [key_eq, key_eq]
  constructor
  · intro h
    rcases List.append_eq_append_iff.mp h with ⟨before, hu, ha⟩ | ⟨before, ht, hb⟩
    · rcases ending_eq_append ha with ⟨rfl, rfl⟩ | ⟨rfl, rfl, rfl⟩
      · exact Or.inl (Prod.ext (by rw [hu, List.append_nil]) rfl)
      · exact Or.inr (Or.inl ⟨rfl, rfl, hu⟩)
    · rcases ending_eq_append hb with ⟨rfl, rfl⟩ | ⟨rfl, rfl, rfl⟩
      · exact Or.inl (Prod.ext (by rw [ht, List.append_nil]) rfl)
      · exact Or.inr (Or.inr ⟨rfl, rfl, ht⟩)
  · rintro (h | ⟨ha, hb, hu⟩ | ⟨hb, ha, ht⟩)
    · cases h
      rfl
    · simp only at ha hb hu
      rw [ha, hb, hu, hscreaming, List.append_assoc]
    · simp only at ha hb ht
      rw [ha, hb, ht, hscreaming, List.append_assoc]

/-- The identifiers of requests that clash differ in the number of their letters. -/
theorem Clash.identifier_ne {p q : Request} (h : Clash p q) :
    identifier p.2 p.1 ≠ identifier q.2 q.1 := by
  have hlonger (t : Text) (a b : Case) : identifier a t ≠ identifier b (t ++ "_screaming") := by
    intro heq
    have hletters := congrArg letters heq
    rw [letters_identifier, letters_identifier, letters_append, List.self_eq_append_right]
      at hletters
    revert hletters
    decide
  rcases h with ⟨-, -, hq⟩ | ⟨-, -, hp⟩
  · rw [hq]
    exact hlonger p.1 p.2 q.2
  · rw [hp]
    exact (hlonger q.1 q.2 p.2).symm

/-! ## What is left when conversions are forgotten -/

namespace Sanitizer

theorem addUsed_forget (s : Sanitizer) (name : Text) :
    s.forget.addUsed name = (s.addUsed name).forget := by
  rw [addUsed, addUsed, apply_ite forget]
  rfl

theorem claim_forget (s : Sanitizer) (suffix t : Text) :
    s.forget.claim suffix t = ((s.claim suffix t).1, (s.claim suffix t).2.forget) := by
  rw [claim, addUsed_forget]
  rfl

theorem claim?_forget (s : Sanitizer) (suffix t : Text) :
    s.forget.claim? suffix t = ((s.claim? suffix t).1, (s.claim? suffix t).2.forget) := by
  rw [claim?, claim?]
  split
  · rfl
  · rw [claim_forget]

theorem claim_known (s : Sanitizer) (suffix t : Text) : (s.claim suffix t).2.known = s.known :=
  addUsed_known s _

theorem claim?_known (s : Sanitizer) (suffix t : Text) :
    (s.claim? suffix t).2.known = s.known := by
  rw [claim?]
  split
  · rfl
  · exact claim_known s suffix t

end Sanitizer

/-! ## One call -/

/-- What is remembered are the conversions of requests that were made. -/
def Recalls (asked : List Request) (s : Sanitizer) : Prop :=
  ∀ e ∈ s.known, ∃ q ∈ asked, e = (key q.1 q.2, identifier q.2 q.1)

/-- The requests made since the last reset once a call is made. -/
def Call.after (asked : List Request) : Call → List Request
  | reset => []
  | call => call.request?.toList ++ asked

/-- No request of the call clashes with one made before. -/
def Call.Fits (asked : List Request) (call : Call) : Prop :=
  ∀ p ∈ call.request?.toList, ∀ q ∈ asked, ¬ Clash q p

instance (asked : List Request) (call : Call) : Decidable (call.Fits asked) :=
  inferInstanceAs (Decidable (∀ p ∈ call.request?.toList, _))

variable {asked : List Request} {s : Sanitizer}

theorem recalls_forget (s : Sanitizer) : Recalls [] s.forget :=
  fun _ he => absurd he List.not_mem_nil

theorem Recalls.known?_eq (hr : Recalls asked s) {p : Request} (hfree : ∀ q ∈ asked, ¬ Clash q p)
    {x : Text} (h : s.known? (key p.1 p.2) = some x) : x = identifier p.2 p.1 := by
  obtain ⟨e, he, rfl⟩ := Option.map_eq_some_iff.mp h
  have hkey : e.1 = key p.1 p.2 := by simpa using List.find?_some he
  obtain ⟨q, hq, rfl⟩ := hr e (List.mem_of_find?_eq_some he)
  rcases key_eq_key_iff.mp hkey with rfl | hclash
  · rfl
  · exact absurd hclash (hfree q hq)

theorem Recalls.later (hr : Recalls asked s) (p : Request) : Recalls (p :: asked) s := by
  intro e he
  obtain ⟨q, hq, hentry⟩ := hr e he
  exact ⟨q, List.mem_cons_of_mem _ hq, hentry⟩

theorem Recalls.convert (hr : Recalls asked s) {p : Request} (hfree : ∀ q ∈ asked, ¬ Clash q p) :
    ∃ s', s.convert p.1 p.2 = (identifier p.2 p.1, s') ∧ s'.forget = s.forget ∧
      Recalls (p :: asked) s' := by
  rw [Sanitizer.convert]
  cases h : s.known? (key p.1 p.2) with
  | some x =>
    rw [hr.known?_eq hfree h]
    exact ⟨s, rfl, rfl, hr.later p⟩
  | none =>
    refine ⟨_, rfl, rfl, fun e he => ?_⟩
    rcases List.mem_cons.mp he with rfl | he
    · exact ⟨p, List.mem_cons_self, rfl⟩
    · exact hr.later p e he

/-- The second of two requests that clash is given the identifier of the first. -/
theorem Clash.convert_ne {p q : Request} (h : Clash p q) (v : Vocabulary) :
    (((ofVocabulary v).convert p.1 p.2).2.convert q.1 q.2).1 ≠ identifier q.2 q.1 := by
  have hkey : key p.1 p.2 = key q.1 q.2 := key_eq_key_iff.mpr (Or.inr h)
  have hknown : ((ofVocabulary v).convert p.1 p.2).2.known? (key q.1 q.2) =
      some (identifier p.2 p.1) := by
    simp [Sanitizer.convert, known?, ofVocabulary, hkey]
  rw [Sanitizer.convert, hknown]
  exact h.identifier_ne

/-- A call comes out as it does when its text is converted anew. -/
structure Agrees {α : Type} (asked : List Request) (anew out : α × Sanitizer) : Prop where
  result : out.1 = anew.1
  forget : out.2.forget = anew.2.forget
  recalls : Recalls asked out.2

/-- What neither reads nor changes the conversions comes out alike whatever they are. -/
theorem agrees_of_forget {α : Type} {f : Sanitizer → α × Sanitizer}
    (hf : ∀ s, f s.forget = ((f s).1, (f s).2.forget)) (hknown : ∀ s, (f s).2.known = s.known)
    {r : Sanitizer} (hforget : s.forget = r.forget) (hr : Recalls asked s) :
    Agrees asked (f r) (f s) := by
  have h := hf s
  rw [hforget, hf r] at h
  obtain ⟨hresult, hstate⟩ := Prod.mk.inj h
  refine ⟨hresult.symm, hstate.symm, fun e he => hr e ?_⟩
  rwa [hknown] at he

theorem Recalls.derive (hr : Recalls asked s) {p : Request} (hfree : ∀ q ∈ asked, ¬ Clash q p)
    (suffix : Text) :
    Agrees (p :: asked) (s.forget.derive p.1 p.2 suffix) (s.derive p.1 p.2 suffix) := by
  obtain ⟨s', hconvert, hforget, hr'⟩ := hr.convert hfree
  obtain ⟨r', hanew, hforget', -⟩ := (recalls_forget s).convert (p := p) (by simp)
  rw [Sanitizer.derive, Sanitizer.derive, hconvert, hanew]
  exact agrees_of_forget (claim?_forget · suffix _) (claim?_known · suffix _)
    (hforget.trans hforget'.symm) hr'

theorem Recalls.sanitize (hr : Recalls asked s) {p : Request} (hfree : ∀ q ∈ asked, ¬ Clash q p)
    (suffix : Text) :
    Agrees (p :: asked) (s.forget.sanitize p.1 p.2 suffix) (s.sanitize p.1 p.2 suffix) := by
  have hderive := hr.derive hfree suffix
  rw [Sanitizer.sanitize, Sanitizer.sanitize]
  rcases hs : s.derive p.1 p.2 suffix with ⟨name, s'⟩
  rcases hanew : s.forget.derive p.1 p.2 suffix with ⟨name', r'⟩
  rw [hs, hanew] at hderive
  obtain ⟨hname, hforget, hr'⟩ := hderive
  obtain rfl : name = name' := hname
  cases name with
  | some name => exact ⟨rfl, hforget, hr'⟩
  | none =>
    exact agrees_of_forget (claim_forget · suffix _) (claim_known · suffix _) hforget hr'

theorem Recalls.answer (hr : Recalls asked s) {call : Call} (hfits : call.Fits asked) :
    Agrees (call.after asked) (s.forget.answer call) (s.answer call) := by
  cases call with
  | sanitize t case suffix =>
    obtain ⟨hname, hforget, hr'⟩ := hr.sanitize (hfits (t, case) List.mem_cons_self) suffix
    exact ⟨congrArg some hname, hforget, hr'⟩
  | derive t case suffix => exact hr.derive (hfits (t, case) List.mem_cons_self) suffix
  | add name =>
    exact agrees_of_forget (f := fun s => (none, s.addUsed name))
      (fun s => congrArg _ (addUsed_forget s name)) (fun s => addUsed_known s name) rfl hr
  | reset => exact ⟨rfl, rfl, fun _ he => absurd he List.not_mem_nil⟩

/-! ## Runs -/

/-- No two requests clash that are made without a reset between them. -/
def Apart (asked : List Request) : List Call → Prop
  | [] => True
  | call :: calls => call.Fits asked ∧ Apart (call.after asked) calls

instance decidableApart : (asked : List Request) → (calls : List Call) →
    Decidable (Apart asked calls)
  | _, [] => .isTrue trivial
  | asked, call :: calls =>
    have := decidableApart (call.after asked) calls
    inferInstanceAs (Decidable (call.Fits asked ∧ _))

theorem runAnew_of_forget {r : Sanitizer} (h : s.forget = r.forget) (calls : List Call) :
    s.runAnew calls = r.runAnew calls := by
  cases calls with
  | nil => rfl
  | cons call calls => rw [runAnew, runAnew, h]

theorem Recalls.run (hr : Recalls asked s) {calls : List Call} (h : Apart asked calls) :
    s.run calls = s.runAnew calls := by
  induction calls generalizing asked s with
  | nil => rfl
  | cons call calls ih =>
    obtain ⟨hfits, hrest⟩ := h
    obtain ⟨hresult, hforget, hr'⟩ := hr.answer hfits
    rw [Sanitizer.run, runAnew, hresult, ih hr' hrest, runAnew_of_forget hforget]

/-- Whatever the words of the language are, the answers depend on the texts, the
cases, the suffixes and the names used alone. -/
theorem answers_without_memory (v : Vocabulary) {calls : List Call} (h : Apart [] calls) :
    (ofVocabulary v).run calls = (ofVocabulary v).runAnew calls :=
  Recalls.run (fun _ he => absurd he List.not_mem_nil) h

/-- A text may be asked for in all cases, and a reset parts what would clash. -/
theorem reset_parts_clash :
    Apart [] [.derive "type" .snake "_", .sanitize "type" .pascal "_", .add "a_screaming",
      .derive "a" .screamingSnake "_", .reset, .derive "a_screaming" .snake "_"] ∧
    (ofVocabulary ⟨["type"], []⟩).run [.derive "type" .snake "_", .sanitize "type" .pascal "_",
      .add "a_screaming", .derive "a" .screamingSnake "_", .reset,
      .derive "a_screaming" .snake "_"] =
    (ofVocabulary ⟨["type"], []⟩).runAnew [.derive "type" .snake "_",
      .sanitize "type" .pascal "_", .add "a_screaming", .derive "a" .screamingSnake "_", .reset,
      .derive "a_screaming" .snake "_"] :=
  ⟨by decide, answers_without_memory ⟨["type"], []⟩ (by decide)⟩

/-- The second text is given the identifier of the first. -/
theorem clash_changes_answer :
    (ofVocabulary ⟨[], []⟩).run
        [.derive "a" .screamingSnake "_", .derive "a_screaming" .snake "_"] =
      [some "A".toList, some "A_1".toList] ∧
    (ofVocabulary ⟨[], []⟩).runAnew
        [.derive "a" .screamingSnake "_", .derive "a_screaming" .snake "_"] =
      [some "A".toList, some "a_screaming".toList] := by
  decide

end CatchAll.Naming
