import CatchAll.Proofs.Naming.Division
import CatchAll.Proofs.Naming.Shape
import CatchAll.Proofs.Target.Placeholder
import CatchAll.Target.PythonNames
import CatchAll.Target.RustNames

/-!
# Names that stay as they are

A text in snake case has no capitals, so only its underscores divide it: it has the words
that it was written from. An underscore in front of a digit and one behind a word of the
language belong to the gaps and are put there again. So a name that a new sanitizer gives in
snake case is given to itself.
-/

set_option autoImplicit false

namespace CatchAll.Naming

open scoped Text
open Sanitizer

/-! ## Words without capitals -/

theorem IsWord.isPart {w after : Text} (h : IsWord w)
    (hafter : ∀ c, after.head? = some c → c.isAlphanum = false) : IsPart w after := by
  obtain ⟨hne, hchars⟩ := h
  obtain ⟨c, w, rfl⟩ := List.exists_cons_of_ne_nil hne
  obtain ⟨hc, hw⟩ := List.forall_mem_cons.mp hchars
  refine isPart_of_small (isAlphanum_of_small hc).1 hw fun d hd halnum => ?_
  rw [hafter d hd] at halnum
  cases halnum

/-- Words that are joined by underscores, with a gap on either side. -/
theorem divided_joinWith {ws : List Text} (h : AreWords ws) {gap tail : Text}
    (hgap : ∀ c ∈ gap, c.isAlphanum = false) (htail : ∀ c ∈ tail, c.isAlphanum = false) :
    Divided (gap ++ (Text.joinWith "_" ws ++ tail)) ws := by
  induction ws generalizing gap with
  | nil => exact .gap (List.forall_mem_append.mpr ⟨hgap, htail⟩)
  | cons w ws ih =>
    have hw := isWord_of_mem h List.mem_cons_self
    cases ws with
    | nil =>
      have hlast : Text.joinWith "_" [w] = w := by simp [Text.joinWith]
      rw [hlast]
      exact .word hgap (hw.isPart fun c hc => htail c (List.mem_of_head? hc))
        (.gap htail)
    | cons v ws =>
      have hmark : ∀ c ∈ ("_" : Text), c.isAlphanum = false := List.forall_mem_singleton.mpr rfl
      rw [Text.joinWith_cons_cons, List.append_assoc, List.append_assoc]
      refine .word hgap (hw.isPart ?_) (ih (areWords_cons h) hmark)
      intro c hc
      obtain rfl : '_' = c := Option.some.inj hc
      rfl

/-! ## Converted texts -/

/-- The underscore in front of a digit is a gap. -/
theorem guardDigit_gap (t : Text) :
    ∃ gap, (∀ c ∈ gap, c.isAlphanum = false) ∧ guardDigit t = gap ++ t := by
  rw [guardDigit_eq]
  by_cases hdigit : t.head?.any Char.isDigit = true
  · exact ⟨['_'], List.forall_mem_singleton.mpr rfl, if_pos hdigit⟩
  · exact ⟨[], by simp, if_neg hdigit⟩

/-- The underscore behind a word of the language is a gap as well. -/
theorem avoid_gap (s : Sanitizer) (t : Text) :
    ∃ gap, (∀ c ∈ gap, c.isAlphanum = false) ∧ s.avoid "_" t = t ++ gap := by
  rw [avoid]
  split
  · exact ⟨['_'], List.forall_mem_singleton.mpr rfl, rfl⟩
  · exact ⟨[], by simp, (List.append_nil t).symm⟩

theorem words_identifier_append (t : Text) {tail : Text}
    (htail : ∀ c ∈ tail, c.isAlphanum = false) :
    words (identifier .snake t ++ tail) = words t := by
  have hwords := areWords_words t
  obtain ⟨gap, hgap, hguard⟩ := guardDigit_gap (Case.snake.write (words t))
  have hdivided : Divided (identifier .snake t ++ tail) (words t) := by
    rw [identifier, hguard, List.append_assoc]
    exact divided_joinWith hwords hgap htail
  rw [hdivided.words_eq]
  exact (List.map_congr_left fun w hw => lowerWord_of_word (hwords w hw).2).trans (List.map_id _)

/-- What a new sanitizer makes of a text in snake case is converted to the same again. -/
theorem identifier_avoid (s : Sanitizer) (t : Text) :
    identifier .snake (s.avoid "_" (identifier .snake t)) = identifier .snake t := by
  obtain ⟨gap, hgap, havoid⟩ := avoid_gap s (identifier .snake t)
  rw [havoid, identifier, words_identifier_append t hgap, identifier]

/-! ## Names of a new sanitizer -/

theorem derive_new (v : Vocabulary) (t : Text) (case : Case) :
    ((ofVocabulary v).derive t case "_").1 =
      if identifier case t = [] then none
      else some ((ofVocabulary v).avoid "_" (identifier case t)) := by
  rw [derive_ofVocabulary, claim?]
  split
  · rfl
  · exact congrArg some (fresh_of_not_mem List.not_mem_nil "_")

/-- A text without letters and digits is named like the text `value`. -/
theorem nameOf_snake (v : Vocabulary) (t : Text) :
    ∃ u, identifier .snake u ≠ [] ∧
      v.nameOf t .snake = (ofVocabulary v).avoid "_" (identifier .snake u) := by
  rw [nameOf_eq]
  by_cases hempty : identifier .snake t = []
  · rw [if_pos hempty]
    exact ⟨"value", by decide, rfl⟩
  · rw [if_neg hempty]
    exact ⟨t, hempty, rfl⟩

/-- A new sanitizer gives a name in snake case to itself, whatever words the language has: a
name that it derived is derived again, and a name that it gave is given again. -/
theorem snake_names_fixed (v : Vocabulary) (t : Text) :
    (∀ name, ((ofVocabulary v).derive t .snake "_").1 = some name →
      ((ofVocabulary v).derive name .snake "_").1 = some name) ∧
    v.nameOf (v.nameOf t .snake) .snake = v.nameOf t .snake := by
  constructor
  · intro name hname
    rw [derive_new] at hname
    split at hname
    · cases hname
    · rename_i hsome
      obtain rfl := Option.some.inj hname
      rw [derive_new, identifier_avoid, if_neg hsome]
  · obtain ⟨u, hsome, hname⟩ := nameOf_snake v t
    rw [hname, nameOf_eq, identifier_avoid, if_neg hsome]

open Target in
/-- A word of each language, a digit in front, and a text that has no name of its own. -/
theorem marked_names_fixed :
    (((ofVocabulary Rust.vocabulary).derive "Type" .snake "_").1 = some "type_".toList ∧
      ((ofVocabulary Rust.vocabulary).derive "type_" .snake "_").1 = some "type_".toList) ∧
    (((ofVocabulary Python.vocabulary).derive "2FA" .snake "_").1 = some "_2_fa".toList ∧
      ((ofVocabulary Python.vocabulary).derive "_2_fa" .snake "_").1 = some "_2_fa".toList) ∧
    (((ofVocabulary Python.memberVocabulary).derive "from-str" .snake "_").1 =
        some "from_str_".toList ∧
      ((ofVocabulary Python.memberVocabulary).derive "from_str_" .snake "_").1 =
        some "from_str_".toList) ∧
    Rust.vocabulary.nameOf (Rust.vocabulary.nameOf "!?" .snake) .snake = ("value" : Text) := by
  have hkeyword : ((ofVocabulary Rust.vocabulary).derive "Type" .snake "_").1 =
      some "type_".toList := by decide
  have hdigit : ((ofVocabulary Python.vocabulary).derive "2FA" .snake "_").1 =
      some "_2_fa".toList := by decide
  have hattribute : ((ofVocabulary Python.memberVocabulary).derive "from-str" .snake "_").1 =
      some "from_str_".toList := by decide
  exact ⟨⟨hkeyword, (snake_names_fixed _ _).1 _ hkeyword⟩,
    ⟨hdigit, (snake_names_fixed _ _).1 _ hdigit⟩,
    ⟨hattribute, (snake_names_fixed _ _).1 _ hattribute⟩,
    (snake_names_fixed Rust.vocabulary "!?").2.trans (by decide)⟩

end CatchAll.Naming
