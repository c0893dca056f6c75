import CatchAll.Proofs.Text.Literal
import CatchAll.Target.PythonNames
import Mathlib.Data.List.Basic

/-!
# Texts inside documentation strings

A documentation string stands between two delimiters of three quotes. A text that
was made ready for one is read back as it is, unless it ends in a run of quotes
whose number is a multiple of three: the last quote of such a run is escaped
twice, so that the string closes one quote early.
-/

set_option autoImplicit false

namespace CatchAll.Target.Python

open scoped Text
open Text.Literal

/-! ## Reading -/

/-- What opens and closes a documentation string. -/
def delimiter : Text := "\"\"\""

/-- The text up to the first three quotes in a row, and what follows them. A backslash takes
the next character as it is; only a backslash or a quote may come after it. -/
def readDocstring : Text → Option (Text × Text)
  | '"' :: '"' :: '"' :: rest => some ([], rest)
  | '\\' :: '\\' :: rest => prepend '\\' (readDocstring rest)
  | '\\' :: '"' :: rest => prepend '"' (readDocstring rest)
  | '\\' :: _ => none
  | c :: rest => prepend c (readDocstring rest)
  | [] => none

/-- Two quotes at the start make a delimiter with one more before them. -/
def StartsPair (t : Text) : Prop := t.head? = some '"' ∧ t.tail.head? = some '"'

theorem readDocstring_plain {c : Char} {rest : Text} (hslash : c ≠ '\\')
    (hquote : c = '"' → ¬ StartsPair rest) :
    readDocstring (c :: rest) = prepend c (readDocstring rest) := by
  rw [readDocstring]
  · rintro rest' rfl rfl
    exact hquote rfl ⟨rfl, rfl⟩
  all_goals simp [hslash]

/-! ## Writing, character by character -/

theorem doubleBackslashes_slash (t : Text) :
    doubleBackslashes ('\\' :: t) = '\\' :: '\\' :: doubleBackslashes t := rfl

theorem doubleBackslashes_cons {c : Char} (h : c ≠ '\\') (t : Text) :
    doubleBackslashes (c :: t) = c :: doubleBackslashes t := by
  simp [doubleBackslashes, h]

theorem head?_doubleBackslashes (t : Text) : (doubleBackslashes t).head? = t.head? := by
  cases t with
  | nil => rfl
  | cons c t =>
    by_cases h : c = '\\'
    · subst h
      rfl
    · rw [doubleBackslashes_cons h]
      rfl

theorem startsPair_doubleBackslashes {t : Text} :
    StartsPair (doubleBackslashes t) ↔ StartsPair t := by
  cases t with
  | nil => rfl
  | cons c t =>
    by_cases h : c = '\\'
    · subst h
      simp [StartsPair, doubleBackslashes_slash]
    · rw [doubleBackslashes_cons h, StartsPair, StartsPair, List.tail_cons, List.tail_cons,
        head?_doubleBackslashes, List.head?_cons, List.head?_cons]

theorem escapeTriples_cons {c : Char} {t : Text} (h : c = '"' → ¬ StartsPair t) :
    escapeTriples (c :: t) = c :: escapeTriples t := by
  rw [escapeTriples]
  rintro rest rfl rfl
  exact h rfl ⟨rfl, rfl⟩

theorem escapeLast_append (before : Text) {t : Text} (h : t ≠ []) :
    escapeLast (before ++ t) = before ++ escapeLast t := by
  rw [escapeLast, escapeLast, List.getLast?_append_of_ne_nil before h]
  split
  · rw [List.dropLast_append_of_ne_nil h, List.append_assoc]
  · rfl

theorem escapeLast_cons {c : Char} {t : Text} (h : t = [] → c ≠ '"') :
    escapeLast (c :: t) = c :: escapeLast t := by
  by_cases ht : t = []
  · subst ht
    simp [escapeLast, h rfl]
  · exact escapeLast_append [c] ht

theorem escapeTriples_ne_nil {t : Text} (h : t ≠ []) : escapeTriples (doubleBackslashes t) ≠ [] := by
  obtain ⟨c, t, rfl⟩ := List.exists_cons_of_ne_nil h
  have hcons : doubleBackslashes (c :: t) ≠ [] := by
    intro hnil
    have hhead := head?_doubleBackslashes (c :: t)
    rw [hnil] at hhead
    cases hhead
  generalize doubleBackslashes (c :: t) = u at hcons
  intro hnil
  rw [escapeTriples.eq_def] at hnil
  split at hnil
  · cases hnil
  · cases hnil
  · exact hcons rfl

theorem docstring_slash (t : Text) : docstring ('\\' :: t) = '\\' :: '\\' :: docstring t := by
  have hslash : '\\' ≠ '"' := by decide
  rw [docstring, docstring, doubleBackslashes_slash, escapeTriples_cons (absurd · hslash),
    escapeTriples_cons (absurd · hslash), escapeLast_cons fun _ => hslash,
    escapeLast_cons fun _ => hslash]

theorem docstring_cons {c : Char} {t : Text} (hslash : c ≠ '\\')
    (hquote : c = '"' → t ≠ [] ∧ ¬ StartsPair t) : docstring (c :: t) = c :: docstring t := by
  have hpair : c = '"' → ¬ StartsPair (doubleBackslashes t) := fun hc =>
    startsPair_doubleBackslashes.not.mpr (hquote hc).2
  rw [docstring, docstring, doubleBackslashes_cons hslash, escapeTriples_cons hpair,
    escapeLast_cons fun hnil hc => escapeTriples_ne_nil (hquote hc).1 hnil]

theorem docstring_triple {t : Text} (h : t ≠ []) :
    docstring ('"' :: '"' :: '"' :: t) = ['\\', '"', '\\', '"', '\\', '"'] ++ docstring t :=
  escapeLast_append _ (escapeTriples_ne_nil h)

/-- A text that does not begin with a quote does not begin with one in a string either. -/
theorem head?_docstring {c : Char} (h : c ≠ '"') (t rest : Text) :
    (docstring (c :: t) ++ rest).head? ≠ some '"' := by
  by_cases hslash : c = '\\'
  · subst hslash
    simp [docstring_slash]
  · rw [docstring_cons hslash fun hc => absurd hc h]
    simpa using h

theorem not_startsPair_docstring {t : Text} (hne : t ≠ []) (h : ¬ StartsPair t) (rest : Text) :
    ¬ StartsPair (docstring t ++ rest) := by
  obtain ⟨c, t, rfl⟩ := List.exists_cons_of_ne_nil hne
  by_cases hc : c = '"'
  · subst hc
    by_cases ht : t = []
    · subst ht
      simp [StartsPair, docstring, doubleBackslashes, escapeTriples, escapeLast]
    · obtain ⟨d, t, rfl⟩ := List.exists_cons_of_ne_nil ht
      have hd : d ≠ '"' := fun hd => h ⟨rfl, by simp [hd]⟩
      have hquote : ¬ StartsPair (d :: t) := fun hp => hd (Option.some.inj hp.1)
      rw [docstring_cons (by decide) fun _ => ⟨List.cons_ne_nil d t, hquote⟩]
      exact fun hp => head?_docstring hd t rest hp.2
  · exact fun hp => head?_docstring hc t rest hp.1

theorem mem_doubleBackslashes {c : Char} {t : Text} (h : c ∈ doubleBackslashes t) :
    c ∈ t ∨ c = '\\' := by
  obtain ⟨d, hd, hc⟩ := List.mem_flatMap.mp h
  split at hc
  · exact .inr (by simpa using hc)
  · exact .inl (List.mem_singleton.mp hc ▸ hd)

theorem mem_escapeTriples {c : Char} {t : Text} (h : c ∈ escapeTriples t) :
    c ∈ t ∨ c = '\\' ∨ c = '"' := by
  induction t using escapeTriples.induct with
  | case1 rest ih =>
    rw [escapeTriples, List.mem_append] at h
    rcases h with h | h
    · simp only [List.mem_cons, List.not_mem_nil, or_false] at h
      tauto
    · exact (ih h).imp_left fun hmem => by simp [hmem]
  | case2 d rest hno ih =>
    rw [escapeTriples] at h
    · rcases List.mem_cons.mp h with rfl | h
      · exact .inl List.mem_cons_self
      · exact (ih h).imp_left (List.mem_cons_of_mem d)
    · exact hno
  | case3 => cases h

theorem mem_escapeLast {c : Char} {t : Text} (h : c ∈ escapeLast t) :
    c ∈ t ∨ c = '\\' ∨ c = '"' := by
  rw [escapeLast] at h
  split at h
  · rcases List.mem_append.mp h with h | h
    · exact .inl ((List.dropLast_sublist _).subset h)
    · exact .inr (by simpa using h)
  · exact .inl h

/-- What is made ready for a string has no characters of its own but escaped quotes. -/
theorem mem_docstring {c : Char} {t : Text} (h : c ∈ docstring t) :
    c ∈ t ∨ c = '\\' ∨ c = '"' := by
  rcases mem_escapeLast h with h | h
  · rcases mem_escapeTriples h with h | h
    · exact (mem_doubleBackslashes h).imp_right Or.inl
    · exact .inr h
  · exact .inr h

/-! ## Reading it back -/

/-- The number of quotes at the end of a text. -/
def quotesAtEnd (t : Text) : Nat := (t.reverse.takeWhile (· = '"')).length

/-- The quotes at the end, one or more, are escaped three by three without a rest. -/
def EndsInTriples (t : Text) : Prop := quotesAtEnd t ≠ 0 ∧ quotesAtEnd t % 3 = 0

instance (t : Text) : Decidable (EndsInTriples t) :=
  inferInstanceAs (Decidable (_ ∧ _))

theorem quotesAtEnd_cons (c : Char) (t : Text) :
    quotesAtEnd (c :: t) =
      if quotesAtEnd t = t.length ∧ c = '"' then t.length + 1 else quotesAtEnd t := by
  rw [quotesAtEnd, List.reverse_cons, List.takeWhile_append, List.length_reverse]
  change List.length (if quotesAtEnd t = t.length then _ else _) = _
  by_cases hall : quotesAtEnd t = t.length
  · by_cases hc : c = '"' <;> simp [hall, hc]
  · rw [if_neg hall, if_neg fun h => hall h.1]
    rfl

theorem quotesAtEnd_le (t : Text) : quotesAtEnd t ≤ t.length := by
  have hle := (List.takeWhile_sublist (l := t.reverse) (· = '"')).length_le
  rwa [List.length_reverse] at hle

theorem quotesAtEnd_cons_all {c : Char} {t : Text} (h : quotesAtEnd (c :: t) = t.length + 1) :
    c = '"' ∧ quotesAtEnd t = t.length := by
  have hle := quotesAtEnd_le t
  rw [quotesAtEnd_cons] at h
  split_ifs at h with hall
  · exact hall.symm
  · omega

theorem endsInTriples_triple {t : Text} (h : t ≠ []) :
    EndsInTriples ('"' :: '"' :: '"' :: t) ↔ EndsInTriples t := by
  have hle := quotesAtEnd_le t
  have hpos := List.length_pos_iff.mpr h
  simp only [EndsInTriples, quotesAtEnd_cons, List.length_cons, and_true]
  split_ifs <;> omega

theorem endsInTriples_cons {c : Char} {t : Text} (hquote : c = '"' → t ≠ [] ∧ ¬ StartsPair t) :
    EndsInTriples (c :: t) ↔ EndsInTriples t := by
  rw [EndsInTriples, EndsInTriples, quotesAtEnd_cons]
  split_ifs with h
  · obtain ⟨hall, hc⟩ := h
    obtain ⟨hne, hpair⟩ := hquote hc
    -- quotes alone, and no pair of them at the start: there is one
    obtain ⟨d, t, rfl⟩ := List.exists_cons_of_ne_nil hne
    obtain ⟨hd, hrest⟩ := quotesAtEnd_cons_all hall
    have hone : t = [] := by
      by_contra hmore
      obtain ⟨e, t, rfl⟩ := List.exists_cons_of_ne_nil hmore
      have he := (quotesAtEnd_cons_all hrest).1
      exact hpair ⟨congrArg some hd, congrArg some he⟩
    subst hone
    simp [hall]
  · rfl

/-- What a reader makes of a text in a documentation string: the text itself, or, where the
string closes one quote early, the text with a backslash for its last quote and one quote
too many behind it. -/
def readBack (t rest : Text) : Text × Text :=
  if EndsInTriples t then (t.dropLast ++ ['\\'], '"' :: rest) else (t, rest)

theorem readBack_append (before : Text) {t : Text} (h : EndsInTriples (before ++ t) ↔ EndsInTriples t)
    (rest : Text) :
    readBack (before ++ t) rest = (before ++ (readBack t rest).1, (readBack t rest).2) := by
  rw [readBack, readBack]
  by_cases hends : EndsInTriples t
  · have hne : t ≠ [] := by
      rintro rfl
      exact hends.1 rfl
    rw [if_pos hends, if_pos (h.mpr hends), List.dropLast_append_of_ne_nil hne, List.append_assoc]
  · rw [if_neg hends, if_neg (h.not.mpr hends)]

/-- Whatever follows, the string is read up to its own delimiter or one quote short of it. -/
theorem readDocstring_docstring (t rest : Text) :
    readDocstring (docstring t ++ (delimiter ++ rest)) = some (readBack t rest) := by
  induction t using escapeTriples.induct with
  | case1 t ih =>
    by_cases ht : t = []
    · subst ht
      rfl
    · have hback := readBack_append ['"', '"', '"'] (endsInTriples_triple ht) rest
      rw [docstring_triple ht]
      simp only [List.cons_append, List.nil_append, readDocstring, ih] at hback ⊢
      rw [hback]
      rfl
  | case2 c t hno ih =>
    by_cases hslash : c = '\\'
    · subst hslash
      have hback := readBack_append ['\\'] (t := t) (endsInTriples_cons (by simp)) rest
      rw [docstring_slash]
      simp only [List.cons_append, List.nil_append, readDocstring, ih] at hback ⊢
      rw [hback]
      rfl
    by_cases hlast : c = '"' ∧ t = []
    · obtain ⟨rfl, rfl⟩ := hlast
      rfl
    have hquote : c = '"' → t ≠ [] ∧ ¬ StartsPair t := by
      rintro rfl
      refine ⟨fun ht => hlast ⟨rfl, ht⟩, fun hpair => ?_⟩
      obtain ⟨u, rfl⟩ := List.head?_eq_some_iff.mp hpair.1
      obtain ⟨v, rfl⟩ := List.head?_eq_some_iff.mp hpair.2
      exact hno v rfl rfl
    have hback := readBack_append [c] (endsInTriples_cons hquote) rest
    rw [docstring_cons hslash hquote, List.cons_append, readDocstring_plain hslash
      fun hc => not_startsPair_docstring (hquote hc).1 (hquote hc).2 _, ih]
    rw [List.singleton_append] at hback
    rw [hback]
    rfl
  | case3 => rfl

/-- A documentation string at the start of a text: what it stands for, and what follows it. -/
def unquoteDocstring? : Text → Option (Text × Text)
  | '"' :: '"' :: '"' :: rest => readDocstring rest
  | _ => none

/-- A text between two delimiters stands for itself and ends at the second one, if and only if
it does not end in a run of quotes whose number is a multiple of three. -/
theorem docstring_read_back_iff (t : Text) :
    (∀ rest, unquoteDocstring? (delimiter ++ (docstring t ++ (delimiter ++ rest))) =
      some (t, rest)) ↔ ¬ EndsInTriples t := by
  have hread : ∀ rest, unquoteDocstring? (delimiter ++ (docstring t ++ (delimiter ++ rest))) =
      some (readBack t rest) := fun rest => readDocstring_docstring t rest
  constructor
  · intro hback hends
    have hrest := (hread []).symm.trans (hback [])
    rw [readBack, if_pos hends] at hrest
    exact absurd (Prod.mk.inj (Option.some.inj hrest)).2 (List.cons_ne_nil '"' [])
  · intro hends rest
    rw [hread, readBack, if_neg hends]

/-- Three quotes are read as two and a backslash, and a quote is left over. -/
theorem three_quotes_close_early :
    unquoteDocstring? (delimiter ++ (docstring delimiter ++ delimiter)) =
        some ("\"\"\\".toList, "\"".toList) ∧
      unquoteDocstring? (delimiter ++ (docstring delimiter ++ delimiter)) ≠
        some (delimiter, []) := by
  decide

end CatchAll.Target.Python
