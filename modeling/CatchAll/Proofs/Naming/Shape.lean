import CatchAll.Proofs.Naming.FreshRuns

/-!
# The shape of an identifier

In snake case an identifier is words of small letters and digits with single underscores
between them, and what the other cases write can be told from it. An underscore in front
keeps a digit from the start. No case loses a letter or a digit of the text, adds one or
changes their order. A sanitizer that was used before converts a text like that as well,
unless a request was made that clashes with it.
-/

set_option autoImplicit false

namespace CatchAll.Naming

open scoped Text
open Sanitizer

/-- Small letters and digits, one at least. -/
def IsWord (w : Text) : Prop := w ≠ [] ∧ ∀ c ∈ w, (c.isLower || c.isDigit) = true

/-- A word, and any number of words with an underscore before each. -/
def IsSnake (t : Text) : Prop :=
  ∃ (first : Text) (rest : List Text), IsWord first ∧ (∀ w ∈ rest, IsWord w) ∧
    t = first ++ rest.flatMap ('_' :: ·)

/-- A word with a capital at its start. A digit stays as it is. -/
def titled : Text → Text
  | [] => []
  | c :: rest => c.toUpper :: lowerWord rest

/-- What a case makes of a text in snake case. -/
def Case.ofSnake : Case → Text → Text
  | .snake, t => t
  | .screamingSnake, t => t.map Char.toUpper
  | .pascal, t => (Text.cut (· == '_') t).flatMap titled
  | .camel, t => (Text.cut (· == '_') t).head?.getD [] ++
      (Text.cut (· == '_') t).tail.flatMap titled

/-! ## Words -/

theorem isLower_or_isDigit {c : Char} (h : c.isAlphanum = true) (hlow : c.toLower = c) :
    (c.isLower || c.isDigit) = true :=
  forall_isAlphanum (P := fun c => c.toLower = c → (c.isLower || c.isDigit) = true)
    (by decide) c h hlow

theorem isWord_of_mem {ws : List Text} (h : AreWords ws) {w : Text} (hw : w ∈ ws) : IsWord w :=
  ⟨(h w hw).1, fun c hc => isLower_or_isDigit ((h w hw).2 c hc).1 ((h w hw).2 c hc).2⟩

theorem joinWith_cons_eq (w : Text) (ws : List Text) :
    Text.joinWith "_" (w :: ws) = w ++ ws.flatMap ('_' :: ·) := by
  induction ws generalizing w with
  | nil => simp [Text.joinWith]
  | cons v ws ih =>
    rw [Text.joinWith_cons_cons, ih, List.flatMap_cons, List.append_assoc]
    rfl

theorem isSnake_joinWith {ws : List Text} (h : AreWords ws) (hne : ws ≠ []) :
    IsSnake (Text.joinWith "_" ws) := by
  obtain ⟨w, ws, rfl⟩ := List.exists_cons_of_ne_nil hne
  exact ⟨w, ws, isWord_of_mem h List.mem_cons_self,
    fun v hv => isWord_of_mem h (List.mem_cons_of_mem w hv), joinWith_cons_eq w ws⟩

theorem IsSnake.chars {t : Text} (h : IsSnake t) :
    ∀ c ∈ t, c = '_' ∨ (c.isLower || c.isDigit) = true := by
  obtain ⟨first, rest, hfirst, hrest, rfl⟩ := h
  intro c hc
  rcases List.mem_append.mp hc with hc | hc
  · exact Or.inr (hfirst.2 c hc)
  · obtain ⟨w, hw, hc⟩ := List.mem_flatMap.mp hc
    rcases List.mem_cons.mp hc with rfl | hc
    · exact Or.inl rfl
    · exact Or.inr ((hrest w hw).2 c hc)

theorem lowerWord_of_word {w : Text} (h : ∀ c ∈ w, c.isAlphanum = true ∧ c.toLower = c) :
    lowerWord w = w :=
  (List.map_congr_left fun c hc => (h c hc).2).trans (List.map_id w)

theorem titled_of_word {w : Text} (h : ∀ c ∈ w, c.isAlphanum = true ∧ c.toLower = c) :
    titled w = capitalize w := by
  cases w with
  | nil => rfl
  | cons c w => rw [titled, capitalize, lowerWord_of_word fun d hd => h d (List.mem_cons_of_mem c hd)]

/-! ## The cases -/

theorem cut_joinWith_words {ws : List Text} (h : AreWords ws) (hne : ws ≠ []) :
    Text.cut (· == '_') (Text.joinWith "_" ws) = ws := by
  apply Text.cut_joinWith hne
  intro w hw hmem
  exact absurd ((h w hw).2 '_' hmem).1 (by decide)

theorem flatMap_titled {ws : List Text} (h : AreWords ws) :
    ws.flatMap titled = ws.flatMap capitalize := by
  rw [List.flatMap_def, List.flatMap_def, List.map_congr_left fun w hw => titled_of_word (h w hw).2]

/-- The cases differ in what they make of the snake case alone. -/
theorem write_eq_ofSnake (case : Case) {ws : List Text} (h : AreWords ws) (hne : ws ≠ []) :
    case.write ws = case.ofSnake (Text.joinWith "_" ws) := by
  cases case with
  | snake => rfl
  | screamingSnake => rfl
  | pascal => rw [Case.ofSnake, cut_joinWith_words h hne, flatMap_titled h, Case.write]
  | camel =>
    obtain ⟨w, ws, rfl⟩ := List.exists_cons_of_ne_nil hne
    rw [Case.ofSnake, cut_joinWith_words h hne, List.tail_cons, flatMap_titled (areWords_cons h),
      Case.write]
    rfl

theorem mark_not_mem_flatMap {ws : List Text} (h : AreWords ws) :
    '_' ∉ ws.flatMap capitalize := by
  intro hmem
  obtain ⟨w, hw, hc⟩ := List.mem_flatMap.mp hmem
  exact absurd (capitalize_chars (fun d hd => ((h w hw).2 d hd).1) '_' hc) (by decide)

/-- Capitals do without underscores. -/
theorem mark_not_mem_write {case : Case} (hcase : case = .pascal ∨ case = .camel) {ws : List Text}
    (h : AreWords ws) : '_' ∉ case.write ws := by
  rcases hcase with rfl | rfl
  · exact mark_not_mem_flatMap h
  · cases ws with
    | nil => exact List.not_mem_nil
    | cons w ws =>
      rw [Case.write, List.mem_append, not_or]
      refine ⟨fun hmem => ?_, mark_not_mem_flatMap (areWords_cons h)⟩
      exact absurd ((h w List.mem_cons_self).2 '_' hmem).1 (by decide)

/-! ## Identifiers -/

theorem guardDigit_eq (t : Text) :
    guardDigit t = if t.head?.any Char.isDigit then '_' :: t else t := by
  cases t with
  | nil => rfl
  | cons c t => rfl

/-- In a name all but the underscores are letters and digits. -/
theorem filter_marks {t : Text} (h : ∀ c ∈ t, isNameChar c = true) :
    t.filter (· ≠ '_') = t.filter Char.isAlphanum := by
  refine List.filter_congr fun c hc => ?_
  have hname := h c hc
  simp only [isNameChar, Bool.or_eq_true, beq_iff_eq] at hname
  rcases hname with halnum | rfl
  · rw [halnum, decide_eq_true_iff]
    rintro rfl
    exact absurd halnum (by decide)
  · rfl

/-- What a text is converted to, where `snake` is what its words are in snake case. -/
structure Shaped (case : Case) (snake t converted : Text) : Prop where
  guarded : converted = if (case.ofSnake snake).head?.any Char.isDigit
    then '_' :: case.ofSnake snake else case.ofSnake snake
  unmarked : case = .pascal ∨ case = .camel → '_' ∉ case.ofSnake snake
  kept : (converted.filter (· ≠ '_')).map Char.toLower =
    (t.filter Char.isAlphanum).map Char.toLower

theorem shaped_identifier (case : Case) {t : Text} (h : words t ≠ []) :
    Shaped case (Text.joinWith "_" (words t)) t (identifier case t) where
  guarded := by rw [identifier, guardDigit_eq, write_eq_ofSnake case (areWords_words t) h]
  unmarked := by
    intro hcase
    rw [← write_eq_ofSnake case (areWords_words t) h]
    exact mark_not_mem_write hcase (areWords_words t)
  kept := by
    rw [identifier, filter_marks (guardDigit_chars (write_chars case (areWords_words t)))]
    exact letters_identifier case t

/-! ## Conversions that were made before -/

theorem words_ne_nil {t : Text} (h : ∃ c ∈ t, c.isAlphanum = true) : words t ≠ [] := by
  obtain ⟨c, hc, halnum⟩ := h
  rw [Ne, words_eq_nil]
  intro hnone
  rw [hnone c hc] at halnum
  cases halnum

theorem convert_known (s : Sanitizer) (p : Request) :
    ∀ e ∈ (s.convert p.1 p.2).2.known,
      e ∈ s.known ∨ e = (key p.1 p.2, identifier p.2 p.1) := by
  intro e he
  rw [convert] at he
  split at he
  · exact Or.inl he
  · exact (List.mem_cons.mp he).symm

/-- A call remembers the conversion of its own request at most. -/
theorem answer_known (s : Sanitizer) (call : Call) :
    ∀ e ∈ (s.answer call).2.known,
      e ∈ s.known ∨ ∃ p ∈ call.request?, e = (key p.1 p.2, identifier p.2 p.1) := by
  have hderive (t : Text) (case : Case) (suffix : Text) :
      (s.derive t case suffix).2.known = (s.convert t case).2.known := claim?_known _ suffix _
  have hmade {t : Text} {case : Case} {e : Text × Text} (he : e ∈ (s.convert t case).2.known) :
      e ∈ s.known ∨ ∃ p ∈ some (t, case), e = (key p.1 p.2, identifier p.2 p.1) :=
    (convert_known s (t, case) e he).imp_right fun h => ⟨(t, case), rfl, h⟩
  intro e he
  cases call with
  | derive t case suffix => exact hmade (hderive t case suffix ▸ he)
  | sanitize t case suffix =>
    refine hmade ?_
    rw [← hderive t case suffix]
    have hknown : (s.sanitize t case suffix).2.known = (s.derive t case suffix).2.known := by
      rw [sanitize]
      split <;> simp [*, claim_known]
    rw [← hknown]
    exact he
  | add name => exact Or.inl (addUsed_known s name ▸ he)
  | reset => exact absurd he List.not_mem_nil

/-- However often a sanitizer was asked, what it remembers are conversions of requests. -/
theorem recalls_after (v : Vocabulary) (calls : List Call) :
    Recalls (calls.filterMap Call.request?) ((ofVocabulary v).after calls) := by
  induction calls using List.reverseRecOn with
  | nil => exact fun _ he => absurd he List.not_mem_nil
  | append_singleton calls call ih =>
    intro e he
    rw [after_concat] at he
    rcases answer_known _ call e he with hold | ⟨p, hp, hentry⟩
    · obtain ⟨q, hq, hentry⟩ := ih e hold
      exact ⟨q, by simp [hq], hentry⟩
    · refine ⟨p, ?_, hentry⟩
      rw [List.filterMap_append, List.mem_append]
      exact Or.inr (List.mem_filterMap.mpr ⟨call, List.mem_singleton.mpr rfl, hp⟩)

/-- A text with a letter or a digit has one form in snake case, and whatever a sanitizer was
asked before, it converts the text to what the case makes of this form, unless one of the
requests clashes with this one. -/
theorem converted_shape {t : Text} (h : ∃ c ∈ t, c.isAlphanum = true) :
    ∃ snake, IsSnake snake ∧ ∀ (case : Case) (v : Vocabulary) (calls : List Call),
      (∀ q ∈ calls.filterMap Call.request?, ¬ Clash q (t, case)) →
      Shaped case snake t (((ofVocabulary v).after calls).convert t case).1 := by
  have hwords := words_ne_nil h
  refine ⟨Text.joinWith "_" (words t), isSnake_joinWith (areWords_words t) hwords, ?_⟩
  intro case v calls hfree
  obtain ⟨s', hconvert, -⟩ := (recalls_after v calls).convert hfree
  rw [hconvert]
  exact shaped_identifier case hwords

/-- A digit in front, an acronym before a word, and a character of another alphabet, asked for
a second time in one of the cases. -/
theorem mixed_text_shaped :
    (∃ c ∈ "2nd HTTPServer-é3".toList, c.isAlphanum = true) ∧
    ∃ snake, IsSnake snake ∧
      Shaped .snake snake "2nd HTTPServer-é3" "_2nd_http_server_3" ∧
      Shaped .camel snake "2nd HTTPServer-é3" "_2ndHttpServer3" := by
  have hsome : ∃ c ∈ "2nd HTTPServer-é3".toList, c.isAlphanum = true := ⟨'2', by decide, by decide⟩
  obtain ⟨snake, hsnake, hshaped⟩ := converted_shape hsome
  have hmarked := hshaped .snake ⟨[], []⟩ [] (by decide)
  have hcapital := hshaped .camel ⟨[], []⟩ [.derive "2nd HTTPServer-é3" .camel "_"] (by decide)
  exact ⟨hsome, snake, hsnake, hmarked, hcapital⟩

end CatchAll.Naming
