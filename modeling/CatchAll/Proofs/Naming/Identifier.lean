import CatchAll.Naming.Case
import CatchAll.Proofs.Text.Lines

/-!
# What an identifier is made of

Conversion to a naming case keeps the letters and digits of a text, in order and
up to letter case, and adds nothing but underscores. So the converted text is
empty only for a text without letters and digits, and is a name otherwise.
-/

set_option autoImplicit false

namespace CatchAll.Naming

open scoped Text

def isNameChar (c : Char) : Bool := c.isAlphanum || c == '_'

/-- Name characters, no digit in front, an underscore in front only before a digit, and
not underscores alone. -/
structure IsName (t : Text) : Prop where
  chars : ∀ c ∈ t, isNameChar c = true
  start : ∀ c, t.head? = some c → c.isDigit = false
  guarded : ∀ rest, t = '_' :: rest → rest.head?.any Char.isDigit = true
  substance : ∃ c ∈ t, c.isAlphanum = true

/-- The letters and digits of the basic alphabet in a text, in small letters. -/
def letters (t : Text) : Text := (t.filter Char.isAlphanum).map Char.toLower

/-! ## Characters -/

theorem isAlphanum_eq (c : Char) : c.isAlphanum = (c.isUpper || c.isLower || c.isDigit) := rfl

theorem toNat_of_isAlphanum {c : Char} (h : c.isAlphanum = true) : c.toNat < 128 := by
  change ((decide (c.val ≥ 'A'.val ∧ c.val ≤ 'Z'.val) ||
    (decide (c.val ≥ 'a'.val) && decide (c.val ≤ 'z'.val))) ||
    (decide (c.val ≥ '0'.val) && decide (c.val ≤ '9'.val))) = true at h
  simp only [Bool.or_eq_true, Bool.and_eq_true, decide_eq_true_eq, ge_iff_le,
    UInt32.le_iff_toNat_le] at h
  show c.val.toNat < 128
  rcases h with (⟨-, h⟩ | ⟨-, h⟩) | ⟨-, h⟩ <;> exact Nat.lt_of_le_of_lt h (by decide)

/-- Letters and digits are few, so a rule about them can be checked one by one. -/
theorem forall_isAlphanum {P : Char → Prop}
    (h : ∀ n < 128, (Char.ofNat n).isAlphanum = true → P (Char.ofNat n)) (c : Char)
    (hc : c.isAlphanum = true) : P c := by
  have hn := h c.toNat (toNat_of_isAlphanum hc)
  rw [Char.ofNat_toNat] at hn
  exact hn hc

theorem toLower_of_isAlphanum (c : Char) (h : c.isAlphanum = true) :
    c.toLower.isAlphanum = true ∧ c.toLower.toLower = c.toLower :=
  forall_isAlphanum (P := fun c => c.toLower.isAlphanum = true ∧ c.toLower.toLower = c.toLower)
    (by decide) c h

theorem toUpper_of_isAlphanum (c : Char) (h : c.isAlphanum = true) :
    c.toUpper.isAlphanum = true ∧ c.toUpper.toLower = c.toLower :=
  forall_isAlphanum (P := fun c => c.toUpper.isAlphanum = true ∧ c.toUpper.toLower = c.toLower)
    (by decide) c h

theorem isAlphanum_of_isDigit {c : Char} (h : c.isDigit = true) : c.isAlphanum = true := by
  rw [isAlphanum_eq, h, Bool.or_true]

theorem toLower_of_isDigit {c : Char} (h : c.isDigit = true) : c.toLower = c :=
  forall_isAlphanum (P := fun c => c.isDigit = true → c.toLower = c) (by decide) c
    (isAlphanum_of_isDigit h) h

theorem isNameChar_of_isAlphanum {c : Char} (h : c.isAlphanum = true) : isNameChar c = true := by
  simp [isNameChar, h]

theorem isNameChar_of_isDigit {c : Char} (h : c.isDigit = true) : isNameChar c = true :=
  isNameChar_of_isAlphanum (isAlphanum_of_isDigit h)

/-! ## Words -/

@[simp] theorem letters_append (t u : Text) : letters (t ++ u) = letters t ++ letters u := by
  simp [letters]

theorem letters_eq_nil {t : Text} : letters t = [] ↔ ∀ c ∈ t, c.isAlphanum = false := by
  simp [letters]

theorem filter_markBreaks (t : Text) :
    (markBreaks t).filter Char.isAlphanum = t.filter Char.isAlphanum := by
  fun_induction markBreaks t with
  | case1 a b rest hbreak ih =>
    have hmark : ¬ '_'.isAlphanum = true := by decide
    rw [List.filter_cons, List.filter_cons_of_neg hmark, ih, ← List.filter_cons]
  | case2 a b rest hbreak ih =>
    rw [List.filter_cons, ih, ← List.filter_cons]
  | case3 t hshort => rfl

theorem flatten_words (t : Text) : (words t).flatten = letters t := by
  have hlower : lowerWord = List.map Char.toLower := rfl
  rw [words, hlower, ← List.map_flatten, List.flatten_filter_ne_nil, Text.flatten_cut, letters,
    ← filter_markBreaks t]
  simp

/-- Words are never empty and hold small letters and digits alone. -/
def AreWords (ws : List Text) : Prop :=
  ∀ w ∈ ws, w ≠ [] ∧ ∀ c ∈ w, c.isAlphanum = true ∧ c.toLower = c

theorem areWords_cons {w : Text} {ws : List Text} (h : AreWords (w :: ws)) : AreWords ws :=
  fun v hv => h v (List.mem_cons_of_mem w hv)

theorem word_ne_nil {t w : Text} (h : w ∈ words t) : w ≠ [] := by
  obtain ⟨p, hp, rfl⟩ := List.mem_map.mp h
  have hne := (List.mem_filter.mp hp).2
  simpa [lowerWord] using hne

theorem word_chars {t w : Text} (h : w ∈ words t) :
    ∀ c ∈ w, c.isAlphanum = true ∧ c.toLower = c := by
  intro c hc
  have hmem : c ∈ letters t := by
    rw [← flatten_words]
    exact List.mem_flatten.mpr ⟨w, h, hc⟩
  obtain ⟨d, hd, rfl⟩ := List.mem_map.mp hmem
  exact toLower_of_isAlphanum d (List.mem_filter.mp hd).2

theorem areWords_words (t : Text) : AreWords (words t) :=
  fun _ hw => ⟨word_ne_nil hw, word_chars hw⟩

theorem words_eq_nil (t : Text) : words t = [] ↔ ∀ c ∈ t, c.isAlphanum = false := by
  rw [← letters_eq_nil, ← flatten_words]
  constructor
  · intro h
    rw [h, List.flatten_nil]
  · intro h
    rw [List.flatten_eq_nil_iff] at h
    cases hw : words t with
    | nil => rfl
    | cons w ws =>
      have hmem : w ∈ words t := by simp [hw]
      exact absurd (h w hmem) (word_ne_nil hmem)

/-! ## Writing words -/

theorem letters_of_word {w : Text} (h : ∀ c ∈ w, c.isAlphanum = true ∧ c.toLower = c) :
    letters w = w := by
  rw [letters, List.filter_eq_self.mpr fun c hc => (h c hc).1,
    List.map_congr_left (g := id) fun c hc => (h c hc).2, List.map_id]

theorem capitalize_chars {w : Text} (h : ∀ c ∈ w, c.isAlphanum = true) :
    ∀ c ∈ capitalize w, c.isAlphanum = true := by
  cases w with
  | nil => exact h
  | cons d rest =>
    intro c hc
    rcases List.mem_cons.mp hc with rfl | hc
    · exact (toUpper_of_isAlphanum d (h d (by simp))).1
    · exact h c (List.mem_cons_of_mem d hc)

theorem letters_capitalize {w : Text} (h : ∀ c ∈ w, c.isAlphanum = true ∧ c.toLower = c) :
    letters (capitalize w) = w := by
  cases w with
  | nil => rfl
  | cons d rest =>
    obtain ⟨hd, hlow⟩ := h d (by simp)
    obtain ⟨hup, hback⟩ := toUpper_of_isAlphanum d hd
    have hrest := letters_of_word fun c hc => h c (List.mem_cons_of_mem d hc)
    simp only [letters] at hrest
    rw [capitalize, letters, List.filter_cons_of_pos hup, List.map_cons, hback, hlow, hrest]

theorem letters_map_toUpper {t : Text} (h : ∀ c ∈ t, isNameChar c = true) :
    letters (t.map Char.toUpper) = letters t := by
  induction t with
  | nil => rfl
  | cons c t ih =>
    have hrest := ih fun d hd => h d (List.mem_cons_of_mem c hd)
    have hone : letters [c.toUpper] = letters [c] := by
      have hc := h c (by simp)
      simp only [isNameChar, Bool.or_eq_true, beq_iff_eq] at hc
      rcases hc with hc | rfl
      · obtain ⟨hup, hback⟩ := toUpper_of_isAlphanum c hc
        simp [letters, hc, hup, hback]
      · rfl
    rw [List.map_cons, ← List.singleton_append, letters_append, hrest, hone, ← letters_append,
      List.singleton_append]

theorem joinWith_chars {ws : List Text} (h : AreWords ws) :
    ∀ c ∈ Text.joinWith "_" ws, isNameChar c = true := by
  induction ws with
  | nil => simp [Text.joinWith]
  | cons w rest ih =>
    have hw : ∀ c ∈ w, isNameChar c = true :=
      fun c hc => isNameChar_of_isAlphanum ((h w (by simp)).2 c hc).1
    cases rest with
    | nil => simpa [Text.joinWith] using hw
    | cons v rest =>
      intro c hc
      rw [Text.joinWith_cons_cons, List.mem_append, List.mem_append] at hc
      rcases hc with (hc | hc) | hc
      · exact hw c hc
      · have hmark : c = '_' := by simpa using hc
        subst hmark
        rfl
      · exact ih (areWords_cons h) c hc

theorem letters_joinWith {ws : List Text} (h : AreWords ws) :
    letters (Text.joinWith "_" ws) = ws.flatten := by
  induction ws with
  | nil => rfl
  | cons w rest ih =>
    have hw := letters_of_word (h w (by simp)).2
    cases rest with
    | nil => simpa [Text.joinWith] using hw
    | cons v rest =>
      have hmark : letters "_" = [] := by decide
      rw [Text.joinWith_cons_cons, letters_append, letters_append, hw, hmark, ih (areWords_cons h)]
      simp

theorem flatMap_capitalize_chars {ws : List Text} (h : AreWords ws) :
    ∀ c ∈ ws.flatMap capitalize, isNameChar c = true := by
  intro c hc
  obtain ⟨w, hw, hcw⟩ := List.mem_flatMap.mp hc
  exact isNameChar_of_isAlphanum (capitalize_chars (fun d hd => ((h w hw).2 d hd).1) c hcw)

theorem letters_flatMap_capitalize {ws : List Text} (h : AreWords ws) :
    letters (ws.flatMap capitalize) = ws.flatten := by
  induction ws with
  | nil => rfl
  | cons w rest ih =>
    rw [List.flatMap_cons, letters_append, letters_capitalize (h w (by simp)).2,
      ih (areWords_cons h), List.flatten_cons]

theorem write_chars (case : Case) {ws : List Text} (h : AreWords ws) :
    ∀ c ∈ case.write ws, isNameChar c = true := by
  cases case with
  | snake => exact joinWith_chars h
  | screamingSnake =>
    intro c hc
    obtain ⟨d, hd, rfl⟩ := List.mem_map.mp hc
    have hname := joinWith_chars h d hd
    simp only [isNameChar, Bool.or_eq_true, beq_iff_eq] at hname
    rcases hname with hname | rfl
    · exact isNameChar_of_isAlphanum (toUpper_of_isAlphanum d hname).1
    · rfl
  | pascal => exact flatMap_capitalize_chars h
  | camel =>
    cases ws with
    | nil => simp [Case.write]
    | cons w rest =>
      intro c hc
      rcases List.mem_append.mp hc with hc | hc
      · exact isNameChar_of_isAlphanum ((h w (by simp)).2 c hc).1
      · exact flatMap_capitalize_chars (areWords_cons h) c hc

/-- Writing loses no letter and no digit, adds none and keeps their order. -/
theorem letters_write (case : Case) {ws : List Text} (h : AreWords ws) :
    letters (case.write ws) = ws.flatten := by
  cases case with
  | snake => exact letters_joinWith h
  | screamingSnake => exact (letters_map_toUpper (joinWith_chars h)).trans (letters_joinWith h)
  | pascal => exact letters_flatMap_capitalize h
  | camel =>
    cases ws with
    | nil => rfl
    | cons w rest =>
      rw [Case.write, letters_append, letters_of_word (h w (by simp)).2,
        letters_flatMap_capitalize (areWords_cons h), List.flatten_cons]

/-- What is written begins with a letter or a digit of the first word. -/
theorem write_head (case : Case) {ws : List Text} (h : AreWords ws) {c : Char}
    (hc : (case.write ws).head? = some c) : c.isAlphanum = true := by
  cases ws with
  | nil => cases case <;> cases hc
  | cons w rest =>
    obtain ⟨hne, hchars⟩ := h w (by simp)
    obtain ⟨a, w, rfl⟩ := List.exists_cons_of_ne_nil hne
    have ha := (hchars a (by simp)).1
    have hjoin : (Text.joinWith "_" ((a :: w) :: rest)).head? = some a := by
      cases rest with
      | nil => simp [Text.joinWith]
      | cons v rest => rw [Text.joinWith_cons_cons]; rfl
    cases case with
    | snake =>
      rw [Case.write, hjoin] at hc
      exact Option.some.inj hc ▸ ha
    | camel => exact Option.some.inj hc ▸ ha
    | pascal => exact Option.some.inj hc ▸ (toUpper_of_isAlphanum a ha).1
    | screamingSnake =>
      rw [Case.write, List.head?_map, hjoin] at hc
      exact Option.some.inj hc ▸ (toUpper_of_isAlphanum a ha).1

/-! ## Identifiers -/

theorem letters_guardDigit (t : Text) : letters (guardDigit t) = letters t := by
  cases t with
  | nil => rfl
  | cons c rest =>
    have hmark : letters ['_'] = [] := by decide
    rw [guardDigit]
    split
    · rw [← List.singleton_append, letters_append, hmark, List.nil_append]
    · rfl

theorem letters_identifier (case : Case) (t : Text) :
    letters (identifier case t) = letters t := by
  rw [identifier, letters_guardDigit, letters_write case (areWords_words t), flatten_words]

theorem guardDigit_start (t : Text) :
    ∀ c, (guardDigit t).head? = some c → c.isDigit = false := by
  intro c hc
  cases t with
  | nil => simp [guardDigit] at hc
  | cons d rest =>
    rw [guardDigit] at hc
    split at hc
    · obtain rfl : '_' = c := by simpa using hc
      rfl
    · obtain rfl : d = c := by simpa using hc
      simpa using ‹¬ d.isDigit = true›

theorem guardDigit_guarded {t : Text} (h : ∀ c, t.head? = some c → c.isAlphanum = true) :
    ∀ rest, guardDigit t = '_' :: rest → rest.head?.any Char.isDigit = true := by
  intro rest hrest
  cases t with
  | nil => cases hrest
  | cons d t =>
    rw [guardDigit] at hrest
    split at hrest
    · obtain ⟨-, rfl⟩ := List.cons.inj hrest
      assumption
    · obtain ⟨rfl, -⟩ := List.cons.inj hrest
      exact absurd (h '_' rfl) (by decide)

theorem guardDigit_chars {t : Text} (h : ∀ c ∈ t, isNameChar c = true) :
    ∀ c ∈ guardDigit t, isNameChar c = true := by
  cases t with
  | nil => simp [guardDigit]
  | cons d rest =>
    rw [guardDigit]
    split
    · intro c hc
      rcases List.mem_cons.mp hc with rfl | hc
      · rfl
      · exact h c hc
    · exact h

theorem identifier_eq_nil (case : Case) (t : Text) :
    identifier case t = [] ↔ ∀ c ∈ t, c.isAlphanum = false := by
  constructor
  · intro h
    rw [← letters_eq_nil, ← letters_identifier case t, h]
    rfl
  · intro h
    rw [identifier, (words_eq_nil t).mpr h]
    cases case <;> rfl

/-- What a text is converted to is a name, or empty. -/
theorem isName_identifier (case : Case) (t : Text) (h : identifier case t ≠ []) :
    IsName (identifier case t) where
  chars := guardDigit_chars (write_chars case (areWords_words t))
  start := guardDigit_start _
  guarded := guardDigit_guarded fun _ hc => write_head case (areWords_words t) hc
  substance := by
    by_contra hnone
    apply h
    rw [identifier_eq_nil, ← letters_eq_nil, ← letters_identifier case t, letters_eq_nil]
    intro c hc
    by_contra halnum
    exact hnone ⟨c, hc, by simpa using halnum⟩

theorem IsName.append {t u : Text} (h : IsName t) (hu : ∀ c ∈ u, isNameChar c = true) :
    IsName (t ++ u) where
  chars := fun c hc => (List.mem_append.mp hc).elim (h.chars c) (hu c)
  start := by
    obtain ⟨c, hc, -⟩ := h.substance
    have hne : t ≠ [] := List.ne_nil_of_mem hc
    intro d hd
    rw [List.head?_append_of_ne_nil _ hne] at hd
    exact h.start d hd
  guarded := by
    intro rest hrest
    obtain ⟨c, hc, -⟩ := h.substance
    obtain ⟨d, t, rfl⟩ := List.exists_cons_of_ne_nil (List.ne_nil_of_mem hc)
    obtain ⟨rfl, rfl⟩ := List.cons.inj hrest
    have hdigit := h.guarded t rfl
    cases t with
    | nil => cases hdigit
    | cons e t => exact hdigit
  substance := by
    obtain ⟨c, hc, halnum⟩ := h.substance
    exact ⟨c, List.mem_append_left u hc, halnum⟩

theorem IsName.ne_nil {t : Text} (h : IsName t) : t ≠ [] := by
  obtain ⟨c, hc, -⟩ := h.substance
  exact List.ne_nil_of_mem hc

end CatchAll.Naming
