import CatchAll.Proofs.Naming.Division
import CatchAll.Proofs.Naming.Spelling

/-!
# Words marked in passes

Snake case is described as a few substitutions, one after the other: an underscore before
each capital that follows a small letter or a digit, then one before the last of several
capitals that a small letter follows, then one underscore for each run of them. A pass goes
from left to right, takes as much as it can and does not look again at what it has matched,
and each pass reads what the pass before has written. On texts of letters, digits,
underscores and hyphens this is the division into words.
-/

set_option autoImplicit false

namespace CatchAll.Naming

open scoped Text
open Text (pieces)

/-! ## Substitutions -/

/-- What is put in place of a match at the start of a text, and the length of the match. -/
abbrev Rule := Text → Option (Text × Nat)

namespace Rule

/-- A pass over a text, where the first characters belong to a match and are skipped. -/
def applyFrom (rule : Rule) : Nat → Text → Text
  | _, [] => []
  | skip + 1, _ :: t => rule.applyFrom skip t
  | 0, c :: t =>
    match rule (c :: t) with
    | some (new, length) => new ++ rule.applyFrom (length - 1) t
    | none => c :: rule.applyFrom 0 t

def apply (rule : Rule) (t : Text) : Text := rule.applyFrom 0 t

end Rule

/-- A small letter or a digit, and a capital. -/
def capitalRule : Rule
  | a :: b :: _ =>
    if (a.isLower || a.isDigit) && b.isUpper then some ([a, '_', b], 2) else none
  | _ => none

/-- A capital and a small letter. -/
def beginsTitle : Text → Bool
  | a :: b :: _ => a.isUpper && b.isLower
  | _ => false

/-- Capitals with a capital and a small letter after them, as many of them as there can be. -/
def acronym? : Text → Option Text
  | [] => none
  | a :: t =>
    if a.isUpper then
      match acronym? t with
      | some more => some (a :: more)
      | none => if beginsTitle t then some [a] else none
    else none

def acronymRule : Rule := fun t =>
  (acronym? t).map fun acronym =>
    (acronym ++ '_' :: (t.drop acronym.length).take 2, acronym.length + 2)

def isUnderscore (c : Char) : Bool := c == '_'

/-- A run of underscores. -/
def marksRule : Rule := fun t =>
  let run := t.takeWhile isUnderscore
  if run = [] then none else some (['_'], run.length)

/-- Hyphens are underscores. -/
def underscored (c : Char) : Char := if c = '-' then '_' else c

/-- Snake case in passes. -/
def snakePasses (t : Text) : Text :=
  let marked := acronymRule.apply (capitalRule.apply (t.map underscored))
  let single := marksRule.apply (marked.map Char.toLower)
  Text.dropEndWhile isUnderscore (single.dropWhile isUnderscore)

/-! ## What a pass does -/

namespace Rule

variable {rule : Rule}

@[simp] theorem apply_nil (rule : Rule) : rule.apply [] = [] := rfl

theorem applyFrom_eq_drop (rule : Rule) (skip : Nat) (t : Text) :
    rule.applyFrom skip t = rule.apply (t.drop skip) := by
  induction t generalizing skip with
  | nil => simp [applyFrom]
  | cons c t ih =>
    cases skip with
    | zero => rfl
    | succ skip => exact ih skip

theorem apply_of_none {c : Char} {t : Text} (h : rule (c :: t) = none) :
    rule.apply (c :: t) = c :: rule.apply t := by
  rw [apply, applyFrom, h]
  rfl

theorem apply_of_some {t new : Text} {length : Nat} (hne : t ≠ []) (hlength : 0 < length)
    (h : rule t = some (new, length)) : rule.apply t = new ++ rule.apply (t.drop length) := by
  obtain ⟨c, t, rfl⟩ := List.exists_cons_of_ne_nil hne
  obtain ⟨n, rfl⟩ := Nat.exists_eq_succ_of_ne_zero (Nat.ne_of_gt hlength)
  rw [apply, applyFrom, h]
  exact congrArg (new ++ ·) (applyFrom_eq_drop rule n t)

/-- A pass is told by what it does at a match and at a place without one. -/
theorem apply_eq {f : Text → Text} (hnil : f [] = [])
    (hsome : ∀ t new length, rule t = some (new, length) →
      t ≠ [] ∧ 0 < length ∧ f t = new ++ f (t.drop length))
    (hnone : ∀ c t, rule (c :: t) = none → f (c :: t) = c :: f t) (t : Text) :
    rule.apply t = f t := by
  induction hn : t.length using Nat.strongRecOn generalizing t with
  | _ n ih =>
    cases hmatch : rule t with
    | some made =>
      obtain ⟨hne, hlength, hf⟩ := hsome t made.1 made.2 hmatch
      have hshort : (t.drop made.2).length < n := by
        have hpos := List.length_pos_of_ne_nil hne
        rw [List.length_drop]
        omega
      rw [apply_of_some hne hlength hmatch, ih _ hshort _ rfl, hf]
    | none =>
      cases t with
      | nil => exact hnil.symm
      | cons c t =>
        have hshort : t.length < n := by
          rw [← hn, List.length_cons]
          omega
        rw [apply_of_none hmatch, ih _ hshort _ rfl, hnone c t hmatch]

end Rule

/-! ## Marks that depend on what is next to them -/

/-- An underscore behind each character where the test says so. -/
def markWhere (test : Char → Text → Bool) : Text → Text
  | [] => []
  | c :: t => c :: ((if test c t then ['_'] else []) ++ markWhere test t)

def beforeCapital (c : Char) (t : Text) : Bool :=
  (c.isLower || c.isDigit) && t.head?.any Char.isUpper

def beforeTitle (c : Char) (t : Text) : Bool := c.isUpper && beginsTitle t

theorem markWhere_of_false {test : Char → Text → Bool} {c : Char} {t : Text}
    (h : test c t = false) : markWhere test (c :: t) = c :: markWhere test t := by
  rw [markWhere, h]
  rfl

/-! ## The pass over capitals -/

theorem isUpper_spec {c : Char} (h : c.isUpper = true) : c.isLower = false ∧ c.isDigit = false :=
  forall_isAlphanum (P := fun c => c.isUpper = true → c.isLower = false ∧ c.isDigit = false)
    (by decide) c (by simp [isAlphanum_eq, h]) h

theorem not_beforeCapital_of_isUpper {c : Char} (h : c.isUpper = true) (t : Text) :
    beforeCapital c t = false := by
  obtain ⟨hlower, hdigit⟩ := isUpper_spec h
  simp [beforeCapital, hlower, hdigit]

/-- What follows a capital that was matched is looked at as if nothing was before it: a
capital does not divide from the capital behind it. -/
theorem capitalRule_apply (t : Text) : capitalRule.apply t = markWhere beforeCapital t := by
  apply Rule.apply_eq rfl
  · intro t new length h
    match t with
    | [] => cases h
    | [a] => cases h
    | a :: b :: rest =>
      rw [capitalRule] at h
      split at h
      · rename_i hbreak
        obtain ⟨rfl, rfl⟩ := Prod.mk.inj (Option.some.inj h)
        have hcapital := (Bool.and_eq_true_iff.mp hbreak).2
        have hfirst : beforeCapital a (b :: rest) = true := hbreak
        refine ⟨List.cons_ne_nil _ _, by decide, ?_⟩
        rw [markWhere, if_pos hfirst, markWhere_of_false (not_beforeCapital_of_isUpper hcapital _)]
        rfl
      · cases h
  · intro c t h
    apply markWhere_of_false
    cases t with
    | nil => simp [beforeCapital]
    | cons b rest =>
      rw [capitalRule] at h
      split at h
      · cases h
      · rename_i hbreak
        exact Bool.eq_false_iff.mpr hbreak

/-! ## The pass over acronyms -/

theorem not_beforeTitle_of_isLower {c : Char} (h : c.isUpper = false) (t : Text) :
    beforeTitle c t = false := by
  simp [beforeTitle, h]

theorem acronym?_eq_some {t acronym : Text} (h : acronym? t = some acronym) :
    ∃ b d rest, t = acronym ++ b :: d :: rest ∧ acronym ≠ [] ∧
      (∀ c ∈ acronym, c.isUpper = true) ∧ b.isUpper = true ∧ d.isLower = true := by
  induction t generalizing acronym with
  | nil => cases h
  | cons a t ih =>
    rw [acronym?] at h
    split at h
    · rename_i ha
      split at h
      · rename_i more hmore
        obtain rfl := Option.some.inj h
        obtain ⟨b, d, rest, rfl, -, hchars, hb, hd⟩ := ih hmore
        exact ⟨b, d, rest, rfl, List.cons_ne_nil a more, List.forall_mem_cons.mpr ⟨ha, hchars⟩,
          hb, hd⟩
      · split at h
        · rename_i htitle
          obtain rfl := Option.some.inj h
          match t, htitle with
          | b :: d :: rest, htitle =>
            obtain ⟨hb, hd⟩ := Bool.and_eq_true_iff.mp htitle
            exact ⟨b, d, rest, rfl, List.cons_ne_nil a [], List.forall_mem_singleton.mpr ha, hb, hd⟩
        · cases h
    · cases h

theorem beforeTitle_of_none {c : Char} {t : Text} (h : acronym? (c :: t) = none) :
    beforeTitle c t = false := by
  rw [Bool.eq_false_iff]
  intro htitle
  obtain ⟨hc, hbegins⟩ := Bool.and_eq_true_iff.mp htitle
  rw [acronym?, if_pos hc] at h
  split at h
  · cases h
  · rw [if_pos hbegins] at h
    cases h

/-- In an acronym only the last capital is before a word. -/
theorem markWhere_acronym {acronym rest : Text} {b d : Char} (hne : acronym ≠ [])
    (hchars : ∀ c ∈ acronym, c.isUpper = true) (hb : b.isUpper = true) (hd : d.isLower = true) :
    markWhere beforeTitle (acronym ++ b :: d :: rest) =
      acronym ++ '_' :: b :: d :: markWhere beforeTitle rest := by
  induction acronym with
  | nil => exact absurd rfl hne
  | cons a acronym ih =>
    obtain ⟨ha, hchars⟩ := List.forall_mem_cons.mp hchars
    cases acronym with
    | nil =>
      have hsmall : d.isUpper = false := (isLower_spec hd).1
      have hlast : beforeTitle a (b :: d :: rest) = true := by simp [beforeTitle, beginsTitle, ha, hb, hd]
      have htitle : beforeTitle b (d :: rest) = false := by
        cases rest <;> simp [beforeTitle, beginsTitle, hsmall]
      rw [List.singleton_append, markWhere, if_pos hlast, markWhere_of_false htitle,
        markWhere_of_false (not_beforeTitle_of_isLower hsmall rest)]
      rfl
    | cons a' acronym =>
      have hinner : beforeTitle a (a' :: acronym ++ b :: d :: rest) = false := by
        have hnext : ∀ c, (acronym ++ b :: d :: rest).head? = some c → c.isLower = false := by
          intro c hc
          cases acronym with
          | nil =>
            obtain rfl : b = c := Option.some.inj hc
            exact (isUpper_spec hb).1
          | cons e acronym =>
            obtain rfl : e = c := Option.some.inj hc
            exact (isUpper_spec (hchars e (by simp))).1
        rw [beforeTitle, List.cons_append]
        cases hrest : acronym ++ b :: d :: rest with
        | nil => simp [beginsTitle]
        | cons c more => simp [beginsTitle, hnext c (by rw [hrest]; rfl)]
      rw [List.cons_append, markWhere_of_false hinner, ih (List.cons_ne_nil _ _) hchars]
      rfl

theorem acronymRule_apply (t : Text) : acronymRule.apply t = markWhere beforeTitle t := by
  apply Rule.apply_eq rfl
  · intro t new length h
    rw [acronymRule, Option.map_eq_some_iff] at h
    obtain ⟨acronym, hacronym, hmade⟩ := h
    obtain ⟨rfl, rfl⟩ := Prod.mk.inj hmade
    obtain ⟨b, d, rest, rfl, hne, hchars, hb, hd⟩ := acronym?_eq_some hacronym
    refine ⟨by simp, by omega, ?_⟩
    rw [markWhere_acronym hne hchars hb hd, ← List.drop_drop, List.drop_left]
    simp
  · intro c t h
    rw [acronymRule, Option.map_eq_none_iff] at h
    exact markWhere_of_false (beforeTitle_of_none h)

/-! ## Both passes mark where words begin -/

theorem breaksAt_eq (c : Char) (t : Text) : breaksAt c t = (beforeCapital c t || beforeTitle c t) := by
  match t with
  | [] => simp [breaksAt, beforeCapital, beforeTitle, beginsTitle]
  | [b] => simp [breaksAt, breaksBetween, beforeCapital, beforeTitle, beginsTitle]
  | b :: d :: rest =>
    simp [breaksAt, breaksBetween, beforeCapital, beforeTitle, beginsTitle, Bool.and_assoc]

/-- The first pass puts nothing behind a capital. -/
theorem beginsTitle_markWhere (t : Text) :
    beginsTitle (markWhere beforeCapital t) = beginsTitle t := by
  match t with
  | [] => rfl
  | [b] => simp [markWhere, beforeCapital, beginsTitle]
  | b :: d :: rest =>
    by_cases hb : b.isUpper = true
    · rw [markWhere_of_false (not_beforeCapital_of_isUpper hb _), markWhere]
      rfl
    · rw [markWhere, markWhere]
      split <;> simp [beginsTitle, hb]

theorem markWhere_markWhere (t : Text) :
    markWhere beforeTitle (markWhere beforeCapital t) = markBreaks t := by
  induction t with
  | nil => rfl
  | cons c t ih =>
    rw [markWhere, markBreaks_cons, breaksAt_eq]
    by_cases hcapital : beforeCapital c t = true
    · have hsmall : c.isUpper = false := by
        rw [Bool.eq_false_iff]
        intro hc
        rw [not_beforeCapital_of_isUpper hc] at hcapital
        cases hcapital
      have hmark : '_'.isUpper = false := rfl
      rw [if_pos hcapital, hcapital, Bool.true_or, if_pos rfl, List.singleton_append,
        markWhere_of_false (not_beforeTitle_of_isLower hsmall _),
        markWhere_of_false (not_beforeTitle_of_isLower hmark _), ih]
      rfl
    · have htitle : beforeTitle c (markWhere beforeCapital t) = beforeTitle c t := by
        rw [beforeTitle, beginsTitle_markWhere, beforeTitle]
      rw [if_neg hcapital, eq_false_of_ne_true hcapital, Bool.false_or, List.nil_append, markWhere,
        htitle, ih]

/-! ## Hyphens -/

theorem underscored_class (c : Char) : (underscored c).isUpper = c.isUpper ∧
    (underscored c).isLower = c.isLower ∧ (underscored c).isDigit = c.isDigit := by
  rw [underscored]
  split
  · rename_i h
    subst h
    decide
  · exact ⟨rfl, rfl, rfl⟩

theorem breaksAt_underscored (c : Char) (t : Text) :
    breaksAt (underscored c) (t.map underscored) = breaksAt c t := by
  cases t with
  | nil => rfl
  | cons b rest =>
    cases rest <;> simp [breaksAt, breaksBetween, underscored_class]

theorem markBreaks_underscored (t : Text) :
    markBreaks (t.map underscored) = (markBreaks t).map underscored := by
  induction t with
  | nil => rfl
  | cons c t ih =>
    rw [List.map_cons, markBreaks_cons, markBreaks_cons, breaksAt_underscored, ih]
    split <;> simp [underscored]

/-! ## Runs of underscores -/

theorem isUnderscore_eq_false {c : Char} : isUnderscore c = false ↔ c ≠ '_' := by
  simp [isUnderscore]

theorem marksRule_mark (t : Text) :
    marksRule.apply ('_' :: t) = '_' :: marksRule.apply (t.dropWhile isUnderscore) := by
  have hmark : isUnderscore '_' = true := rfl
  have hrun : marksRule ('_' :: t) = some (['_'], (t.takeWhile isUnderscore).length + 1) := by
    simp [marksRule, hmark]
  have hdrop : t.drop (t.takeWhile isUnderscore).length = t.dropWhile isUnderscore :=
    calc t.drop (t.takeWhile isUnderscore).length
        = (t.takeWhile isUnderscore ++ t.dropWhile isUnderscore).drop
            (t.takeWhile isUnderscore).length := by rw [List.takeWhile_append_dropWhile]
      _ = t.dropWhile isUnderscore := List.drop_left
  rw [Rule.apply_of_some (List.cons_ne_nil _ _) (Nat.succ_pos _) hrun, List.drop_succ_cons, hdrop]
  rfl

variable {c d : Char}

theorem marksRule_other (h : isUnderscore c = false) (t : Text) :
    marksRule.apply (c :: t) = c :: marksRule.apply t := by
  apply Rule.apply_of_none
  simp [marksRule, h]

theorem dropWhile_other (h : isUnderscore c = false) (t : Text) :
    (c :: t).dropWhile isUnderscore = c :: t :=
  List.dropWhile_cons_of_neg (Bool.eq_false_iff.mp h)

/-- Underscores in front may be left out before the runs are made single. -/
theorem dropWhile_marksRule (t : Text) :
    (marksRule.apply t).dropWhile isUnderscore = marksRule.apply (t.dropWhile isUnderscore) := by
  induction t with
  | nil => rfl
  | cons c t ih =>
    by_cases hc : c = '_'
    · subst hc
      rw [marksRule_mark, List.dropWhile_cons_of_pos rfl, List.dropWhile_cons_of_pos rfl]
      cases hrest : t.dropWhile isUnderscore with
      | nil => rfl
      | cons d rest =>
        have hd := List.head?_dropWhile_not isUnderscore t
        rw [hrest] at hd
        rw [marksRule_other hd, dropWhile_other hd]
    · have hc := isUnderscore_eq_false.mpr hc
      rw [marksRule_other hc, dropWhile_other hc, dropWhile_other hc, marksRule_other hc]

/-- A text with single underscores, and none on either side. -/
def trimmed (t : Text) : Text :=
  Text.dropEndWhile isUnderscore ((marksRule.apply t).dropWhile isUnderscore)

theorem trimmed_mark (t : Text) : trimmed ('_' :: t) = trimmed t := by
  rw [trimmed, trimmed, dropWhile_marksRule, dropWhile_marksRule, List.dropWhile_cons_of_pos rfl]

theorem trimmed_single (hc : isUnderscore c = false) : trimmed [c] = [c] := by
  rw [trimmed, marksRule_other hc, dropWhile_other hc, Text.dropEndWhile_cons]
  simp [hc, Text.dropEndWhile]

theorem trimmed_cons_mark (hc : isUnderscore c = false) (t : Text) :
    trimmed (c :: '_' :: t) = c :: (if trimmed t = [] then [] else '_' :: trimmed t) := by
  have hmark : isUnderscore '_' = true := rfl
  rw [trimmed, marksRule_other hc, dropWhile_other hc, marksRule_mark, Text.dropEndWhile_cons,
    Text.dropEndWhile_cons, ← dropWhile_marksRule, ← trimmed]
  by_cases hempty : trimmed t = [] <;> simp [hempty, hc, hmark]

theorem trimmed_cons_cons (hc : isUnderscore c = false) (hd : isUnderscore d = false)
    (t : Text) : trimmed (c :: d :: t) = c :: trimmed (d :: t) := by
  have hne : Text.dropEndWhile isUnderscore (d :: marksRule.apply t) ≠ [] := by
    rw [Text.dropEndWhile_cons]
    split <;> simp [hd]
  rw [trimmed, trimmed, marksRule_other hc, marksRule_other hd, dropWhile_other hc,
    dropWhile_other hd, Text.dropEndWhile_cons _ c, if_neg hne]

theorem joinWith_cons_char (c : Char) (w : Text) (ws : List Text) :
    Text.joinWith "_" ((c :: w) :: ws) = c :: Text.joinWith "_" (w :: ws) := by
  cases ws with
  | nil => simp [Text.joinWith]
  | cons v ws => simp [Text.joinWith_cons_cons]

/-- What is left are the pieces between runs of underscores, joined by one each. -/
theorem trimmed_eq (t : Text) : trimmed t = Text.joinWith "_" (pieces isUnderscore t) := by
  induction t using List.twoStepInduction with
  | nil => rfl
  | singleton c =>
    by_cases hc : c = '_'
    · subst hc
      rfl
    · have hc := isUnderscore_eq_false.mpr hc
      rw [trimmed_single hc, Text.pieces_cons_of_ends hc (by simp)]
      rfl
  | cons_cons c d t ih ihd =>
    by_cases hc : c = '_'
    · subst hc
      rw [trimmed_mark, Text.pieces_cons_of_pos rfl, ihd]
    · have hc := isUnderscore_eq_false.mpr hc
      by_cases hd : d = '_'
      · subst hd
        have hends : ∀ e, ('_' :: t).head? = some e → isUnderscore e = true :=
          fun e he => Option.some.inj he ▸ rfl
        rw [trimmed_cons_mark hc, ih, Text.pieces_cons_of_ends hc hends,
          Text.pieces_cons_of_pos rfl]
        cases hpieces : pieces isUnderscore t with
        | nil => rfl
        | cons w ws =>
          have hmem : w ∈ pieces isUnderscore t := by simp [hpieces]
          obtain ⟨e, w, rfl⟩ := List.exists_cons_of_ne_nil (Text.ne_nil_of_mem_pieces hmem)
          rw [Text.joinWith_cons_cons, joinWith_cons_char, if_neg (List.cons_ne_nil _ _)]
          rfl
      · have hd := isUnderscore_eq_false.mpr hd
        rw [trimmed_cons_cons hc hd, ihd, Text.pieces_cons_cons hc hd]
        obtain ⟨w, ws, hpieces⟩ := Text.exists_pieces_cons hd t
        rw [hpieces, List.modifyHead_cons, joinWith_cons_char c]

/-! ## The passes divide a text into words -/

theorem mem_markBreaks {t : Text} {c : Char} (h : c ∈ markBreaks t) : c ∈ t ∨ c = '_' := by
  induction t with
  | nil => cases h
  | cons a t ih =>
    rw [markBreaks_cons] at h
    rcases List.mem_cons.mp h with rfl | h
    · exact .inl List.mem_cons_self
    · rcases List.mem_append.mp h with h | h
      · split at h
        · exact .inr (List.mem_singleton.mp h)
        · cases h
      · exact (ih h).imp_left (List.mem_cons_of_mem a)

/-- Letters, digits, underscores and hyphens. -/
def IsCleaned (t : Text) : Prop := ∀ c ∈ t, c.isAlphanum = true ∨ c = '_' ∨ c = '-'

instance (t : Text) : Decidable (IsCleaned t) :=
  decidable_of_iff (t.all (fun c => c.isAlphanum || c == '_' || c == '-') = true)
    (by simp [IsCleaned, List.all_eq_true, or_assoc])

theorem isUnderscore_lowered {c : Char} (h : c.isAlphanum = true ∨ c = '_' ∨ c = '-') :
    isUnderscore (underscored c).toLower = !c.isAlphanum := by
  rcases h with h | rfl | rfl
  · rw [h]
    exact forall_isAlphanum (P := fun c => isUnderscore (underscored c).toLower = false)
      (by decide) c h
  · rfl
  · rfl

theorem underscored_of_isAlphanum {c : Char} (h : c.isAlphanum = true) : underscored c = c := by
  rw [underscored, if_neg]
  rintro rfl
  exact absurd h (by decide)

theorem snakePasses_eq {t : Text} (h : IsCleaned t) :
    snakePasses t = Text.joinWith "_" ((parts t).map lowerWord) := by
  have hchars : ∀ c ∈ markBreaks t,
      isUnderscore ((Char.toLower ∘ underscored) c) = !c.isAlphanum := by
    intro c hc
    apply isUnderscore_lowered
    rcases mem_markBreaks hc with hc | rfl
    · exact h c hc
    · exact .inr (.inl rfl)
  have hwords : (parts t).map (List.map (Char.toLower ∘ underscored)) = (parts t).map lowerWord := by
    refine List.map_congr_left fun w hw => List.map_congr_left fun c hc => ?_
    have halnum : c.isAlphanum = true := by simpa using Text.not_of_mem_piece hw c hc
    rw [Function.comp, underscored_of_isAlphanum halnum]
  rw [snakePasses, capitalRule_apply, acronymRule_apply, markWhere_markWhere,
    markBreaks_underscored, List.map_map, ← trimmed, trimmed_eq, Text.pieces_map hchars, ← parts,
    hwords]

/-- A text of letters, digits, underscores and hyphens is divided into words in one way, at
runs of underscores and hyphens and where the letters show a boundary. The passes join these
words, in small letters, by single underscores, and so does the conversion. -/
theorem snake_passes_divide {t : Text} (h : IsCleaned t) :
    (∀ ws, Divided t ws ↔ ws = parts t) ∧
    snakePasses t = Text.joinWith "_" ((parts t).map lowerWord) ∧
    Case.snake.write (words t) = snakePasses t :=
  ⟨divided_iff t, snakePasses_eq h, (snakePasses_eq h).symm⟩

/-- Acronyms before a word and after one, digits on both sides of a capital, and a run of
separators. -/
theorem acronyms_divided :
    IsCleaned "parseXMLHttp2Go-_v3ID" ∧
    Divided "parseXMLHttp2Go-_v3ID" ["parse".toList, "XML".toList, "Http2".toList, "Go".toList,
      "v3".toList, "ID".toList] ∧
    snakePasses "parseXMLHttp2Go-_v3ID" = "parse_xml_http2_go_v3_id" ∧
    Case.snake.write (words "parseXMLHttp2Go-_v3ID") = "parse_xml_http2_go_v3_id" := by
  have hcleaned : IsCleaned "parseXMLHttp2Go-_v3ID" := by decide
  obtain ⟨hdivided, hpasses, hwritten⟩ := snake_passes_divide hcleaned
  have hjoined : Text.joinWith "_" ((parts "parseXMLHttp2Go-_v3ID").map lowerWord) =
      ("parse_xml_http2_go_v3_id" : Text) := by decide
  exact ⟨hcleaned, (hdivided _).mpr (by decide), hpasses.trans hjoined,
    hwritten.trans (hpasses.trans hjoined)⟩

end CatchAll.Naming
