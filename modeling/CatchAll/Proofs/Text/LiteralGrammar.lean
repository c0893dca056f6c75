import CatchAll.Proofs.Text.Lines
import CatchAll.Proofs.Text.Literal

/-!
# The grammar of literals

What stands between the quotes of a literal spells a text: each character is itself or
an escape, and an escape is a backslash, a mark that the language gives a meaning, and
the code that the mark asks for. The grammar is unambiguous, although nothing separates
one escape from the next, since a mark says where its code ends. A literal that has no
bare quote and no line end inside is read as the text it spells, and a way to write
texts is faithful when every character is written by a piece that spells it.
-/

set_option autoImplicit false

namespace CatchAll.Text.Literal

open scoped Text

/-! ## Escapes -/

/-- Hexadecimal digits that write the code of a character. -/
def IsCode (digits : Text) (c : Char) : Prop :=
  (∀ d ∈ digits, isHexDigit d = true) ∧ hexNumber digits = c.toNat

/-- What follows the mark of an escape that stands for a character. -/
def Escape.Stands : Escape → Text → Char → Prop
  | char d, body, c => body = [] ∧ d = c
  | digits width, body, c => 0 < width ∧ body.length = width ∧ IsCode body c
  | braced, body, c =>
    ∃ code, body = '{' :: code ++ ['}'] ∧ 1 ≤ code.length ∧ code.length ≤ 6 ∧ IsCode code c

theorem IsCode.unique {digits : Text} {c d : Char} (h : IsCode digits c) (h' : IsCode digits d) :
    c = d := by
  have hcodes : c.toNat = d.toNat := h.2.symm.trans h'.2
  rw [← Char.ofNat_toNat c, hcodes, Char.ofNat_toNat]

theorem takeWhile_code {digits : Text} {c : Char} (h : IsCode digits c) (rest : Text) :
    (digits ++ '}' :: rest).takeWhile isHexDigit = digits := by
  have hbrace : ¬ isHexDigit '}' = true := by decide
  rw [List.takeWhile_append_of_pos h.1, List.takeWhile_cons_of_neg hbrace, List.append_nil]

/-- Where an escape ends is known from its mark. -/
theorem Escape.Stands.unique {e : Escape} {body body' rest rest' : Text} {c c' : Char}
    (h : e.Stands body c) (h' : e.Stands body' c') (heq : body ++ rest = body' ++ rest') :
    c = c' ∧ rest = rest' := by
  cases e with
  | char d =>
    obtain ⟨rfl, rfl⟩ := h
    obtain ⟨rfl, rfl⟩ := h'
    exact ⟨rfl, heq⟩
  | digits width =>
    obtain ⟨-, hlength, hcode⟩ := h
    obtain ⟨-, hlength', hcode'⟩ := h'
    obtain ⟨rfl, hrest⟩ := List.append_inj heq (hlength.trans hlength'.symm)
    exact ⟨hcode.unique hcode', hrest⟩
  | braced =>
    obtain ⟨code, rfl, -, -, hcode⟩ := h
    obtain ⟨code', rfl, -, -, hcode'⟩ := h'
    simp only [List.cons_append, List.append_assoc, List.nil_append, List.cons.injEq,
      true_and] at heq
    have hsame : code = code' := by
      rw [← takeWhile_code hcode rest, heq, takeWhile_code hcode']
    subst hsame
    exact ⟨hcode.unique hcode', (List.cons.inj (List.append_cancel_left heq)).2⟩

/-! ## Texts -/

/-- The inside of a literal and the text it stands for. -/
inductive Spells (escapes : Escapes) : Text → Text → Prop
  | nil : Spells escapes [] []
  | itself {c : Char} {inside t : Text} :
      c ≠ '\\' → Spells escapes inside t → Spells escapes (c :: inside) (c :: t)
  | escape {mark c : Char} {e : Escape} {body inside t : Text} :
      escapes mark = some e → e.Stands body c → Spells escapes inside t →
      Spells escapes ('\\' :: mark :: (body ++ inside)) (c :: t)

variable {escapes : Escapes} {inside t u : Text}

theorem Spells.eq_of_eq {inside' : Text} (h : Spells escapes inside t)
    (h' : Spells escapes inside' u) (heq : inside = inside') : t = u := by
  induction h generalizing inside' u with
  | nil =>
    cases h' with
    | nil => rfl
    | itself => cases heq
    | escape => cases heq
  | itself hc _ ih =>
    cases h' with
    | nil => cases heq
    | itself _ hrest =>
      obtain ⟨rfl, hinside⟩ := List.cons.inj heq
      rw [ih hrest hinside]
    | escape => exact absurd (List.cons.inj heq).1 hc
  | escape hmark hbody _ ih =>
    cases h' with
    | nil => cases heq
    | itself hc => exact absurd (List.cons.inj heq).1.symm hc
    | escape hmark' hbody' hrest =>
      obtain ⟨rfl, hcode⟩ := List.cons.inj (List.cons.inj heq).2
      rw [hmark] at hmark'
      obtain rfl := Option.some.inj hmark'
      obtain ⟨rfl, hinside⟩ := hbody.unique hbody' hcode
      rw [ih hrest hinside]

/-- The inside of a literal spells one text at most. -/
theorem Spells.unique (h : Spells escapes inside t) (h' : Spells escapes inside u) : t = u :=
  h.eq_of_eq h' rfl

/-! ## Quotes and line ends -/

/-- A double quote that no backslash stands for. A backslash takes the character after it
with it, which is said by the flag. -/
def bareQuote : Bool → Text → Bool
  | _, [] => false
  | true, _ :: rest => bareQuote false rest
  | false, c :: rest => c == '"' || bareQuote (c == '\\') rest

def isLineEnd (c : Char) : Bool := c == '\n' || c == '\r'

theorem isLineEnd_iff {c : Char} : isLineEnd c = false ↔ c ≠ '\n' ∧ c ≠ '\r' := by
  simp [isLineEnd]

/-- A character that a literal can hold as it is. -/
def isPlain (c : Char) : Bool := c != '"' && c != '\\' && !isLineEnd c

theorem isPlain_iff {c : Char} :
    isPlain c = true ↔ (c ≠ '"' ∧ c ≠ '\\') ∧ isLineEnd c = false := by
  simp [isPlain]

theorem isPlain_of_isHexDigit {d : Char} (h : isHexDigit d = true) : isPlain d = true := by
  rw [isPlain_iff, isLineEnd_iff]
  refine ⟨⟨?_, ?_⟩, ?_, ?_⟩
  all_goals
    rintro rfl
    exact absurd h (by decide)

theorem bareQuote_append {piece : Text} (h : ∀ c ∈ piece, isPlain c = true) (rest : Text) :
    bareQuote false (piece ++ rest) = bareQuote false rest := by
  induction piece with
  | nil => rfl
  | cons c piece ih =>
    obtain ⟨hc, hpiece⟩ := List.forall_mem_cons.mp h
    obtain ⟨⟨hquote, hslash⟩, -⟩ := isPlain_iff.mp hc
    rw [List.cons_append, bareQuote, beq_false_of_ne hquote, beq_false_of_ne hslash, ih hpiece]
    rfl

theorem Escape.Stands.plain {e : Escape} {body : Text} {c : Char} (h : e.Stands body c) :
    ∀ d ∈ body, isPlain d = true := by
  cases e with
  | char =>
    obtain ⟨rfl, -⟩ := h
    exact fun d hd => absurd hd List.not_mem_nil
  | digits =>
    obtain ⟨-, -, hcode, -⟩ := h
    exact fun d hd => isPlain_of_isHexDigit (hcode d hd)
  | braced =>
    obtain ⟨code, rfl, -, -, hcode, -⟩ := h
    rw [List.forall_mem_append, List.forall_mem_cons, List.forall_mem_singleton]
    exact ⟨⟨by decide, fun d hd => isPlain_of_isHexDigit (hcode d hd)⟩, by decide⟩

/-! ## The reader -/

theorem read_escape {mark c : Char} {e : Escape} {body : Text} (hmark : escapes mark = some e)
    (hbody : e.Stands body c) (tail : Text) :
    read escapes .plain ('\\' :: mark :: (body ++ tail)) =
      prepend c (read escapes .plain tail) := by
  cases e with
  | char =>
    obtain ⟨rfl, rfl⟩ := hbody
    simp [read, hmark]
  | digits width =>
    obtain ⟨hwidth, rfl, hdigits, hvalue⟩ := hbody
    have hread := read_digits escapes hdigits (List.length_pos_iff.mp hwidth) 0 tail hvalue
    simpa [read, hmark] using hread
  | braced =>
    obtain ⟨code, rfl, hsome, hroom, hdigits, hvalue⟩ := hbody
    have hread := read_braced escapes hdigits 0 0 (by omega) (by omega) tail hvalue
    simpa [read, hmark] using hread

/-- The reader follows the grammar up to the quote that closes the literal. -/
theorem Spells.read (h : Spells escapes inside t) (hquote : bareQuote false inside = false)
    (hline : ∀ c ∈ inside, isLineEnd c = false) (rest : Text) :
    read escapes .plain (inside ++ '"' :: rest) = some (t, rest) := by
  induction h with
  | nil => simp [Literal.read]
  | @itself c inside t hc _ ih =>
    obtain ⟨hhere, hinside⟩ := List.forall_mem_cons.mp hline
    rw [bareQuote, beq_false_of_ne hc, Bool.or_eq_false_iff, beq_eq_false_iff_ne] at hquote
    have hstep : Literal.read escapes .plain (c :: (inside ++ '"' :: rest)) =
        prepend c (Literal.read escapes .plain (inside ++ '"' :: rest)) := by
      simp [Literal.read, hquote.1, hc, isLineEnd_iff.mp hhere]
    rw [List.cons_append, hstep, ih hquote.2 hinside]
    rfl
  | @escape mark c e body inside t hmark hbody _ ih =>
    rw [List.forall_mem_cons, List.forall_mem_cons, List.forall_mem_append] at hline
    have hrest : bareQuote false (body ++ inside) = false := hquote
    rw [bareQuote_append hbody.plain] at hrest
    rw [List.cons_append, List.cons_append, List.append_assoc, read_escape hmark hbody,
      ih hrest hline.2.2.2]
    rfl

/-! ## Writing -/

/-- A piece of a literal that is one character, whatever stands behind it. -/
structure Piece (escapes : Escapes) (piece : Text) (c : Char) : Prop where
  spells : ∀ {inside t : Text}, Spells escapes inside t → Spells escapes (piece ++ inside) (c :: t)
  guarded : ∀ rest, bareQuote false (piece ++ rest) = bareQuote false rest
  sameLine : ∀ d ∈ piece, isLineEnd d = false

theorem piece_itself {c : Char} (h : isPlain c = true) : Piece escapes [c] c where
  spells := Spells.itself (isPlain_iff.mp h).1.2
  guarded := bareQuote_append (List.forall_mem_singleton.mpr h)
  sameLine := List.forall_mem_singleton.mpr (isPlain_iff.mp h).2

theorem piece_escape {mark c : Char} {e : Escape} {body : Text} (hmark : escapes mark = some e)
    (hbody : e.Stands body c) (hline : isLineEnd mark = false) :
    Piece escapes ('\\' :: mark :: body) c where
  spells := Spells.escape hmark hbody
  guarded := fun rest => bareQuote_append hbody.plain rest
  sameLine := by
    rw [List.forall_mem_cons, List.forall_mem_cons]
    exact ⟨rfl, hline, fun d hd => (isPlain_iff.mp (hbody.plain d hd)).2⟩

theorem piece_letter {mark c : Char} (hmark : escapes mark = some (.char c))
    (hline : isLineEnd mark = false) : Piece escapes ['\\', mark] c :=
  piece_escape hmark ⟨rfl, rfl⟩ hline

theorem piece_hex {mark c : Char} {width : Nat} (hmark : escapes mark = some (.digits width))
    (hline : isLineEnd mark = false) (hwidth : 0 < width) (hc : c.toNat < Nat.pow 16 width) :
    Piece escapes ('\\' :: mark :: hex width c.toNat) c :=
  piece_escape hmark ⟨hwidth, length_hex hwidth hc, fun _ => isHexDigit_of_mem_hex,
    hexNumber_hex width c.toNat⟩ hline

theorem piece_braced {mark c : Char} (hmark : escapes mark = some .braced)
    (hline : isLineEnd mark = false) :
    Piece escapes ('\\' :: mark :: ('{' :: Nat.toDigits 16 c.toNat ++ ['}'])) c := by
  have hbound : c.toNat < 16 ^ 6 := Nat.lt_trans (toNat_lt c) (by decide)
  have hroom := (Nat.length_toDigits_le_iff (b := 16) (by decide) (by decide)).mpr hbound
  exact piece_escape hmark ⟨_, rfl, Nat.length_toDigits_pos, hroom,
    fun _ => isHexDigit_of_mem_toDigits, hexNumber_toDigits c.toNat⟩ hline

/-- A literal with every character escaped in the same way. -/
def enclosed (escape : Char → Text) (t : Text) : Text := '"' :: t.flatMap escape ++ ['"']

/-- Every text is between two quotes on one line, without another quote that would end it,
and is the only one that its literal spells. -/
structure Faithful (escapes : Escapes) (literal : Text → Text) : Prop where
  quoted : ∀ t, ∃ inside, literal t = '"' :: inside ++ ['"'] ∧
    bareQuote false inside = false ∧ (∀ c ∈ inside, c ≠ '\n' ∧ c ≠ '\r') ∧
    ∀ u, Spells escapes inside u ↔ u = t
  injective : Function.Injective literal
  oneLine : ∀ t, cut isLineEnd (literal t) = [literal t]

variable {escape : Char → Text}

section

variable (h : ∀ c, Piece escapes (escape c) c)
include h

theorem spells_flatMap (t : Text) : Spells escapes (t.flatMap escape) t := by
  induction t with
  | nil => exact .nil
  | cons c t ih => exact (h c).spells ih

theorem bareQuote_flatMap (t : Text) : bareQuote false (t.flatMap escape) = false := by
  induction t with
  | nil => rfl
  | cons c t ih => rw [List.flatMap_cons, (h c).guarded, ih]

theorem not_isLineEnd_flatMap (t : Text) : ∀ c ∈ t.flatMap escape, isLineEnd c = false := by
  intro d hd
  obtain ⟨c, -, hmem⟩ := List.mem_flatMap.mp hd
  exact (h c).sameLine d hmem

theorem unquote?_enclosed (t rest : Text) :
    unquote? escapes (enclosed escape t ++ rest) = some (t, rest) := by
  have hread := (spells_flatMap h t).read (bareQuote_flatMap h t) (not_isLineEnd_flatMap h t) rest
  simpa [enclosed, unquote?] using hread

theorem not_isLineEnd_enclosed (t : Text) : ∀ c ∈ enclosed escape t, isLineEnd c = false := by
  rw [enclosed, List.forall_mem_append, List.forall_mem_cons, List.forall_mem_singleton]
  exact ⟨⟨rfl, not_isLineEnd_flatMap h t⟩, rfl⟩

theorem enclosed_injective : Function.Injective (enclosed escape) := by
  intro t u htu
  have hread := unquote?_enclosed h t []
  rw [htu, unquote?_enclosed h u] at hread
  exact (congrArg Prod.fst (Option.some.inj hread)).symm

theorem faithful_enclosed : Faithful escapes (enclosed escape) where
  quoted := fun t => ⟨t.flatMap escape, rfl, bareQuote_flatMap h t,
    fun c hc => isLineEnd_iff.mp (not_isLineEnd_flatMap h t c hc),
    fun _ => ⟨fun hu => hu.unique (spells_flatMap h t), fun hu => hu ▸ spells_flatMap h t⟩⟩
  injective := enclosed_injective h
  oneLine := by
    intro t
    rw [cut_eq_splitOnP]
    exact List.splitOnP_eq_singleton fun c hc => by simp [not_isLineEnd_enclosed h t c hc]

end

end CatchAll.Text.Literal
