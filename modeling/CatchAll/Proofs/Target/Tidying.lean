import CatchAll.Proofs.Target.Runs

/-!
# What tidying leaves alone

Tidying a module takes blanks from the ends of its lines and drops empty lines. A
line that ends in a character which shows loses nothing, so lines like that which
stand one below the other in the code of an enum do so in the module.
-/

set_option autoImplicit false

namespace CatchAll

open scoped Text

namespace Text

/-- A line that ends in a character that shows. -/
def Tight (line : Text) : Prop := ∃ before c, line = before ++ [c] ∧ isBlank c = false

theorem tight_concat (before : Text) {c : Char} (hc : isBlank c = false) :
    Tight (before ++ [c]) := ⟨before, c, rfl, hc⟩

theorem tight_of_getLast {line : Text} {c : Char} (h : line.getLast? = some c)
    (hc : isBlank c = false) : Tight line := by
  obtain ⟨before, rfl⟩ := List.getLast?_eq_some_iff.mp h
  exact tight_concat before hc

theorem Tight.append {line : Text} (h : Tight line) (before : Text) : Tight (before ++ line) := by
  obtain ⟨init, c, rfl, hc⟩ := h
  exact ⟨before ++ init, c, (List.append_assoc ..).symm, hc⟩

theorem Tight.stripEnd {line : Text} (h : Tight line) : stripEnd line = line := by
  obtain ⟨before, c, rfl, hc⟩ := h
  exact stripEnd_append before hc []

theorem Tight.shown {line : Text} (h : Tight line) : allBlank line = false := by
  obtain ⟨before, c, rfl, hc⟩ := h
  rw [allBlank, List.all_append, List.all_cons, hc, Bool.false_and, Bool.and_false]

/-- Each of several paragraphs keeps its lines. -/
theorem lines_infix_of_mem {t : Text} {paragraphs : List Text} (h : t ∈ paragraphs) :
    lines t <:+: lines (joinWith "\n\n" paragraphs) := by
  induction paragraphs with
  | nil => cases h
  | cons first rest ih =>
    cases rest with
    | nil =>
      obtain rfl := List.mem_singleton.mp h
      exact ⟨[], [], by simp [joinWith]⟩
    | cons second rest =>
      have hlines : lines (joinWith "\n\n" (first :: second :: rest)) =
          lines first ++ [] :: lines (joinWith "\n\n" (second :: rest)) := by
        rw [joinWith_cons_cons, List.append_assoc, lines_paragraph]
      rw [hlines]
      obtain rfl | h := List.mem_cons.mp h
      · exact (List.prefix_append _ _).isInfix
      · exact (ih h).trans (List.suffix_append_of_suffix (List.suffix_cons _ _)).isInfix

end Text

namespace Generator

open Schema Target Outcome
open Target.Rust (tidyLines_shown tidyLines_blank)

theorem tidyLines_append (ls rest : List Text) (blanks : Nat) :
    ∃ blanks', tidyLines blanks (ls ++ rest) = tidyLines blanks ls ++ tidyLines blanks' rest := by
  induction ls generalizing blanks with
  | nil => exact ⟨blanks, rfl⟩
  | cons line ls ih =>
    rw [List.cons_append]
    cases hline : Text.allBlank line with
    | false =>
      obtain ⟨blanks', h⟩ := ih 0
      exact ⟨blanks', by rw [tidyLines_shown hline, tidyLines_shown hline, h, List.cons_append]⟩
    | true =>
      obtain ⟨blanks', h⟩ := ih (blanks + 1)
      refine ⟨blanks', ?_⟩
      rw [tidyLines_blank hline, tidyLines_blank hline, h]
      split <;> rfl

theorem tidyLines_of_tight {block : List Text} (h : ∀ l ∈ block, Text.Tight l) (blanks : Nat) :
    tidyLines blanks block = block := by
  induction block generalizing blanks with
  | nil => rfl
  | cons line block ih =>
    obtain ⟨hline, hblock⟩ := List.forall_mem_cons.mp h
    rw [tidyLines_shown hline.shown, hline.stripEnd, ih hblock]

theorem infix_tidyLines {block ls : List Text} (hblock : ∀ l ∈ block, Text.Tight l)
    (h : block <:+: ls) (blanks : Nat) : block <:+: tidyLines blanks ls := by
  obtain ⟨before, after, rfl⟩ := h
  obtain ⟨blanks₁, hbefore⟩ := tidyLines_append (before ++ block) after blanks
  obtain ⟨blanks₂, hmiddle⟩ := tidyLines_append before block blanks
  rw [hbefore, hmiddle, tidyLines_of_tight hblock]
  exact ⟨_, _, rfl⟩

variable {g : Generator} {enums : List Definition}

/-- Whatever the code of an enum has in tight lines stands in the module as it is. -/
theorem tight_lines_kept (hending : g.plan.config.lineEnding = .str ['\n']) {code : Text}
    {warnings : List Text} {metadata : Metadata} {register register' : Register} {j j' : Journal}
    (h : ((g.run enums).run register).run j =
      ((.success code warnings metadata, register'), j')) {d : Definition} (hd : d ∈ enums) :
    ∃ body register j register' j',
      (g.backend.single g.plan d).run register j = ((.ok body, register'), j') ∧
      ∀ block, (∀ l ∈ block, Text.Tight l) → block <:+: Text.lines body →
        block <:+: Text.lines code := by
  obtain ⟨bodies, ⟨before, after, hformat⟩, hbodies⟩ := bodies_of_success h
  rw [format_eq hending] at hformat
  obtain rfl := Except.ok.inj hformat
  obtain ⟨body, hbody, register, j, register', j', hsingle⟩ := exists_of_forall₂ hbodies d hd
  refine ⟨body, register, j, register', j', hsingle, fun block htight hblock => ?_⟩
  rw [Target.Rust.lines_tidied]
  refine infix_tidyLines htight (hblock.trans ?_) 0
  have hparts : body ∈ before ++ bodies ++ after := by simp [hbody]
  refine (Text.lines_infix_of_mem hparts).trans ?_
  show _ <:+: Text.lines (_ ++ '\n' :: [])
  rw [Text.lines_append_lineFeed]
  exact (List.prefix_append _ _).isInfix

end Generator

end CatchAll
