import CatchAll.Proofs.TypeClashes

/-!
# The parts of a module

A module is its parts with an empty line between them: a header, the code of each
enum, what the enums share and a footer. What the enums share is the wrapper if there
is an enum, and nothing if there is none. Since no part shares a line with another one,
whatever is read line by line is read from the parts one after the other.
-/

set_option autoImplicit false

namespace CatchAll.Target

open scoped Text

/-- What a reader of single lines finds in a text. -/
def readLines {α : Type} (read : Text → Option α) (t : Text) : List α :=
  (Text.lines t).filterMap read

/-- A line below the margin is empty or begins with a blank. -/
theorem head?_of_inside {unit line : Text} (hne : unit ≠ []) (hmargin : Python.IsMargin unit)
    (h : Writer.Inside unit line) {c : Char} (hc : Text.isIndent c = false) :
    line.head? ≠ some c := by
  intro hhead
  rcases h.1 with rfl | ⟨rest, rfl⟩
  · cases hhead
  · rw [List.head?_append_of_ne_nil _ hne] at hhead
    rw [hmargin c (List.mem_of_head? hhead)] at hc
    cases hc

variable {α : Type} {read : Text → Option α}

theorem readLines_nil (h : read [] = none) : readLines read [] = [] := by
  show List.filterMap read [[]] = []
  rw [List.filterMap_cons_none h, List.filterMap_nil]

theorem readLines_append_lineFeed (t u : Text) :
    readLines read (t ++ '\n' :: u) = readLines read t ++ readLines read u := by
  rw [readLines, Text.lines_append_lineFeed, List.filterMap_append]
  rfl

theorem readLines_eq_nil {t : Text} (h : ∀ l ∈ Text.lines t, read l = none) :
    readLines read t = [] :=
  List.filterMap_eq_nil_iff.mpr h

/-- One line is read, and nothing above or below it. -/
theorem readLines_one {t line : Text} {above below : List Text} {a : α}
    (hlines : Text.lines t = above ++ line :: below) (hline : read line = some a)
    (habove : ∀ l ∈ above, read l = none) (hbelow : ∀ l ∈ below, read l = none) :
    readLines read t = [a] := by
  rw [readLines, hlines, List.filterMap_append, List.filterMap_eq_nil_iff.mpr habove,
    List.filterMap_cons_some hline, List.filterMap_eq_nil_iff.mpr hbelow, List.nil_append]

theorem readLines_paragraph (h : read [] = none) (t u : Text) :
    readLines read (t ++ ("\n\n".toList ++ u)) = readLines read t ++ readLines read u := by
  rw [readLines, Text.lines_paragraph, List.filterMap_append, List.filterMap_cons_none h]
  rfl

/-- Parts are read one after the other. -/
theorem readLines_parts (h : read [] = none) (parts : List Text) :
    readLines read (Text.joinWith "\n\n" parts ++ "\n") = parts.flatMap (readLines read) := by
  have hend (t : Text) : readLines read (t ++ "\n".toList) = readLines read t := by
    rw [show "\n".toList = '\n' :: [] from rfl, readLines_append_lineFeed, readLines_nil h,
      List.append_nil]
  induction parts with
  | nil => exact (hend []).trans (readLines_nil h)
  | cons t rest ih =>
    cases rest with
    | nil =>
      rw [List.flatMap_singleton, ← hend t]
      simp [Text.joinWith]
    | cons u rest =>
      rw [Text.joinWith_cons_cons, List.append_assoc, List.append_assoc, readLines_paragraph h, ih]
      rfl

/-- The last part is at the end of a module. -/
theorem lines_last_part (parts : List Text) (t : Text) : ∃ before,
    Text.lines (Text.joinWith "\n\n" (parts ++ [t]) ++ "\n") = before ++ (Text.lines t ++ [[]]) := by
  induction parts with
  | nil =>
    refine ⟨[], ?_⟩
    rw [List.nil_append, List.nil_append, show "\n".toList = '\n' :: [] from rfl,
      Text.lines_append_lineFeed]
    simp [Text.joinWith]
    rfl
  | cons u rest ih =>
    obtain ⟨before, hbefore⟩ := ih
    obtain ⟨v, more, hmore⟩ := List.exists_cons_of_ne_nil (l := rest ++ [t]) (by simp)
    refine ⟨Text.lines u ++ [] :: before, ?_⟩
    rw [List.cons_append, hmore, Text.joinWith_cons_cons, ← hmore, List.append_assoc,
      List.append_assoc, Text.lines_paragraph, hbefore, List.append_assoc]
    rfl

end CatchAll.Target

namespace CatchAll.Generator

open scoped Text
open Schema Target Outcome Emission

/-- What a module is put together from. -/
structure Assembly where
  header : Text
  bodies : List Text
  shared : Register
  footer : Text

variable {g : Generator} {enums : List Definition}

namespace Assembly

variable (a : Assembly)

def parts (g : Generator) : List Text :=
  part a.header ++ a.bodies ++ a.shared.definitions g.module.shown ++ part a.footer

/-- Each part is what the language gives for it; the footer is made when the enums have left
their definitions. -/
structure Of (g : Generator) (enums : List Definition) (code : Text) : Prop where
  header : Gives (g.backend.header g.plan) a.header
  bodies : List.Forall₂ (fun d body => Gives (g.backend.single g.plan d) body) enums a.bodies
  shared : g.SharesOwn enums a.shared
  footer : ∃ j register' j',
    (g.backend.footer g.plan enums).run a.shared j = ((.ok a.footer, register'), j')
  code_eq : code = Text.joinWith "\n\n" (a.parts g) ++ "\n"

end Assembly

/-- A module that is written is put together from its parts. -/
theorem exists_assembly {config : Config} (hb : g.backend.IsNative)
    (hp : g.backend.Plans config g.plan) {code : Text} {register register' : Register}
    {j j' : Journal} (h : (g.generate enums).run register j = ((.ok code, register'), j')) :
    ∃ a : Assembly, a.Of g enums code := by
  obtain ⟨_, start, _, hset, h⟩ := run_bind_ok.mp h
  cases hset
  obtain ⟨_, _, _, hnote, h⟩ := run_bind_ok.mp h
  cases hnote
  obtain ⟨header, opened, _, hheader, h⟩ := run_bind_ok.mp h
  have hopened : opened = [] :=
    Backend.leaves_header (P := (· = [])) hb g.plan _ _ _ _ _ rfl hheader
  obtain ⟨bodies, shared, _, hbodies, h⟩ := run_bind_ok.mp h
  have hshared := leaves_singles hb hp enums _ _ _ _ _ hopened hbodies
  obtain ⟨_, _, _, hget, h⟩ := run_bind_ok.mp h
  cases hget
  obtain ⟨footer, _, _, hfooter, h⟩ := run_bind_ok.mp h
  obtain ⟨rfl, -, -⟩ := run_pure_ok.mp h
  exact ⟨⟨header, bodies, shared, footer⟩, ⟨_, _, _, _, hheader⟩, singles_ok hbodies, hshared,
    ⟨_, _, _, hfooter⟩, rfl⟩

/-- The definitions that enums share: one text of the wrapper if there is an enum. -/
theorem SharesOwn.definitions {register : Register} (h : g.SharesOwn enums register) :
    if enums = [] then register.definitions g.module.shown = []
    else ∃ source, g.plan.Wraps source ∧ register.definitions g.module.shown = [source] := by
  rw [SharesOwn] at h
  split at h
  · rw [if_pos ‹_›, h]
    rfl
  · obtain ⟨source, hsource, rfl⟩ := h
    rw [if_neg ‹_›]
    exact ⟨source, hsource, by simp [Register.definitions]⟩

section

variable {read : Text → Option Text}
  (hsingle : ∀ d body, Gives (g.backend.single g.plan d) body →
    readLines read body = [g.plan.typeName d.name])
include hsingle

theorem readLines_bodies {bodies : List Text}
    (h : List.Forall₂ (fun d body => Gives (g.backend.single g.plan d) body) enums bodies) :
    bodies.flatMap (readLines read) = typeNames g.plan enums := by
  induction h with
  | nil => rfl
  | cons hbody _ ih =>
    rw [List.flatMap_cons, hsingle _ _ hbody, ih]
    rfl

/-- A reader that finds in each part the type that is declared there finds the types of a
module between its header and its footer. -/
theorem Assembly.Of.readLines_types {a : Assembly} {code : Text} (h : a.Of g enums code)
    (hwrapper : ∀ source, g.plan.Wraps source → readLines read source = [wrapperName]) :
    (a.bodies ++ a.shared.definitions g.module.shown).flatMap (readLines read) =
      typeNames g.plan enums ++ (if enums = [] then [] else [wrapperName]) := by
  have hshared := h.shared.definitions
  rw [List.flatMap_append, readLines_bodies hsingle h.bodies]
  split at hshared
  · rw [hshared, if_pos ‹_›]
    rfl
  · obtain ⟨source, hsource, hdefinitions⟩ := hshared
    rw [hdefinitions, if_neg ‹_›, List.flatMap_singleton, hwrapper source hsource]

end

end CatchAll.Generator
