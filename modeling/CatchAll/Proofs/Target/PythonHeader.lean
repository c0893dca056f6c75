import CatchAll.Proofs.Target.ModuleParts
import CatchAll.Proofs.Target.PythonVariants

/-!
# The classes that a Python module declares

A class is declared by a line at the margin. The documentation of the module could have
any line in it but the one that closes it, so it is left out, and nothing else in the
header looks like the declaration of a class.
-/

set_option autoImplicit false

namespace CatchAll.Target.Python

open scoped Text Template
open Naming Schema Outcome Emission
open Template (Slot render render_lit render_text render_each render_cond)

/-! ## Readers -/

def classKeyword : Text := "class "

/-- The class that a line at the margin declares. -/
def className? (line : Text) : Option Text :=
  (line.dropPrefix? classKeyword).map fun rest => (cutName rest).1

/-- The lines of a module without its documentation, which stands between two lines of quotes. -/
def belowDocs : List Text → List Text
  | line :: rest =>
    if line = delimiter then (rest.dropWhile (· ≠ delimiter)).tail else line :: rest
  | [] => []

/-- The classes that a module declares. -/
def readClasses (code : Text) : List Text := (belowDocs (Text.lines code)).filterMap className?

theorem className?_of_head {line : Text} (h : line.head? ≠ some 'c') : className? line = none := by
  rw [className?, Option.map_eq_none_iff]
  cases hdrop : line.dropPrefix? classKeyword with
  | none => rfl
  | some rest =>
    obtain ⟨front, rfl, hfront⟩ := List.dropPrefix?_eq_some_iff.mp hdrop
    obtain rfl : front = classKeyword := beq_iff_eq.mp hfront
    exact absurd rfl h

/-! ## The documentation of the module -/

theorem head?_escapeTriples {t : Text} (h : (escapeTriples t).head? = some '"') :
    t.head? = some '"' := by
  rw [escapeTriples.eq_def] at h
  split at h
  · rfl
  · exact h
  · cases h

theorem startsPair_escapeTriples {t : Text} (h : StartsPair (escapeTriples t)) : StartsPair t := by
  rw [StartsPair, escapeTriples.eq_def] at h
  split at h
  · exact ⟨rfl, rfl⟩
  · exact ⟨h.1, head?_escapeTriples h.2⟩
  · cases h.1

theorem firstLine_prefix {t first : Text} {rest : List Text} (h : Text.lines t = first :: rest) :
    first <+: t := by
  rw [← Text.unlines_lines t, h]
  cases rest with
  | nil => exact ⟨[], by simp [Text.unlines, Text.joinWith]⟩
  | cons l rest =>
    rw [Text.unlines_cons (List.cons_ne_nil l rest)]
    exact List.prefix_append _ _

/-- No line begins with three quotes once triples are escaped. -/
theorem not_delimiter_prefix (t : Text) :
    ∀ l ∈ Text.lines (escapeTriples t), ¬ delimiter <+: l := by
  induction t using escapeTriples.induct with
  | case1 t ih =>
    have hsingle : '\n' ∉ ['\\', '"', '\\', '"', '\\', '"'] := by decide
    obtain ⟨first, rest, hrest, hlines⟩ := Text.lines_append_left hsingle (escapeTriples t)
    rw [escapeTriples, hlines, List.forall_mem_cons]
    refine ⟨fun h => ?_, fun l hl => ih l (hrest ▸ List.mem_cons_of_mem first hl)⟩
    obtain ⟨more, hmore⟩ := h
    cases hmore
  | case2 c t hno ih =>
    rw [escapeTriples]
    · by_cases hc : c = '\n'
      · rw [hc, show '\n' :: escapeTriples t = [] ++ '\n' :: escapeTriples t from rfl,
          Text.lines_append_lineFeed, List.forall_mem_append]
        exact ⟨by decide, ih⟩
      · have hsingle : '\n' ∉ [c] := fun h => hc (List.mem_singleton.mp h).symm
        obtain ⟨first, rest, hrest, hlines⟩ := Text.lines_append_left hsingle (escapeTriples t)
        rw [← List.singleton_append, hlines, List.forall_mem_cons]
        refine ⟨fun h => ?_, fun l hl => ih l (hrest ▸ List.mem_cons_of_mem first hl)⟩
        -- a quote before two more would be the first one of a triple
        obtain ⟨more, hmore⟩ := h
        obtain ⟨rfl, hfirst⟩ := List.cons.inj hmore
        obtain ⟨below, hbelow⟩ := firstLine_prefix hrest
        have hpair : StartsPair (escapeTriples t) := by
          rw [← hbelow, show first = '"' :: '"' :: more from hfirst.symm]
          exact ⟨rfl, rfl⟩
        obtain ⟨u, rfl⟩ := List.head?_eq_some_iff.mp (startsPair_escapeTriples hpair).1
        obtain ⟨v, rfl⟩ := List.head?_eq_some_iff.mp (startsPair_escapeTriples hpair).2
        exact hno v rfl rfl
    · exact hno
  | case3 =>
    intro l hl
    obtain rfl := List.mem_singleton.mp hl
    decide

theorem delimiter_not_mem_docstring (t : Text) : delimiter ∉ Text.lines (docstring t) := by
  have hplain := not_delimiter_prefix (doubleBackslashes t)
  rw [docstring, escapeLast]
  generalize escapeTriples (doubleBackslashes t) = u at hplain ⊢
  split
  · rename_i hquote
    obtain ⟨init, rfl⟩ := List.getLast?_eq_some_iff.mp hquote
    rw [List.dropLast_concat]
    obtain ⟨above, last, -, hlines⟩ := Text.lines_append init
    have hquoted := hlines ['"'] _ _ rfl
    have hescaped := hlines ['\\', '"'] _ _ rfl
    intro hmem
    rw [hescaped, List.mem_append, List.mem_singleton] at hmem
    rcases hmem with habove | hlast
    · refine hplain delimiter ?_ List.prefix_rfl
      rw [hquoted]
      exact List.mem_append_left _ habove
    · -- a backslash stands before the last quote
      have hback := congrArg (fun l => l.reverse[1]?) hlast
      rw [List.reverse_append] at hback
      have hsame : '"' = '\\' := Option.some.inj hback
      exact absurd hsame (by decide)
  · exact fun hmem => hplain delimiter hmem List.prefix_rfl

theorem docstring_ne_nil {t : Text} (h : t ≠ []) : docstring t ≠ [] := by
  rw [docstring, escapeLast]
  split
  · exact List.append_ne_nil_of_right_ne_nil _ (List.cons_ne_nil _ _)
  · exact escapeTriples_ne_nil h

/-! ## The header -/

variable {config : Config} {p : Plan} {d : Definition} {c : Context}

def markLines (marked : Bool) : Text :=
  if marked then "# Code generated by openenum. DO NOT EDIT.\n\n" else []

def importsText (names : List Text) : Text :=
  "from __future__ import annotations\n\n" ++ ("from typing import " ++ Text.joinWith ", " names)

def docsBlock : Option Text → Text
  | some docs => "\"\"\"\n" ++ (docstring docs ++ "\n\"\"\"\n\n")
  | none => []

theorem mem_distinct {ts : List Text} : ∀ t ∈ Text.distinct ts, t ∈ ts := by
  refine List.foldlRecOn (motive := fun seen => ∀ t ∈ seen, t ∈ ts) ts _ (List.forall_mem_nil _) ?_
  intro seen hseen t ht
  split
  · exact hseen
  · exact List.forall_mem_append.mpr ⟨hseen, List.forall_mem_singleton.mpr ht⟩

theorem lineFeed_not_mem_imports {names : List Text} (h : imports p = .ok names) :
    ∀ name ∈ names, '\n' ∉ name := by
  have hsorted {ts : List Text} : ∀ t ∈ Text.sort (Text.distinct ts), t ∈ ts :=
    fun t ht => mem_distinct t ((List.mergeSort_perm _ _).mem_iff.mp ht)
  have hknown : ∀ name ∈ decoratorImports.map (·.2), '\n' ∉ name := by decide
  have hall {needed : List Text} (hneeded : ∀ name ∈ needed, '\n' ∉ name) :
      ∀ name ∈ Text.sort (Text.distinct ("ClassVar" :: needed)), '\n' ∉ name := fun name hname =>
    List.forall_mem_cons.mpr ⟨by decide, hneeded⟩ name (hsorted name hname)
  rw [imports] at h
  split at h
  · obtain ⟨needed, hneeded, hdone⟩ := bind_eq_ok.mp h
    obtain rfl := Except.ok.inj hdone
    obtain ⟨written, hwritten, hdone⟩ := bind_eq_ok.mp hneeded
    obtain rfl := Except.ok.inj hdone
    refine hall fun name hname => ?_
    obtain ⟨decorator, -, hlook⟩ := mem_of_mapM_ok hwritten (hsorted name hname)
    exact hknown name (mem_of_lookUp hlook)
  · obtain rfl := Except.ok.inj h
    exact hall (List.forall_mem_nil _)

/-- The fields of the header; a documentation of the module that is not empty is shown. -/
def headerFields (addHeader : Json) (docs : Option Text) (names : List Text) : Fields :=
  [("add_header", addHeader),
   ("module_docs", docs.elim .null fun t => .str (docstring t)),
   ("typing_imports", Json.strings names)]

theorem render_header (addHeader : Json) {docs : Option Text} (hdocs : ∀ t, docs = some t → t ≠ [])
    (names : List Text) :
    Template.renderNamed shelf "module_header.py.j2" (headerFields addHeader docs names) =
      .ok (docsBlock docs ++ (markLines addHeader.truthy ++ importsText names)) := by
  have hvalue : (Slot.through "typing_imports" (.join ", ")).value
      (headerFields addHeader docs names) = .ok (.str (Text.joinWith ", " names)) := by
    have hshown : (names.map Json.str).map Json.shown = names := by
      rw [List.map_map]
      exact List.map_id names
    exact congrArg (fun names => Except.ok (Json.str (Text.joinWith ", " names))) hshown
  have hblock : render false (headerFields addHeader docs names)
      (if (docs.elim Json.null fun t => .str (docstring t)).truthy then
        [.lit "\"\"\"\n", .put "module_docs", .lit "\n\"\"\"\n\n"] else []) =
      .ok (docsBlock docs) := by
    cases docs with
    | none => rfl
    | some t =>
      have hshown := docstring_ne_nil (hdocs t rfl)
      have htruthy : (Json.str (docstring t)).truthy = true := by simp [Json.truthy, hshown]
      show render false _ (if (Json.str (docstring t)).truthy then _ else []) = _
      rw [htruthy, if_pos rfl]
      exact render_lit _ <| render_text rfl <| Template.render_last _
  have hmark : render false (headerFields addHeader docs names)
      (if addHeader.truthy then [.lit "# Code generated by openenum. DO NOT EDIT.\n\n"] else []) =
      .ok (markLines addHeader.truthy) := by
    cases addHeader.truthy with
    | false => rfl
    | true => exact Template.render_last _
  have hall : render false (headerFields addHeader docs names) headerTemplate =
      .ok (docsBlock docs ++ (markLines addHeader.truthy ++ importsText names)) :=
    render_cond rfl hblock <| render_cond rfl hmark <| render_lit _ <| render_lit _ <|
      (render_text hvalue rfl).trans (congrArg Except.ok (List.append_nil _))
  exact Template.renderNamed_of_render rfl (by decide) rfl hall

theorem header_made (hp : backend.Plans config p) {t : Text} (h : Gives (header p) t) :
    ∃ docs marked names, (∀ name ∈ names, '\n' ∉ name) ∧
      t = docsBlock docs ++ (markLines marked ++ importsText names) := by
  obtain ⟨register, j, register', j', h⟩ := h
  unfold header at h
  obtain ⟨names, _, _, hnames, h⟩ := run_bind_ok.mp h
  replace hnames := (run_ofOutside_ok.mp hnames).1
  extract_lets written filled at h
  have hwritten (docs : Option Text) {register register' : Register} {j j' : Journal}
      (hdocs : ∀ t, docs = some t → t ≠ [])
      (h : (written (docs.elim .null fun t => .str (docstring t))).run register j =
        ((.ok t, register'), j')) :
      t = docsBlock docs ++ (markLines p.config.addHeader.truthy ++ importsText names) := by
    have hfilled := (run_ofTemplate_ok.mp h).1
    rw [hp.shelf] at hfilled
    exact Except.ok.inj (hfilled.symm.trans (render_header p.config.addHeader hdocs names))
  have hfilled {docs : Json} {register : Register} {j : Journal}
      (h : (filled docs).run register j = ((.ok t, register'), j')) :
      ∃ docs, t = docsBlock docs ++ (markLines p.config.addHeader.truthy ++ importsText names) := by
    dsimp only [filled] at h
    split at h
    · rename_i htruthy
      obtain ⟨safe, _, _, hsafe, h⟩ := run_bind_ok.mp h
      obtain ⟨text, htext, hdone⟩ := bind_eq_ok.mp (run_ofOutside_ok.mp hsafe).1
      obtain rfl := Except.ok.inj hdone
      have hne : text ≠ [] := by
        cases docs with
        | str shown =>
          obtain rfl := Except.ok.inj htext
          simpa [Json.truthy] using htruthy
        | _ => cases htext
      exact ⟨some text, hwritten (some text)
        (fun _ hsome => Option.some.inj hsome ▸ hne) h⟩
    · obtain ⟨safe, _, _, hsafe, h⟩ := run_bind_ok.mp h
      obtain ⟨rfl, -, -⟩ := run_pure_ok.mp hsafe
      exact ⟨none, hwritten none (fun _ hnone => by cases hnone) h⟩
  have hdone : ∃ docs register j, (filled docs).run register j = ((.ok t, register'), j') := by
    split at h
    all_goals
      obtain ⟨docs, register₁, j₁, -, h⟩ := run_bind_ok.mp h
      exact ⟨docs, register₁, j₁, h⟩
  obtain ⟨docs, _, _, hrun⟩ := hdone
  obtain ⟨docs, rfl⟩ := hfilled hrun
  exact ⟨docs, _, names, lineFeed_not_mem_imports hnames, rfl⟩

/-- The mark and the imports declare no class and open no documentation. -/
theorem head?_imported (marked : Bool) {names : List Text} (hnames : ∀ name ∈ names, '\n' ∉ name) :
    ∀ l ∈ Text.lines (markLines marked ++ importsText names),
      l.head? ≠ some 'c' ∧ l.head? ≠ some '"' := by
  have hjoined : '\n' ∉ "from typing import ".toList ++ Text.joinWith ", " names := by
    rw [List.mem_append, not_or]
    exact ⟨by decide, Text.lineFeed_not_mem_joinWith (by decide) hnames⟩
  have himports : Text.lines (importsText names) = ["from __future__ import annotations".toList, [],
      "from typing import ".toList ++ Text.joinWith ", " names] :=
    Template.lines_lits ["from __future__ import annotations", []] (by decide +kernel)
      (Text.lines_of_single hjoined)
  have hmark : Text.lines (markLines marked ++ importsText names) =
      (if marked then ["# Code generated by openenum. DO NOT EDIT.".toList, []] else []) ++
        Text.lines (importsText names) := by
    cases marked with
    | false => rfl
    | true =>
      exact Template.lines_lits ["# Code generated by openenum. DO NOT EDIT.", []]
        (by decide +kernel) rfl
  rw [hmark, himports, List.forall_mem_append]
  constructor
  · cases marked <;> decide
  · simp only [List.forall_mem_cons]
    refine ⟨by decide, by decide, ⟨?_, ?_⟩, List.forall_mem_nil _⟩
    all_goals exact fun h => absurd (Option.some.inj h) (by decide)

/-- Lines that open no documentation are all below it. -/
theorem belowDocs_of_head {t : Text} (h : ∀ l ∈ Text.lines t, l.head? ≠ some '"')
    (rest : List Text) : belowDocs (Text.lines t ++ rest) = Text.lines t ++ rest := by
  obtain ⟨first, more, hfirst⟩ := List.exists_cons_of_ne_nil (Text.lines_ne_nil t)
  have hopen : first ≠ delimiter := by
    rintro rfl
    exact h delimiter (hfirst ▸ List.mem_cons_self) rfl
  rw [hfirst]
  exact if_neg hopen

/-- The documentation ends at the first delimiter, since it has none of its own. -/
theorem belowDocs_docsBlock (docs t : Text) (rest : List Text) :
    belowDocs (Text.lines (docsBlock (some docs) ++ t) ++ rest) =
      [] :: (Text.lines t ++ rest) := by
  have hblock : docsBlock (some docs) ++ t = delimiter ++ '\n' :: (docstring docs ++
      '\n' :: (delimiter ++ '\n' :: ([] ++ '\n' :: t))) := by
    simp [docsBlock, delimiter]
  have hlines : Text.lines (docsBlock (some docs) ++ t) ++ rest = delimiter ::
      (Text.lines (docstring docs) ++ delimiter :: ([] :: Text.lines t ++ rest)) := by
    have hsingle : Text.lines delimiter = [delimiter] := by decide
    rw [hblock, Text.lines_append_lineFeed, Text.lines_append_lineFeed,
      Text.lines_append_lineFeed, Text.lines_append_lineFeed, hsingle]
    simp only [List.append_assoc, List.cons_append, List.nil_append]
    rfl
  rw [hlines, belowDocs, if_pos rfl, dropWhile_ne (delimiter_not_mem_docstring docs)]
  rfl

/-- Below the documentation of the module nothing in the header declares a class. -/
theorem belowDocs_header (docs : Option Text) (marked : Bool) {names : List Text}
    (hnames : ∀ name ∈ names, '\n' ∉ name) :
    ∃ below, (∀ l ∈ below, className? l = none) ∧ ∀ rest,
      belowDocs (Text.lines (docsBlock docs ++ (markLines marked ++ importsText names)) ++ rest) =
        below ++ rest := by
  have hhead := head?_imported marked hnames
  generalize markLines marked ++ importsText names = imported at hhead ⊢
  have hnone : ∀ l ∈ Text.lines imported, className? l = none :=
    fun l hl => className?_of_head (hhead l hl).1
  cases docs with
  | none => exact ⟨_, hnone, belowDocs_of_head fun l hl => (hhead l hl).2⟩
  | some docs =>
    exact ⟨[] :: Text.lines imported, List.forall_mem_cons.mpr ⟨rfl, hnone⟩,
      belowDocs_docsBlock docs imported⟩

/-- The classes of a module are those of the parts below its header. -/
theorem readClasses_below_header {docs : Option Text} {marked : Bool} {names : List Text}
    (hnames : ∀ name ∈ names, '\n' ∉ name) {parts : List Text} (hne : parts ≠ []) :
    readClasses (Text.joinWith "\n\n"
        ((docsBlock docs ++ (markLines marked ++ importsText names)) :: parts) ++ "\n") =
      parts.flatMap (readLines className?) := by
  obtain ⟨below, hbelow, hlines⟩ := belowDocs_header docs marked hnames
  obtain ⟨t, rest, rfl⟩ := List.exists_cons_of_ne_nil hne
  have hempty : className? [] = none := rfl
  rw [readClasses, Text.joinWith_cons_cons, List.append_assoc, List.append_assoc,
    Text.lines_paragraph, hlines, List.filterMap_append, List.filterMap_eq_nil_iff.mpr hbelow,
    List.filterMap_cons_none hempty, ← readLines_parts hempty]
  rfl

end CatchAll.Target.Python
