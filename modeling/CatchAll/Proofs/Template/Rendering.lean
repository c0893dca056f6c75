import CatchAll.Proofs.Outcome
import CatchAll.Proofs.Text.Lines
import CatchAll.Template.Engine

/-!
# What a template gives

A template gives the texts of its parts in order, as soon as each part gives
one. In a document that is no markup every value is put in as it is.
-/

set_option autoImplicit false

namespace CatchAll.Template

open Outcome

variable {values : Fields} {nodes : List Node} {t u : Text}

theorem render_lit (text : Text) (h : render false values nodes = .ok t) :
    render false values (.lit text :: nodes) = .ok (text ++ t) := by
  rw [render, renderNode, h]
  rfl

theorem render_last (text : Text) : render false values [.lit text] = .ok text :=
  (render_lit text rfl).trans (congrArg Except.ok (List.append_nil text))

theorem render_put {slot : Slot} {v : Json} (hslot : slot.value values = .ok v)
    (h : render false values nodes = .ok t) :
    render false values (.put slot :: nodes) = .ok (v.shown ++ t) := by
  rw [render, renderNode, hslot, h]
  rfl

theorem render_text {slot : Slot} {text : Text} (hslot : slot.value values = .ok (.str text))
    (h : render false values nodes = .ok t) :
    render false values (.put slot :: nodes) = .ok (text ++ t) :=
  render_put hslot h

theorem render_cond {slot : Slot} {yes no : List Node} {v : Json}
    (hslot : slot.value values = .ok v)
    (hpart : render false values (if v.truthy then yes else no) = .ok u)
    (h : render false values nodes = .ok t) :
    render false values (.cond slot yes no :: nodes) = .ok (u ++ t) := by
  have hnode : renderNode false values (.cond slot yes no) = .ok u := by
    rw [renderNode, hslot, ← hpart]
    show (if v.truthy then _ else _) = _
    split <;> rfl
  rw [render, hnode, h]
  rfl

/-- A loop over a list gives the texts of its rounds. -/
theorem render_each {name : Text} {slot : Slot} {body : List Node} {items : List Json}
    {parts : List Text} (hslot : slot.value values = .ok (.arr items))
    (hparts : items.mapM (fun item => render false ((name, item) :: values) body) = .ok parts)
    (h : render false values nodes = .ok t) :
    render false values (.each name slot body :: nodes) = .ok (parts.flatten ++ t) := by
  have hnode : renderNode false values (.each name slot body) = .ok parts.flatten := by
    rw [renderNode, hslot]
    show (do
      let parts ← items.mapM fun item => render false ((name, item) :: values) body
      return parts.flatten) = _
    rw [hparts]
    rfl
  rw [render, hnode, h]
  rfl

theorem render_append {before : List Node} (hbefore : render false values before = .ok u)
    (h : render false values nodes = .ok t) :
    render false values (before ++ nodes) = .ok (u ++ t) := by
  induction before generalizing u with
  | nil =>
    rw [render] at hbefore
    obtain rfl := Except.ok.inj hbefore
    exact h
  | cons node before ih =>
    rw [render] at hbefore
    obtain ⟨head, hhead, hbefore⟩ := bind_eq_ok.mp hbefore
    obtain ⟨rest, hrest, hdone⟩ := bind_eq_ok.mp hbefore
    obtain rfl : head ++ rest = u := Except.ok.inj hdone
    rw [List.cons_append, render, hhead, ih hrest, List.append_assoc]
    rfl

/-! ## Templates that give something -/

/-- A template gives a text with these values. -/
def Renders (values : Fields) (nodes : List Node) : Prop :=
  ∃ t, render false values nodes = .ok t

theorem renders_nil : Renders values [] := ⟨[], rfl⟩

theorem Renders.lit (text : Text) (h : Renders values nodes) :
    Renders values (.lit text :: nodes) := by
  obtain ⟨t, h⟩ := h
  exact ⟨_, render_lit text h⟩

theorem Renders.put {slot : Slot} {v : Json} (hslot : slot.value values = .ok v)
    (h : Renders values nodes) : Renders values (.put slot :: nodes) := by
  obtain ⟨t, h⟩ := h
  exact ⟨_, render_put hslot h⟩

theorem Renders.cond {slot : Slot} {yes no : List Node} {v : Json}
    (hslot : slot.value values = .ok v) (hyes : Renders values yes) (hno : Renders values no)
    (h : Renders values nodes) : Renders values (.cond slot yes no :: nodes) := by
  obtain ⟨t, h⟩ := h
  obtain ⟨u, hu⟩ : Renders values (if v.truthy then yes else no) := by
    split
    · exact hyes
    · exact hno
  exact ⟨_, render_cond hslot hu h⟩

theorem Renders.each {name : Text} {slot : Slot} {body : List Node} {items : List Json}
    (hslot : slot.value values = .ok (.arr items))
    (hbody : ∀ item ∈ items, Renders ((name, item) :: values) body)
    (h : Renders values nodes) : Renders values (.each name slot body :: nodes) := by
  obtain ⟨t, h⟩ := h
  obtain ⟨parts, hparts⟩ := mapM_ok_of_forall hbody
  exact ⟨_, render_each hslot hparts h⟩

/-- A template that the shelf has, with values that leave its own name free. -/
theorem renderNamed_of_render {shelf : Shelf} {name : Text} {entry : Text × List Node}
    (hfind : shelf.find? (·.1 == name) = some entry) (hplain : isMarkupName name = false)
    (hfree : Table.has ownName values = false) (h : render false values entry.2 = .ok t) :
    renderNamed shelf name values = .ok t := by
  have hnodes : renderNodes false values entry.2 = .ok t := by
    rw [renderNodes, checkNames, hfree]
    exact h
  rw [renderNamed, hfind, hplain]
  dsimp only
  rw [hnodes]

theorem lines_indentLines (width : Nat) (text : Text) :
    Text.lines (indentLines width text) = (Text.lines text).map fun line =>
      if Text.allBlank line then line else List.replicate width ' ' ++ line := by
  rw [indentLines, Text.lines_unlines]
  · simpa using Text.lines_ne_nil text
  · intro l hl
    obtain ⟨line, hline, rfl⟩ := List.mem_map.mp hl
    have hsingle := Text.lineFeed_not_mem_line hline
    split
    · exact hsingle
    · rw [List.mem_append, not_or]
      exact ⟨fun hspace => absurd (List.eq_of_mem_replicate hspace) (by decide), hsingle⟩

/-! ## Lines of rendered text -/

/-- A literal of a template that is a whole line. -/
def isLine (line lit : Text) : Bool := lit = line ++ ['\n'] && '\n' ∉ line

section

variable {line lit name before : Text} {ls : List Text}

theorem lines_line (hline : '\n' ∉ line) (h : Text.lines t = ls) :
    Text.lines (line ++ '\n' :: t) = line :: ls := by
  rw [Text.lines_append_lineFeed, Text.lines_of_single hline, h]
  rfl

theorem lines_lit (hlit : isLine line lit = true) (h : Text.lines t = ls) :
    Text.lines (lit ++ t) = line :: ls := by
  rw [isLine, Bool.and_eq_true, decide_eq_true_eq, decide_eq_true_eq] at hlit
  rw [hlit.1, List.append_assoc]
  exact lines_line hlit.2 h

theorem lines_flatten {α : Type} (f : α → Text) {items : List α} (hf : ∀ a ∈ items, '\n' ∉ f a)
    (h : Text.lines t = ls) :
    Text.lines ((items.map fun a => f a ++ ['\n']).flatten ++ t) = items.map f ++ ls := by
  induction items with
  | nil => exact h
  | cons a items ih =>
    obtain ⟨ha, hitems⟩ := List.forall_mem_cons.mp hf
    rw [List.map_cons, List.flatten_cons, List.append_assoc, List.append_assoc,
      List.singleton_append]
    exact lines_line ha (ih hitems)

theorem lines_ended {items : List Text} (hitems : ∀ l ∈ items, '\n' ∉ l) (h : Text.lines t = ls) :
    Text.lines ((items.map fun l => l ++ ['\n']).flatten ++ t) = items ++ ls := by
  have hlines := lines_flatten (fun l => l) hitems h
  rwa [List.map_id'] at hlines

/-- A literal of a template that is made of whole lines. -/
def areLines (items : List Text) (lit : Text) : Bool :=
  lit = (items.map fun l => l ++ ['\n']).flatten && items.all fun l => '\n' ∉ l

theorem lines_lits (items : List Text) (hlit : areLines items lit = true) (h : Text.lines t = ls) :
    Text.lines (lit ++ t) = items ++ ls := by
  rw [areLines, Bool.and_eq_true, decide_eq_true_eq, List.all_eq_true] at hlit
  rw [hlit.1]
  exact lines_ended (fun l hl => of_decide_eq_true (hlit.2 l hl)) h

/-- A name within the first line of a literal. -/
theorem lines_named_lits (more : List Text) (hbefore : '\n' ∉ before) (hname : '\n' ∉ name)
    (hlit : areLines (line :: more) lit = true) (h : Text.lines t = ls) :
    Text.lines (before ++ (name ++ (lit ++ t))) = (before ++ (name ++ line)) :: (more ++ ls) := by
  rw [areLines, Bool.and_eq_true, decide_eq_true_eq, List.all_cons, Bool.and_eq_true,
    decide_eq_true_eq, List.all_eq_true] at hlit
  obtain ⟨hlit, hline, hmore⟩ := hlit
  have htext : before ++ (name ++ (lit ++ t)) = (before ++ (name ++ line)) ++
      '\n' :: ((more.map fun l => l ++ ['\n']).flatten ++ t) := by
    rw [hlit]
    simp only [List.map_cons, List.flatten_cons, List.append_assoc, List.cons_append,
      List.nil_append]
  rw [htext]
  exact lines_line (by simp [hbefore, hname, hline])
    (lines_ended (fun l hl => of_decide_eq_true (hmore l hl)) h)

/-- A line with a name in it. -/
theorem lines_named (hbefore : '\n' ∉ before) (hname : '\n' ∉ name) (hlit : isLine line lit = true)
    (h : Text.lines t = ls) :
    Text.lines (before ++ (name ++ (lit ++ t))) = (before ++ (name ++ line)) :: ls := by
  refine lines_named_lits [] hbefore hname ?_ h
  rw [isLine, Bool.and_eq_true] at hlit
  simpa [areLines] using hlit

/-- A line with two names in it. -/
theorem lines_named_twice {between other : Text} (hbefore : '\n' ∉ before) (hname : '\n' ∉ name)
    (hbetween : '\n' ∉ between) (hother : '\n' ∉ other) (hlit : isLine line lit = true)
    (h : Text.lines t = ls) :
    Text.lines (before ++ (name ++ (between ++ (other ++ (lit ++ t))))) =
      (before ++ (name ++ (between ++ (other ++ line)))) :: ls := by
  have hfront : '\n' ∉ before ++ (name ++ between) := by simp [hbefore, hname, hbetween]
  have hlines := lines_named hfront hother hlit h
  simpa only [List.append_assoc] using hlines

/-- Lines at the end of a text, below at least one other. -/
def Closes (ls : List Text) (t : Text) : Prop :=
  ∃ first before, Text.lines t = first :: (before ++ ls)

theorem closes_line (hlit : isLine line lit = true) (h : Text.lines t = ls) :
    Closes ls (lit ++ t) :=
  ⟨line, [], lines_lit hlit h⟩

/-- Whatever stands before. -/
theorem Closes.append (before : Text) (h : Closes ls t) : Closes ls (before ++ t) := by
  obtain ⟨first, above, hlines⟩ := h
  obtain ⟨init, last, -, happend⟩ := Text.lines_append before
  rw [Closes, happend t first _ hlines]
  cases init with
  | nil => exact ⟨_, above, rfl⟩
  | cons l init => exact ⟨l, init ++ (last ++ first) :: above, by simp⟩

end

end CatchAll.Template
