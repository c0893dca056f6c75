import CatchAll.Proofs.Writer

/-!
# Printing a forest

A source text is a forest: lines, documentation, blanks, groups that stand one level
deeper, and blocks, which are groups with a header and perhaps a closer. Writing it
step by step adds the lines of its layout, which is told by recursion on the forest
with the level as a parameter, and leaves the level of the writer as it was. Writing
that fails part way comes back to this level as well, and does not close the blocks
that it leaves.
-/

set_option autoImplicit false

namespace CatchAll.Writer

open scoped Text

variable {ε : Type}

/-! ## Work that may fail -/

/-- Work on a writer. What was written before a failure stays. -/
abbrev Work (ε : Type) := ExceptT ε (StateM Writer)

namespace Work

def runOn (work : Work ε Unit) (w : Writer) : Except ε Unit × Writer := StateT.run work w

def step (change : Writer → Writer) : Work ε Unit := modifyThe Writer change

/-- Work one level deeper. The level is left in any case. -/
def indented (body : Work ε Unit) : Work ε Unit := do
  step enter
  try body finally step leave

/-- A header, work one level deeper, and a closer unless the work fails. -/
def block (header : Text) (closer : Option Text) (body : Work ε Unit) : Work ε Unit := do
  step (·.write header)
  indented body
  step (·.close closer)

variable {work next body : Work ε Unit} {w v : Writer} {outcome : Except ε Unit} {e : ε}

theorem runOn_bind_ok (h : work.runOn w = (.ok (), v)) :
    (do work; next : Work ε Unit).runOn w = next.runOn v := by
  have hwork : (work : StateT Writer Id (Except ε Unit)) w = (.ok (), v) := h
  simp only [runOn, StateT.run, bind, ExceptT.bind, ExceptT.mk, StateT.bind, hwork]
  rfl

theorem runOn_bind_error (h : work.runOn w = (.error e, v)) :
    (do work; next : Work ε Unit).runOn w = (.error e, v) := by
  have hwork : (work : StateT Writer Id (Except ε Unit)) w = (.error e, v) := h
  simp only [runOn, StateT.run, bind, ExceptT.bind, ExceptT.mk, StateT.bind, hwork]
  rfl

theorem runOn_catch {handler : ε → Work ε Unit} (h : work.runOn w = (.error e, v)) :
    (tryCatch work handler : Work ε Unit).runOn w = (handler e).runOn v := by
  have hwork : (work : StateT Writer Id (Except ε Unit)) w = (.error e, v) := h
  simp only [runOn, StateT.run, tryCatch, tryCatchThe, MonadExceptOf.tryCatch, ExceptT.tryCatch,
    ExceptT.mk, bind, StateT.bind, hwork]

theorem runOn_indented (h : body.runOn w.enter = (outcome, v)) :
    (indented body).runOn w = (outcome, v.leave) := by
  have hbody : (body : StateT Writer Id (Except ε Unit)) w.enter = (outcome, v) := h
  have hleft : (tryFinally body (step leave) : Work ε Unit).runOn w.enter = (outcome, v.leave) := by
    simp only [runOn, tryFinally, tryFinally', StateT.run, Functor.map, ExceptT.map, ExceptT.mk,
      bind, StateT.bind, hbody]
    cases outcome <;> rfl
  exact (runOn_bind_ok rfl).trans hleft

/-- Work that ends in a certain way, and adds lines that depend on the layout and the level
alone. Nothing else of the writer changes. -/
def Adds (work : Work ε Unit) (outcome : Except ε Unit) (new : Layout → Nat → List Text) : Prop :=
  ∀ w : Writer, work.runOn w = (outcome, w.append (new w.layout w.level))

variable {a b : Layout → Nat → List Text}

theorem adds_step {change : Writer → Writer}
    (h : ∀ w : Writer, change w = w.append (a w.layout w.level)) :
    Adds (step change : Work ε Unit) (.ok ()) a :=
  fun w => congrArg (Prod.mk (Except.ok ())) (h w)

theorem adds_pure : Adds (pure () : Work ε Unit) (.ok ()) fun _ _ => [] := by
  intro w
  rw [append, List.append_nil]
  rfl

theorem adds_throw (e : ε) : Adds (throw e : Work ε Unit) (.error e) fun _ _ => [] := by
  intro w
  rw [append, List.append_nil]
  rfl

theorem Adds.andThen (h : Adds work (.ok ()) a) (hnext : Adds next outcome b) :
    Adds (do work; next) outcome fun layout level => a layout level ++ b layout level := by
  intro w
  rw [runOn_bind_ok (h w), hnext, append_append]
  rfl

theorem Adds.orFail (h : Adds work (.error e) a) (next : Work ε Unit) :
    Adds (do work; next) (.error e) a :=
  fun w => runOn_bind_error (h w)

theorem Adds.catch {handler : ε → Work ε Unit} (h : Adds work (.error e) a)
    (hhandler : Adds (handler e) outcome b) :
    Adds (tryCatch work handler) outcome fun layout level => a layout level ++ b layout level := by
  intro w
  rw [runOn_catch (h w), hhandler, append_append]
  rfl

theorem Adds.indented (h : Adds body outcome a) :
    Adds (indented body) outcome fun layout level => a layout (level + 1) :=
  fun w => runOn_indented (h w.enter)

end Work

/-! ## Forests -/

/-- A line that shows something. -/
structure Line where
  text : Text
  single : '\n' ∉ text
  shown : Text.allBlank text = false

/-- A line of documentation. It may be empty. -/
structure DocLine where
  text : Text
  single : '\n' ∉ text

inductive Tree where
  | line (line : Line)
  | doc (line : DocLine)
  | blank
  | group (children : List Tree)
  | block (header : Line) (children : List Tree) (closer : Option Line)

/-- A text behind as many units of indentation as the level says. -/
def placed (layout : Layout) (level : Nat) (t : Text) : Text :=
  (List.replicate level layout.unit).flatten ++ t

/-- Behind the mark, with a space in between; without both there is only an empty line. -/
def DocLine.placed (layout : Layout) (level : Nat) (line : DocLine) : Text :=
  match layout.docMark, line.text with
  | [], [] => []
  | [], t => Writer.placed layout level t
  | mark, [] => Writer.placed layout level mark
  | mark, t => Writer.placed layout level (mark ++ ' ' :: t)

mutual

/-- The lines of a tree from a level on. -/
def Tree.lines (layout : Layout) (level : Nat) : Tree → List Text
  | .line line => [placed layout level line.text]
  | .doc line => [line.placed layout level]
  | .blank => [[]]
  | .group children => forestLines layout (level + 1) children
  | .block header children closer =>
    placed layout level header.text :: forestLines layout (level + 1) children ++
      closer.toList.map fun closer => placed layout level closer.text

def forestLines (layout : Layout) (level : Nat) : List Tree → List Text
  | [] => []
  | tree :: rest => tree.lines layout level ++ forestLines layout level rest

end

mutual

/-- A tree written step by step. -/
def Tree.work : Tree → Work ε Unit
  | .line line => .step (·.write line.text)
  | .doc line => .step (·.docs line.text)
  | .blank => .step (·.blank)
  | .group children => .indented (forestWork children)
  | .block header children closer =>
    .block header.text (closer.map (·.text)) (forestWork children)

def forestWork : List Tree → Work ε Unit
  | [] => pure ()
  | tree :: rest => do
    tree.work
    forestWork rest

end

mutual

/-- A tree written by one change of the writer. -/
def Tree.written : Tree → Writer → Writer
  | .line line, w => w.write line.text
  | .doc line, w => w.docs line.text
  | .blank, w => w.blank
  | .group children, w => w.indented (forestWritten children)
  | .block header children closer, w =>
    w.block header.text (closer.map (·.text)) (forestWritten children)

def forestWritten : List Tree → Writer → Writer
  | [], w => w
  | tree :: rest, w => forestWritten rest (tree.written w)

end

/-- A forest of which only a part is written: trees up to a failure, which may lie inside of a
group or block. What comes behind is in the forest as well. -/
inductive Interrupted where
  | here (before behind : List Tree)
  | group (before : List Tree) (inside : Interrupted) (behind : List Tree)
  | block (before : List Tree) (header : Line) (inside : Interrupted) (closer : Option Line)
      (behind : List Tree)

namespace Interrupted

/-- What is written: no closer, and nothing that comes behind. -/
def lines (layout : Layout) (level : Nat) : Interrupted → List Text
  | here before _ => forestLines layout level before
  | group before inside _ => forestLines layout level before ++ inside.lines layout (level + 1)
  | block before header inside _ _ =>
    forestLines layout level before ++
      placed layout level header.text :: inside.lines layout (level + 1)

def work (e : ε) : Interrupted → Work ε Unit
  | here before behind => do
    forestWork before
    throw e
    forestWork behind
  | group before inside behind => do
    forestWork before
    .indented (inside.work e)
    forestWork behind
  | block before header inside closer behind => do
    forestWork before
    .block header.text (closer.map (·.text)) (inside.work e)
    forestWork behind

end Interrupted

/-! ## One line -/

theorem Line.write_eq (line : Line) (w : Writer) :
    w.write line.text = w.append [placed w.layout w.level line.text] :=
  write_line line.single line.shown

theorem DocLine.docs_eq (line : DocLine) (w : Writer) :
    w.docs line.text = w.append [line.placed w.layout w.level] := by
  rw [docs, Text.passage_of_single line.single, List.map_singleton]
  have hline : w.docLine line.text = line.placed w.layout w.level := by
    rw [docLine, DocLine.placed, marked]
    cases hmark : w.layout.docMark with
    | nil => cases hline : line.text <;> rfl
    | cons c mark => cases hline : line.text <;> simp [Writer.placed, indentation]
  rw [hline]

/-! ## A forest step by step -/

open Work

theorem adds_line (line : Line) :
    Adds (step (·.write line.text) : Work ε Unit) (.ok ()) fun layout level =>
      [placed layout level line.text] :=
  adds_step line.write_eq

theorem adds_close (closer : Option Line) :
    Adds (step (·.close (closer.map (·.text))) : Work ε Unit) (.ok ()) fun layout level =>
      closer.toList.map fun closer => placed layout level closer.text := by
  cases closer with
  | none => exact adds_step fun w => by simp [close, append]
  | some closer => exact adds_line closer

/-- The closer is written only after work that does not fail. -/
theorem adds_block {body : Work ε Unit} {inside : Layout → Nat → List Text} (header : Line)
    (closer : Option Line) (h : Adds body (.ok ()) inside) :
    Adds (.block header.text (closer.map (·.text)) body) (.ok ()) fun layout level =>
      placed layout level header.text :: inside layout (level + 1) ++
        closer.toList.map fun closer => placed layout level closer.text :=
  (adds_line header).andThen (h.indented.andThen (adds_close closer))

theorem adds_failing_block {body : Work ε Unit} {e : ε} {inside : Layout → Nat → List Text}
    (header : Line) (closer : Option Line) (h : Adds body (.error e) inside) :
    Adds (.block header.text (closer.map (·.text)) body) (.error e) fun layout level =>
      placed layout level header.text :: inside layout (level + 1) :=
  (adds_line header).andThen (h.indented.orFail _)

mutual

theorem adds_tree : ∀ tree : Tree,
    Adds (tree.work : Work ε Unit) (.ok ()) fun layout level => tree.lines layout level
  | .line line => adds_line line
  | .doc line => adds_step line.docs_eq
  | .blank => adds_step fun _ => rfl
  | .group children => (adds_forest children).indented
  | .block header children closer => adds_block header closer (adds_forest children)

theorem adds_forest : ∀ forest : List Tree,
    Adds (forestWork forest : Work ε Unit) (.ok ()) fun layout level =>
      forestLines layout level forest
  | [] => adds_pure
  | tree :: rest => (adds_tree tree).andThen (adds_forest rest)

end

theorem adds_interrupted (e : ε) (cut : Interrupted) :
    Adds (cut.work e) (.error e) fun layout level => cut.lines layout level := by
  induction cut with
  | here before behind =>
    have hfailed := (adds_forest before).andThen ((adds_throw e).orFail (forestWork behind))
    simp only [List.append_nil] at hfailed
    exact hfailed
  | group before inside behind ih => exact (adds_forest before).andThen (ih.indented.orFail _)
  | block before header inside closer behind ih =>
    exact (adds_forest before).andThen ((adds_failing_block header closer ih).orFail _)

/-! ## A forest at once -/

theorem indented_eq {w : Writer} {body : Writer → Writer} {new : List Text}
    (h : body w.enter = w.enter.append new) : w.indented body = w.append new := by
  rw [indented, h]
  rfl

mutual

theorem written_tree : ∀ (tree : Tree) (w : Writer),
    tree.written w = w.append (tree.lines w.layout w.level)
  | .line line, w => line.write_eq w
  | .doc line, w => line.docs_eq w
  | .blank, _ => rfl
  | .group children, w => indented_eq (written_forest children w.enter)
  | .block header children closer, w => by
    have hopened := header.write_eq w
    rw [Tree.written, block, hopened, indented_eq (written_forest children _), append_append]
    cases closer with
    | none => simp [close, Tree.lines, enter, append]
    | some closer =>
      refine (closer.write_eq _).trans ((append_append w _ _).trans ?_)
      simp [Tree.lines, enter, append]

theorem written_forest : ∀ (forest : List Tree) (w : Writer),
    forestWritten forest w = w.append (forestLines w.layout w.level forest)
  | [], w => by rw [forestWritten, forestLines, append, List.append_nil]
  | tree :: rest, w => by
    rw [forestWritten, written_tree tree, written_forest rest, append_append]
    rfl

end

/-! ## Main result -/

/-- A forest is printed by its layout, step by step as well as at once: the lines of the layout
come behind those that were there, and the level is as before. A failure at any depth, and so in
the body of any group or block around it, leaves the level as before too. What was laid out up to
it has been written, without the closers of the blocks that it leaves, and a forest that is written
once the failure is caught stands where it would have stood. -/
theorem forest_printed (w : Writer) (forest : List Tree) :
    (∃ v : Writer, (forestWork forest : Work ε Unit).runOn w = (.ok (), v) ∧
      forestWritten forest w = v ∧
      v.lines = w.lines ++ forestLines w.layout w.level forest ∧
      v.level = w.level ∧ v.layout = w.layout ∧
      v.render = Text.unlines (w.lines ++ forestLines w.layout w.level forest)) ∧
    ∀ (cut : Interrupted) (e : ε), ∃ v : Writer, (cut.work e).runOn w = (.error e, v) ∧
      v.lines = w.lines ++ cut.lines w.layout w.level ∧ v.level = w.level ∧ v.layout = w.layout ∧
      (tryCatch (cut.work e) fun _ => forestWork forest : Work ε Unit).runOn w =
        (.ok (), v.append (forestLines w.layout w.level forest)) := by
  refine ⟨⟨_, adds_forest forest w, written_forest forest w, rfl, rfl, rfl, rfl⟩, fun cut e => ?_⟩
  refine ⟨_, adds_interrupted e cut w, rfl, rfl, rfl, ?_⟩
  have hcaught : Adds (tryCatch (cut.work e) fun _ => forestWork forest : Work ε Unit) (.ok ())
      fun layout level => cut.lines layout level ++ forestLines layout level forest :=
    (adds_interrupted e cut).catch (adds_forest forest)
  rw [hcaught w, append_append]

end CatchAll.Writer
