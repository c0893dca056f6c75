import CatchAll.Console.Emoji
import CatchAll.Console.Literal
import CatchAll.Console.Style

/-!
# Markup

Messages for a terminal carry tags in brackets that switch styles on and off. A
tag is a bracket, one of a few first characters, and what follows up to the next
bracket; an odd number of backslashes before it makes it plain text. A closing
tag needs an open one of the same style. The plain text between tags may name
emoji. Escaping puts every tag of a text out of action, which is how text of the
user goes into a message; it does not keep emoji away.
-/

set_option autoImplicit false

namespace CatchAll.Console

open scoped Text

/-! ## Pieces -/

def startsTag (c : Char) : Bool := ('a' ≤ c && c ≤ 'z') || c = '#' || c = '/' || c = '@'

def isBracket (c : Char) : Bool := c = '[' || c = ']'

/-- The inside of a tag at the start of a text, and what comes after it. -/
def tag? : Text → Option (Text × Text)
  | '[' :: c :: rest =>
    match rest.dropWhile (!isBracket ·) with
    | ']' :: after =>
      if startsTag c then some (c :: rest.takeWhile (!isBracket ·), after) else none
    | _ => none
  | _ => none

inductive Piece where
  | char (c : Char)
  | tag (backslashes : Nat) (inside : Text)
  deriving DecidableEq

/-- A tag with the backslashes before it, and what comes after it. -/
def tagPiece? (t : Text) : Option (Piece × Text) :=
  let backslashes := t.takeWhile (· = '\\')
  (tag? (t.drop backslashes.length)).map fun (inside, after) =>
    (.tag backslashes.length inside, after)

/-- The next piece of a text that is not empty. -/
def nextPiece (c : Char) (t : Text) : Piece × Text :=
  (tagPiece? (c :: t)).getD (.char c, t)

theorem length_of_tag? {t inside after : Text} (h : tag? t = some (inside, after)) :
    after.length < t.length := by
  unfold tag? at h
  split at h
  · next c rest =>
    have drop : (rest.dropWhile (!isBracket ·)).length ≤ rest.length :=
      (List.dropWhile_sublist _).length_le
    split at h
    · next rest' eq =>
      rw [eq] at drop
      simp only [List.length_cons] at drop ⊢
      split at h
      · simp only [Option.some.injEq, Prod.mk.injEq] at h
        obtain ⟨_, rfl⟩ := h
        omega
      · simp at h
    · simp at h
  · simp at h

theorem length_nextPiece (c : Char) (t : Text) : (nextPiece c t).2.length < t.length + 1 := by
  unfold nextPiece
  cases h : tagPiece? (c :: t) with
  | none => simp
  | some found =>
    simp only [tagPiece?, Option.map_eq_some_iff] at h
    obtain ⟨⟨inside, after⟩, found', rfl⟩ := h
    have := length_of_tag? found'
    simp only [List.length_drop, List.length_cons] at this
    simp only [Option.getD_some]
    omega

def pieces : Text → List Piece
  | [] => []
  | c :: t => (nextPiece c t).1 :: pieces (nextPiece c t).2
termination_by t => t.length
decreasing_by exact length_nextPiece c t

/-! ## Writing -/

def Piece.escape : Piece → Text
  | .char c => [c]
  | .tag n inside => List.replicate (2 * n + 1) '\\' ++ ['['] ++ inside ++ [']']

/-- A single backslash at the end is doubled, so that it cannot reach a tag that follows. -/
def guardEnd (t : Text) : Text :=
  match t.reverse with
  | '\\' :: '\\' :: _ => t
  | '\\' :: _ => t ++ ['\\']
  | _ => t

/-- A text that reads as plain text. -/
def escape (t : Text) : Text := guardEnd ((pieces t).flatMap Piece.escape)

/-! ## Reading -/

/-- Why a text is no markup: its tags, or a color that lacks a component. -/
inductive Fault where
  | tags
  | color
  deriving DecidableEq

/-- Plain text, or the inside of a tag that takes effect. -/
inductive Part where
  | text (t : Text)
  | tag (inside : Text)

/-- A backslash before a bracket is not shown. -/
def bareBrackets : Text → Text
  | '\\' :: '[' :: rest => '[' :: bareBrackets rest
  | c :: rest => c :: bareBrackets rest
  | [] => []

/-- The plain text of a run of characters. -/
def plainPart (run : Text) : List Part :=
  if run.isEmpty then [] else [.text (Emoji.replace (bareBrackets run))]

/-- Half of the backslashes before a tag are shown. -/
def tagParts (backslashes : Nat) (inside : Text) : List Part :=
  .text (List.replicate (backslashes / 2) '\\') ::
    (if backslashes % 2 = 1 then plainPart (['['] ++ inside ++ [']']) else [.tag inside])

/-- The parts of a text; the characters since the last tag are kept backwards. -/
def partsFrom (back : Text) : List Piece → List Part
  | [] => plainPart back.reverse
  | .char c :: rest => partsFrom (c :: back) rest
  | .tag n inside :: rest => plainPart back.reverse ++ tagParts n inside ++ partsFrom [] rest

/-- A tag with what follows its equals sign. -/
structure Tag where
  name : Text
  parameters : Option Text

namespace Tag

def read (inside : Text) : Tag :=
  match inside.dropWhile (· ≠ '=') with
  | _ :: parameters => ⟨inside.takeWhile (· ≠ '='), some parameters⟩
  | [] => ⟨inside, none⟩

def text (tag : Tag) : Text :=
  match tag.parameters with
  | some parameters => tag.name ++ " " ++ parameters
  | none => tag.name

def isHandler (tag : Tag) : Bool := tag.name.head? = some '@'

/-- What a handler is called with, as it is written: nothing, what stands in brackets
behind its name, or the whole text if it does not begin with a name. -/
def arguments (parameters : Text) : Text :=
  let t := Text.strip parameters
  match t.dropWhile fun c => Text.isIdentifierPart c || c = '.' with
  | [] => "()"
  | '(' :: rest => if rest.getLast? = some ')' && '\n' ∉ rest then '(' :: rest else t
  | _ => t

/-- The values for a handler have to be written as such. -/
def check (tag : Tag) : Except Fault Unit :=
  match tag.parameters with
  | some parameters =>
    if tag.isHandler && parameters ≠ [] && !Literal.isLiteral (arguments parameters) then
      .error .tags
    else .ok ()
  | none => .ok ()

end Tag

def named (name : Text) : Except Fault Text := (styleName name).mapError fun _ => .color

/-- The tag that a closing tag closes, and the open tags without it. The last tag that
was opened comes first; a closing tag without a name closes it. -/
def closed? (name : Text) : List Tag → Option (Tag × List Tag)
  | [] => none
  | tag :: rest =>
    if name = [] || tag.name = name then some (tag, rest)
    else (closed? name rest).map fun (found, rest) => (found, tag :: rest)

/-- The tags that are open after a tag. -/
def openAfter (stack : List Tag) (inside : Text) : Except Fault (List Tag) := do
  let tag := Tag.read inside
  match tag.name with
  | '/' :: name =>
    let name := Text.strip name
    match closed? (← if name = [] then pure [] else named name) stack with
    | some (found, stack) =>
      found.check
      return stack
    | none => throw .tags
  | name => return { tag with name := ← named name } :: stack

/-- What the parts show, if every closing tag has an open one. -/
def shownParts (stack : List Tag) : List Part → Except Fault Text
  | [] => .ok []
  | .text t :: rest => do return t ++ (← shownParts stack rest)
  | .tag inside :: rest => do shownParts (← openAfter stack inside) rest

/-- A tag that opens has to be a style, or nothing known, together with what follows
its name. -/
def checkPart : Part → Except Fault Unit
  | .tag inside => do
    let tag := Tag.read inside
    let _ ← named (({ tag with name := ← named tag.name } : Tag).text)
  | .text _ => .ok ()

/-- Characters that move the cursor are not shown. -/
def movesCursor (c : Char) : Bool :=
  let n := c.toNat
  n = 7 || n = 8 || n = 11 || n = 12 || n = 13

/-- What a text with markup shows. -/
def display (markup : Text) : Except Fault Text := do
  let parts := partsFrom [] (pieces markup)
  let shown ← shownParts [] parts
  parts.forM checkPart
  return shown.filter (!movesCursor ·)

end CatchAll.Console
