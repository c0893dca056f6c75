import CatchAll.Text.Basic

/-!
# Segments of a template

A template is cut at its tags: slots between double braces, marks between a brace
and a percent sign, comments between a brace and a number sign. What stands
between two raw marks is text. Then white space around tags is dropped: a minus
sign at the inner side of a tag takes all of it on that side. Without a sign a tag
that is no slot takes the blanks before it, if it is the first on its line, and
the line feed right after it. A plus sign keeps both.
-/

set_option autoImplicit false

namespace CatchAll.Template

open scoped Text

inductive Sign where
  | none
  | minus
  | plus
  deriving DecidableEq

/-- A slot, a mark or a comment, or a mark that begins or ends raw text. -/
inductive Kind where
  | slot
  | mark
  | comment
  | rawStart
  | rawEnd
  deriving DecidableEq

structure Tag where
  kind : Kind
  before : Sign
  inside : Text
  after : Sign

inductive Segment where
  | lit (t : Text)
  | tag (tag : Tag)
  | broken

/-! ## Cutting -/

/-- Whether the pass is inside of a quoted text, and behind a backslash in it. -/
inductive Quote where
  | outside
  | inside (mark : Char)
  | escape (mark : Char)
  deriving DecidableEq

def Quote.advance (quote : Quote) (c : Char) : Quote :=
  match quote with
  | .outside => if c = '"' || c = '\'' then .inside c else .outside
  | .inside mark =>
    if c = mark then .outside else if c = '\\' then .escape mark else .inside mark
  | .escape mark => .inside mark

/-- Where the pass over the characters stands. In raw text a mark may turn out to be
text as well; `outer` is the raw text before it, backwards. -/
inductive Mode where
  | lit
  | tag (kind : Kind) (quote : Quote)
  | raw
  | rawTag (outer : Text)

/-- The character before the last brace of a tag. -/
def Kind.closer : Kind → Char
  | .slot => '}'
  | .comment => '#'
  | _ => '%'

def signOf (c : Char) : Sign := if c = '-' then .minus else if c = '+' then .plus else .none

/-- The sign at the start of the inside of a tag, and the rest. -/
def cutSign : Text → Sign × Text
  | c :: rest => if signOf c = .none then (.none, c :: rest) else (signOf c, rest)
  | [] => (.none, [])

def Tag.ofInside (kind : Kind) (inside : Text) (after : Sign) : Tag :=
  let (before, inside) := cutSign inside
  ⟨kind, before, inside, after⟩

/-- A tag that is complete; a mark may turn out to begin raw text. -/
def closed (kind : Kind) (back : Text) (after : Sign) : Tag :=
  let tag := Tag.ofInside kind back.reverse after
  if kind = .mark && after ≠ .plus && Text.strip tag.inside = "raw" then
    { tag with kind := .rawStart }
  else tag

def modeAfter (tag : Tag) : Mode := if tag.kind = .rawStart then .raw else .lit

/-- A tag in raw text, if it ends the raw text. -/
def rawEnd? (inside : Text) : Option Tag :=
  let after := (inside.getLast?.map signOf).getD .none
  let tag := Tag.ofInside .rawEnd (if after = .none then inside else inside.dropLast) after
  if Text.strip tag.inside = "endraw" then some tag else none

/-- A sign closes a tag together with what follows; at the start of a tag it is the first sign. -/
def isLastSign (kind : Kind) (back : Text) (c : Char) : Bool :=
  !back.isEmpty && (c = '-' || (c = '+' && kind ≠ .slot))

/-- What is left of a tag that does not end: a comment of which nothing was written is
complete. -/
def unfinished (kind : Kind) (back rest : Text) : List Segment :=
  let (before, inside) := cutSign (back.reverse ++ rest)
  if kind = .comment && inside.isEmpty then [.tag ⟨.comment, before, [], .none⟩] else [.broken]

/-- Goes through a text; what was read since the last cut is kept backwards. -/
def segmentsFrom : Mode → Text → Text → List Segment
  | .lit, back, '{' :: '{' :: rest =>
    .lit back.reverse :: segmentsFrom (.tag .slot .outside) [] rest
  | .lit, back, '{' :: '%' :: rest =>
    .lit back.reverse :: segmentsFrom (.tag .mark .outside) [] rest
  | .lit, back, '{' :: '#' :: rest =>
    .lit back.reverse :: segmentsFrom (.tag .comment .outside) [] rest
  | .lit, back, c :: rest => segmentsFrom .lit (c :: back) rest
  | .lit, back, [] => [.lit back.reverse]
  | .tag kind quote, back, a :: b :: rest =>
    if quote = .outside && a = kind.closer && b = '}' then
      let tag := closed kind back .none
      .tag tag :: segmentsFrom (modeAfter tag) [] rest
    else
      let quote' := if kind = .comment then .outside else quote.advance a
      match rest with
      | c :: rest' =>
        if quote = .outside && isLastSign kind back a && b = kind.closer && c = '}' then
          let tag := closed kind back (signOf a)
          .tag tag :: segmentsFrom (modeAfter tag) [] rest'
        else segmentsFrom (.tag kind quote') (a :: back) (b :: c :: rest')
      | [] => unfinished kind back [a, b]
  | .tag kind _, back, rest => unfinished kind back rest
  | .raw, back, '{' :: '%' :: rest => segmentsFrom (.rawTag back) [] rest
  | .raw, back, c :: rest => segmentsFrom .raw (c :: back) rest
  | .raw, back, [] => if back.isEmpty then [] else [.broken]
  | .rawTag outer, back, '{' :: '%' :: rest =>
    segmentsFrom (.rawTag (back ++ '%' :: '{' :: outer)) [] rest
  | .rawTag outer, back, '%' :: '}' :: rest =>
    match rawEnd? back.reverse with
    | some tag => .lit outer.reverse :: .tag tag :: segmentsFrom .lit [] rest
    | none => segmentsFrom .raw ('}' :: '%' :: back ++ '%' :: '{' :: outer) rest
  | .rawTag outer, back, c :: rest => segmentsFrom (.rawTag outer) (c :: back) rest
  | .rawTag _, _, [] => [.broken]

/-! ## White space -/

/-- Every line end is a line feed, and the last one is dropped. -/
def normalize (t : Text) : Text :=
  let unified := go t
  if unified.getLast? = some '\n' then unified.dropLast else unified
where
  go : Text → Text
    | '\r' :: '\n' :: rest => '\n' :: go rest
    | '\r' :: rest => '\n' :: go rest
    | c :: rest => c :: go rest
    | [] => []

/-- Drops the blanks at the end of `t` that stand alone on their line. -/
def dropLineStart (atLineStart : Bool) (t : Text) : Text :=
  let last := (t.reverse.takeWhile (· ≠ '\n'))
  if (atLineStart || last.length < t.length) && Text.allBlank last then
    t.take (t.length - last.length)
  else t

namespace Tag

/-- The text after a tag, and whether what was dropped ends a line. -/
def textAfter (tag : Tag) (t : Text) : Text × Bool :=
  match tag.after with
  | .minus => (t.dropWhile Text.isBlank, (t.takeWhile Text.isBlank).getLast? = some '\n')
  | .plus => (t, false)
  | .none =>
    if tag.kind ≠ .slot && tag.kind ≠ .rawStart && t.head? = some '\n' then (t.drop 1, true)
    else (t, false)

/-- The text before a tag. -/
def textBefore (tag : Tag) (atLineStart : Bool) (t : Text) : Text :=
  match tag.before with
  | .minus => Text.stripEnd t
  | .plus => t
  | .none => if tag.kind = .slot then t else dropLineStart atLineStart t

end Tag

/-- Drops white space around tags; `previous` is the tag right before. -/
def trimAround (previous : Option Tag) : List Segment → List Segment
  | .lit t :: rest =>
    let (t, atLineStart) := match previous with
      | some tag => tag.textAfter t
      | none => (t, true)
    let t := match rest with
      | .tag tag :: _ => tag.textBefore atLineStart t
      | _ => t
    .lit t :: trimAround none rest
  | .tag tag :: rest => .tag tag :: trimAround (some tag) rest
  | .broken :: rest => .broken :: trimAround none rest
  | [] => []

def segments (t : Text) : List Segment := trimAround none (segmentsFrom .lit [] (normalize t))

end CatchAll.Template
