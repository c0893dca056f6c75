import CatchAll.Text.Identifier
import CatchAll.Text.Numeral
import CatchAll.Text.Unescape

/-!
# Literals

A tag may carry values: numbers, texts, the three named constants, and tuples,
lists, sets and dictionaries of them. Here is told which texts write such values.
What is in a set or is the key of a dictionary has to be fixed; of the operations
only a sign and the sum of a real and an imaginary number are values.
-/

set_option autoImplicit false

namespace CatchAll.Console.Literal

open scoped Text

inductive Token where
  | sign (c : Char)
  | dots
  | name (t : Text)
  | number (imaginary : Bool)
  | text (wide : Bool)

/-! ## Numbers -/

/-- The point of a fraction with its digits, if there is one, and what follows. -/
def cutFraction (t : Text) : Bool × Text :=
  match t with
  | '.' :: rest => (true, (Text.cutDigits Char.isDigit false rest).2)
  | _ => (false, t)

/-- The longest whole number. -/
def maxDigits : Nat := 4300

/-- Whole numbers do not begin with a zero, unless they are zero. -/
def isWhole (digits : Text) : Bool :=
  digits.length ≤ maxDigits && (digits.head? ≠ some '0' || digits.all (· = '0'))

def decimal? (t : Text) : Option (Token × Text) :=
  let (digits, rest) := Text.cutDigits Char.isDigit false t
  let (hasFraction, rest) := cutFraction rest
  let (exponent, rest) := Text.cutExponent rest
  match rest with
  | 'j' :: rest | 'J' :: rest => some (.number true, rest)
  | rest =>
    if hasFraction || exponent.isSome || isWhole digits then some (.number false, rest) else none

def prefixed? (isDigit : Char → Bool) (t : Text) : Option (Token × Text) :=
  match Text.cutDigits isDigit true t with
  | ([], _) => none
  | (_, rest) => some (.number false, rest)

/-- A number at the start of a text. No letter or digit touches its end. -/
def number? (t : Text) : Option (Token × Text) := do
  let (token, rest) ← match t with
    | '0' :: 'x' :: rest | '0' :: 'X' :: rest => prefixed? Text.isHexDigit rest
    | '0' :: 'o' :: rest | '0' :: 'O' :: rest => prefixed? Text.Unescape.isOctalDigit rest
    | '0' :: 'b' :: rest | '0' :: 'B' :: rest => prefixed? (fun c => c = '0' || c = '1') rest
    | t => decimal? t
  if rest.head?.any Text.isIdentifierPart then none else return (token, rest)

/-! ## Texts -/

/-- How a text is written: as bytes or not, and with escapes or not. -/
structure Manner where
  wide : Bool
  raw : Bool

def Manner.ofLetters? (letters : Text) : Option Manner :=
  let letters := letters.map Char.toLower
  if letters = [] || letters = "u" then some ⟨true, false⟩
  else if letters = "r" then some ⟨true, true⟩
  else if letters = "b" then some ⟨false, false⟩
  else if letters = "br" || letters = "rb" then some ⟨false, true⟩
  else none

def Manner.accepts (m : Manner) (body : Text) : Bool :=
  (m.wide || body.all (·.toNat < 0x80)) &&
    (m.raw || (Text.Unescape.codes? m.wide body).isSome)

/-- The body of a text up to its closing marks, and what follows them. -/
def cutBody (closing : Text) : Text → Option (Text × Text)
  | [] => none
  | '\\' :: c :: rest => (cutBody closing rest).map fun (body, after) => ('\\' :: c :: body, after)
  | c :: rest =>
    if closing.isPrefixOf (c :: rest) then some ([], (c :: rest).drop closing.length)
    else if c = '\n' && closing.length = 1 then none
    else (cutBody closing rest).map fun (body, after) => (c :: body, after)

/-- A text behind its opening mark. -/
def text? (m : Manner) (mark : Char) (t : Text) : Option (Token × Text) := do
  let (closing, t) := match t with
    | a :: b :: rest => if a = mark && b = mark then ([mark, mark, mark], rest) else ([mark], t)
    | t => ([mark], t)
  let (body, rest) ← cutBody closing t
  if m.accepts body then return (.text m.wide, rest) else none

/-! ## Tokens -/

def isMark (c : Char) : Bool := c = '\'' || c = '"'

def isOpening (c : Char) : Bool := c = '(' || c = '[' || c = '{'

def isClosing (c : Char) : Bool := c = ')' || c = ']' || c = '}'

def isSign (c : Char) : Bool :=
  isOpening c || isClosing c || c = ',' || c = ':' || c = '+' || c = '-'

def isSpace (c : Char) : Bool := c = ' ' || c = '\t' || c = '\x0c'

/-- A name, or a text with letters before it. -/
def word? (t : Text) : Option (Token × Text) :=
  let word := t.takeWhile Text.isIdentifierPart
  match t.dropWhile Text.isIdentifierPart with
  | mark :: rest =>
    if isMark mark then do text? (← Manner.ofLetters? word) mark rest
    else some (.name word, mark :: rest)
  | [] => some (.name word, [])

/-- The token at the start of a text. -/
def token? : Text → Option (Token × Text)
  | '.' :: '.' :: '.' :: rest => some (.dots, rest)
  | '.' :: rest => if rest.head?.any Char.isDigit then number? ('.' :: rest) else none
  | c :: rest =>
    if c.isDigit then number? (c :: rest)
    else if isMark c then text? ⟨true, false⟩ c rest
    else if isSign c then some (.sign c, rest)
    else if Text.isIdentifierStart c then word? (c :: rest)
    else none
  | [] => none

def depthAfter (depth : Nat) : Token → Nat
  | .sign c => if isOpening c then depth + 1 else if isClosing c then depth - 1 else depth
  | _ => depth

/-- All tokens, in as many steps as there are characters at most. A line may end only
inside of brackets. -/
def tokens? : Nat → Nat → Text → Option (List Token)
  | _, _, [] => some []
  | 0, _, _ => none
  | steps + 1, depth, c :: rest =>
    if isSpace c || (c = '\n' && 0 < depth) then tokens? steps depth rest
    else if c = '#' then tokens? steps depth (rest.dropWhile (· ≠ '\n'))
    else if c = '\\' && rest.head? = some '\n' then tokens? steps depth (rest.drop 1)
    else do
      let (token, rest) ← token? (c :: rest)
      return token :: (← tokens? steps (depthAfter depth token) rest)

/-! ## Values -/

/-- What is told about a value: whether it is a number and has a sign, else whether it
is fixed. -/
inductive Shape where
  | real (signed : Bool)
  | imaginary (signed : Bool)
  | other (fixed : Bool)

namespace Shape

def isFixed : Shape → Bool
  | other fixed => fixed
  | _ => true

def signed? : Shape → Option Shape
  | real false => some (real true)
  | imaginary false => some (imaginary true)
  | _ => none

def sum? : Shape → Shape → Option Shape
  | real _, imaginary false => some (other true)
  | _, _ => none

/-- What brackets make of the values in them; each with whether it is a key. -/
def ofBrackets? (opening : Char) (inside : List (Shape × Bool)) (comma : Bool) : Option Shape :=
  let keyed := inside.any (·.2)
  let fixed := inside.all (·.1.isFixed)
  if opening = '{' then
    if fixed && (!keyed || inside.all (·.2)) then some (other false) else none
  else if keyed then none
  else if opening = '[' then some (other false)
  else match inside with
    | [(shape, _)] => some (if comma then other fixed else shape)
    | _ => some (other fixed)

end Shape

def closingOf (opening : Char) : Char :=
  if opening = '(' then ')' else if opening = '[' then ']' else '}'

def isConstant (t : Text) : Bool := t = "None" || t = "True" || t = "False"

/-- Behind a closing bracket, or at the end if there is none to wait for. -/
def behind? : Option Char → List Token → Option (List Token)
  | some c, .sign d :: rest => if c = d then some rest else none
  | none, [] => some []
  | _, _ => none

/-- Texts side by side are one text. -/
def textsFrom? (wide : Bool) : List Token → Option (Shape × List Token)
  | .text other :: rest => if other = wide then textsFrom? wide rest else none
  | rest => some (.other true, rest)

mutual

def atom? : Nat → List Token → Option (Shape × List Token)
  | steps + 1, .sign c :: rest =>
    if isOpening c then do
      let (inside, comma, rest) ← inside? steps (some (closingOf c)) rest
      return (← Shape.ofBrackets? c inside comma, rest)
    else none
  | _, .number imaginary :: rest =>
    some (if imaginary then .imaginary false else .real false, rest)
  | _, .text wide :: rest => textsFrom? wide rest
  | _, .dots :: rest => some (.other true, rest)
  | _, .name t :: .sign '(' :: .sign ')' :: rest =>
    if t = "set" then some (.other false, rest) else none
  | _, .name t :: rest => if isConstant t then some (.other true, rest) else none
  | _, _ => none

def operand? : Nat → List Token → Option (Shape × List Token)
  | steps + 1, .sign '+' :: rest | steps + 1, .sign '-' :: rest => do
    let (shape, rest) ← atom? steps rest
    return (← shape.signed?, rest)
  | steps + 1, rest => atom? steps rest
  | 0, _ => none

def value? : Nat → List Token → Option (Shape × List Token)
  | steps + 1, ts => do
    let (left, rest) ← operand? steps ts
    match rest with
    | .sign '+' :: rest | .sign '-' :: rest =>
      let (right, rest) ← operand? steps rest
      return (← left.sum? right, rest)
    | rest => return (left, rest)
  | 0, _ => none

/-- The values up to a closing bracket, each with whether it is a key, whether there
is a comma among them, and what follows. -/
def inside? : Nat → Option Char → List Token → Option (List (Shape × Bool) × Bool × List Token)
  | steps + 1, closing, ts =>
    match behind? closing ts with
    | some rest => some ([], false, rest)
    | none => do
      let (shape, rest) ← value? steps ts
      let (isKey, rest) ← match rest with
        | .sign ':' :: rest => (value? steps rest).map fun (_, rest) => (true, rest)
        | rest => some (false, rest)
      match rest with
      | .sign ',' :: rest =>
        let (more, _, rest) ← inside? steps closing rest
        return ((shape, isKey) :: more, true, rest)
      | rest => return ([(shape, isKey)], false, ← behind? closing rest)
  | 0, _, _ => none

end

/-- A text that writes a value; several with commas between them are one. -/
def isLiteral (t : Text) : Bool :=
  let t := t.map fun c => if c = '\r' then '\n' else c
  let found : Option Shape := do
    if '\x00' ∈ t then none
    let ts ← tokens? (t.length + 1) 0 t
    let (inside, comma, _) ← inside? (4 * ts.length + 4) none ts
    if inside.isEmpty then none else Shape.ofBrackets? '(' inside comma
  found.isSome

end CatchAll.Console.Literal
