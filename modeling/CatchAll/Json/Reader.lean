import CatchAll.Decimal.Number
import CatchAll.Json.Basic
import CatchAll.Text.Codes

/-!
# Reading document text

A text is cut into tokens by one pass over its characters, and the tokens are
put together by one pass with a stack of the open brackets. A number without a
fraction or an exponent is whole; the words for the numbers that are no
quotients are read as well. Escapes that pair up stand for one character.
-/

set_option autoImplicit false

namespace CatchAll.Json

open scoped Text

/-- Why a text holds no value: its form, a whole number with too many digits, or
too many brackets inside each other. -/
inductive ReadFailure where
  | malformed
  | numberTooLong
  | tooDeep
  deriving DecidableEq

inductive Token where
  | mark (c : Char)
  | word (t : Text)
  | str (t : Text)
  | bad

namespace Token

/-- What the pass over the characters is inside of. Texts are kept backwards,
as code numbers, since an escape may give half a character. -/
inductive Mode where
  | between
  | word (back : Text)
  | str (back : List Nat)
  | escape (back : List Nat)
  | code (back : List Nat) (left value : Nat)
  | stopped

structure Scan where
  mode : Mode
  back : List Token

def isSpace (c : Char) : Bool := c = ' ' || c = '\t' || c = '\n' || c = '\r'

def isMark (c : Char) : Bool :=
  c = '{' || c = '}' || c = '[' || c = ']' || c = ':' || c = ','

def escaped? (c : Char) : Option Nat :=
  match c with
  | '"' => some 0x22
  | '\\' => some 0x5C
  | '/' => some 0x2F
  | 'b' => some 8
  | 'f' => some 12
  | 'n' => some 10
  | 'r' => some 13
  | 't' => some 9
  | _ => none

def stop (back : List Token) : Scan := ⟨.stopped, .bad :: back⟩

/-- A character outside of words and texts. -/
def opening (back : List Token) (c : Char) : Scan :=
  if isSpace c then ⟨.between, back⟩
  else if isMark c then ⟨.between, .mark c :: back⟩
  else if c = '"' then ⟨.str [], back⟩
  else ⟨.word [c], back⟩

def advance (s : Scan) (c : Char) : Scan :=
  match s.mode with
  | .between => opening s.back c
  | .word w =>
    if isSpace c || isMark c || c = '"' then opening (.word w.reverse :: s.back) c
    else ⟨.word (c :: w), s.back⟩
  | .str ns =>
    if c = '"' then ⟨.between, .str (Text.ofCodes ns.reverse) :: s.back⟩
    else if c = '\\' then ⟨.escape ns, s.back⟩
    else if c.toNat < 0x20 then stop s.back
    else ⟨.str (c.toNat :: ns), s.back⟩
  | .escape ns =>
    if c = 'u' then ⟨.code ns 4 0, s.back⟩
    else match escaped? c with
      | some n => ⟨.str (n :: ns), s.back⟩
      | none => stop s.back
  | .code ns left value =>
    match Text.hexValue? c with
    | none => stop s.back
    | some d =>
      if left ≤ 1 then ⟨.str ((value * 16 + d) :: ns), s.back⟩
      else ⟨.code ns (left - 1) (value * 16 + d), s.back⟩
  | .stopped => s

def scan (t : Text) : List Token :=
  let last := t.foldl advance ⟨.between, []⟩
  let back := match last.mode with
    | .between => last.back
    | .word w => .word w.reverse :: last.back
    | .stopped => last.back
    | _ => .bad :: last.back
  back.reverse

end Token

def isDigit (c : Char) : Bool := '0' ≤ c && c ≤ '9'

def digitsValue (ds : Text) : Nat :=
  ds.foldl (fun n c => n * 10 + (c.toNat - '0'.toNat)) 0

/-- A sign, the whole part, the fraction and the exponent of a number word. -/
structure NumberParts where
  negative : Bool
  whole : Text
  fraction : Option Text
  exponent : Option (Bool × Text)

/-- The exponent at the start of a text, and what follows. A mark without digits is none. -/
def cutExponent (t : Text) : Option (Bool × Text) × Text :=
  match t with
  | e :: rest =>
    let (negative, rest) := match rest with
      | '-' :: rest => (true, rest)
      | '+' :: rest => (false, rest)
      | rest => (false, rest)
    let ds := rest.takeWhile isDigit
    if (e = 'e' || e = 'E') && ds ≠ [] then (some (negative, ds), rest.dropWhile isDigit)
    else (none, t)
  | [] => (none, t)

/-- The fraction at the start of a text, and what follows. A point without digits is none. -/
def cutFraction (t : Text) : Option Text × Text :=
  match t with
  | '.' :: rest =>
    let ds := rest.takeWhile isDigit
    if ds = [] then (none, t) else (some ds, rest.dropWhile isDigit)
  | _ => (none, t)

/-- The whole part at the start of a text, and what follows. Nothing follows a zero. -/
def cutWhole (t : Text) : Text × Text :=
  match t with
  | '0' :: rest => (['0'], rest)
  | _ => (t.takeWhile isDigit, t.dropWhile isDigit)

/-- The number that a word begins with, and the rest of the word. -/
def numberParts? (word : Text) : Option (NumberParts × Text) :=
  let (negative, unsigned) := match word with
    | '-' :: rest => (true, rest)
    | rest => (false, rest)
  let (whole, rest) := cutWhole unsigned
  let (fraction, rest) := cutFraction rest
  let (exponent, rest) := cutExponent rest
  if whole = [] then none else some (⟨negative, whole, fraction, exponent⟩, rest)

/-- The longest whole number that is read. -/
def maxDigits : Nat := 4300

def NumberParts.value (p : NumberParts) : Except ReadFailure Json :=
  match p.fraction, p.exponent with
  | none, none =>
    if p.whole.length > maxDigits then .error .numberTooLong
    else
      let n := digitsValue p.whole
      .ok (.int (if p.negative then -(n : Int) else n))
  | fraction, exponent =>
    let places := fraction.getD []
    let shift : Int := match exponent with
      | some (true, ds) => -(digitsValue ds : Int)
      | some (false, ds) => digitsValue ds
      | none => 0
    let f := Decimal.nearest (digitsValue (p.whole ++ places)) (shift - places.length)
    .ok (.num (if p.negative then -f else f))

def readWord (word : Text) : Except ReadFailure Json :=
  if word = "null" then .ok .null
  else if word = "true" then .ok (.bool true)
  else if word = "false" then .ok (.bool false)
  else if word = "NaN" then .ok (.num (0 / 0))
  else if word = "Infinity" then .ok (.num (1 / 0))
  else if word = "-Infinity" then .ok (.num (-1 / 0))
  else match numberParts? word with
    | some (parts, rest) => do
      let v ← parts.value
      if rest = [] then return v else throw .malformed
    | none => .error .malformed

/-- An open bracket with what has been read inside it, backwards. -/
inductive Frame where
  | items (back : List Json)
  | fields (back : List (Text × Json))
  | keyed (back : List (Text × Json)) (key : Text)

inductive Expected where
  | value
  | valueOrClose
  | separator
  | key
  | keyOrClose
  | colon
  deriving DecidableEq

structure Assembly where
  expected : Expected
  frames : List Frame
  result : Option Json

/-- A value is complete: it goes into the innermost open bracket. -/
def Assembly.place (v : Json) : List Frame → Except ReadFailure Assembly
  | [] => .ok ⟨.separator, [], some v⟩
  | .items back :: rest => .ok ⟨.separator, .items (v :: back) :: rest, none⟩
  | .keyed back key :: rest => .ok ⟨.separator, .fields ((key, v) :: back) :: rest, none⟩
  | .fields _ :: _ => .error .malformed

def Assembly.close (c : Char) : List Frame → Except ReadFailure Assembly
  | .items back :: rest =>
    if c = ']' then place (.arr back.reverse) rest else .error .malformed
  | .fields back :: rest =>
    if c = '}' then place (.obj (Table.ofPairs back.reverse)) rest else .error .malformed
  | _ => .error .malformed

def Assembly.separate : List Frame → Except ReadFailure Assembly
  | .items back :: rest => .ok ⟨.value, .items back :: rest, none⟩
  | .fields back :: rest => .ok ⟨.key, .fields back :: rest, none⟩
  | _ => .error .malformed

/-- How many brackets may be open at once. -/
def maxDepth : Nat := 985

def Assembly.enter (expected : Expected) (frame : Frame) (frames : List Frame) :
    Except ReadFailure Assembly :=
  if frames.length < maxDepth then .ok ⟨expected, frame :: frames, none⟩ else .error .tooDeep

def Assembly.add (a : Assembly) (token : Token) : Except ReadFailure Assembly :=
  match a.expected, token, a.frames with
  | .value, .mark '[', frames => enter .valueOrClose (.items []) frames
  | .value, .mark '{', frames => enter .keyOrClose (.fields []) frames
  | .value, .str t, frames => place (.str t) frames
  | .value, .word w, frames => do place (← readWord w) frames
  | .valueOrClose, .mark '[', frames => enter .valueOrClose (.items []) frames
  | .valueOrClose, .mark '{', frames => enter .keyOrClose (.fields []) frames
  | .valueOrClose, .str t, frames => place (.str t) frames
  | .valueOrClose, .word w, frames => do place (← readWord w) frames
  | .valueOrClose, .mark ']', frames => close ']' frames
  | .separator, .mark ',', frames => separate frames
  | .separator, .mark c, frames => close c frames
  | .key, .str t, .fields back :: rest => .ok ⟨.colon, .keyed back t :: rest, none⟩
  | .keyOrClose, .str t, .fields back :: rest => .ok ⟨.colon, .keyed back t :: rest, none⟩
  | .keyOrClose, .mark '}', frames => close '}' frames
  | .colon, .mark ':', frames => .ok ⟨.value, frames, none⟩
  | _, _, _ => .error .malformed

def read (t : Text) : Except ReadFailure Json := do
  let last ← (Token.scan t).foldlM Assembly.add ⟨.value, [], none⟩
  match last.result with
  | some v => .ok v
  | none => .error .malformed

end CatchAll.Json
