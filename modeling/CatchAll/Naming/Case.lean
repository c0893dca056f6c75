import CatchAll.Text.Basic

/-!
# Words and naming cases

A name is written from the words of a text. Words are runs of the letters and
digits of the basic alphabet. Inside a run a new word begins at a capital
after a small letter or digit, and at the last capital of several when a small
letter follows it.
-/

set_option autoImplicit false

namespace CatchAll.Naming

open scoped Text

inductive Case where
  | snake
  | camel
  | pascal
  | screamingSnake
  deriving DecidableEq

namespace Case

def all : List Case := [camel, pascal, screamingSnake, snake]

def label : Case → Text
  | snake => "snake"
  | camel => "camel"
  | pascal => "pascal"
  | screamingSnake => "screaming_snake"

def ofLabel? (t : Text) : Option Case := all.find? (·.label == t)

end Case

/-- A word begins between `a` and `b`, where `rest` comes after `b`. -/
def breaksBetween (a b : Char) (rest : Text) : Bool :=
  ((a.isLower || a.isDigit) && b.isUpper) ||
    (a.isUpper && b.isUpper && rest.head?.any Char.isLower)

/-- Puts an underscore at each place where a word begins inside a run. -/
def markBreaks : Text → Text
  | a :: b :: rest =>
    if breaksBetween a b rest then a :: '_' :: markBreaks (b :: rest)
    else a :: markBreaks (b :: rest)
  | t => t

def lowerWord (w : Text) : Text := w.map Char.toLower

/-- The words of a text, in small letters. -/
def words (t : Text) : List Text :=
  ((Text.cut (fun c => !c.isAlphanum) (markBreaks t)).filter (· ≠ [])).map lowerWord

def capitalize : Text → Text
  | [] => []
  | c :: rest => c.toUpper :: rest

def Case.write : Case → List Text → Text
  | .snake, ws => Text.joinWith "_" ws
  | .screamingSnake, ws => (Text.joinWith "_" ws).map Char.toUpper
  | .pascal, ws => ws.flatMap capitalize
  | .camel, [] => []
  | .camel, w :: ws => w ++ ws.flatMap capitalize

/-- An identifier does not begin with a digit. -/
def guardDigit (t : Text) : Text :=
  match t with
  | c :: _ => if c.isDigit then '_' :: t else t
  | [] => []

/-- The identifier a text converts to, empty when the text has no words. -/
def identifier (case : Case) (t : Text) : Text := guardDigit (case.write (words t))

end CatchAll.Naming
