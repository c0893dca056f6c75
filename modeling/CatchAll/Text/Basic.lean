/-!
# Text

A text is a list of characters, so that every rule about text in this library
is a recursion on characters. Lines are separated by line feeds and by nothing
else. White space is the full set of blank characters, which is larger than
the blanks of the source languages that are generated.
-/

set_option autoImplicit false

namespace CatchAll

abbrev Text := List Char

namespace Text

/-- A string literal stands for the list of its characters. -/
scoped instance : Coe String Text := ⟨String.toList⟩

instance lawfulBEq : LawfulBEq Text := inferInstance

/-- White space: the characters that strip, split and line trimming remove. -/
def isBlank (c : Char) : Bool :=
  let n := c.toNat
  (9 ≤ n && n ≤ 13) || (28 ≤ n && n ≤ 32) || n == 0x85 || n == 0xA0 || n == 0x1680 ||
    (0x2000 ≤ n && n ≤ 0x200A) || n == 0x2028 || n == 0x2029 || n == 0x202F ||
    n == 0x205F || n == 0x3000

theorem isBlank_of_isWhitespace (c : Char) (h : c.isWhitespace = true) : isBlank c = true := by
  simp only [Char.isWhitespace, Bool.or_eq_true, decide_eq_true_eq] at h
  rcases h with ((h | h) | h) | h <;> subst h <;> decide

def dropEndWhile (p : Char → Bool) (t : Text) : Text :=
  (t.reverse.dropWhile p).reverse

def stripEnd (t : Text) : Text := dropEndWhile isBlank t

def strip (t : Text) : Text := stripEnd (t.dropWhile isBlank)

/-- A line that shows nothing. -/
def allBlank (t : Text) : Bool := t.all isBlank

def stripLineFeeds (t : Text) : Text :=
  dropEndWhile (· == '\n') (t.dropWhile (· == '\n'))

private def pushFront (c : Char) : List Text → List Text
  | [] => [[c]]
  | piece :: pieces => (c :: piece) :: pieces

/-- The pieces of a text between the characters that satisfy `p`. -/
def cut (p : Char → Bool) (t : Text) : List Text :=
  t.foldr (fun c pieces => if p c then [] :: pieces else pushFront c pieces) [[]]

@[simp] theorem cut_nil (p : Char → Bool) : cut p [] = [[]] := rfl

theorem cut_cons_of_pos (p : Char → Bool) (c : Char) (t : Text) (h : p c = true) :
    cut p (c :: t) = [] :: cut p t := by simp [cut, h]

def lines (t : Text) : List Text := cut (· == '\n') t

def joinWith (separator : Text) (pieces : List Text) : Text :=
  List.intercalate separator pieces

def unlines (ls : List Text) : Text := joinWith ['\n'] ls

/-- The pieces between runs of white space, without empty ones. -/
def words (t : Text) : List Text := (cut isBlank t).filter (· ≠ [])

def includes (piece : Text) : Text → Bool
  | [] => piece.isEmpty
  | c :: rest => piece.isPrefixOf (c :: rest) || includes piece rest

/-- Filled with spaces up to a width. -/
def padEnd (width : Nat) (t : Text) : Text := t ++ List.replicate (width - t.length) ' '

def ofNat (n : Nat) : Text := Nat.toDigits 10 n

def ofInt (i : Int) : Text :=
  if i < 0 then '-' :: ofNat i.natAbs else ofNat i.natAbs

/-- Order by code point, as a test. -/
def le (a b : Text) : Bool := decide (List.le a b)

def sort (ts : List Text) : List Text := ts.mergeSort le

/-- Keeps the first occurrence of each text. -/
def distinct (ts : List Text) : List Text :=
  ts.foldl (fun seen t => if t ∈ seen then seen else seen ++ [t]) []

end Text

end CatchAll
