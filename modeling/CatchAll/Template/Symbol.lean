import CatchAll.Json.Reader
import CatchAll.Text.Identifier
import CatchAll.Text.Numeral
import CatchAll.Text.Unescape

/-!
# Symbols in a tag

The inside of a tag is names, numbers, quoted texts and signs. Numbers may be
written with underscores and in four bases, texts with escapes.
-/

set_option autoImplicit false

namespace CatchAll.Template

open scoped Text

inductive Symbol where
  | name (t : Text)
  | value (v : Json)
  | sign (c : Char)

/-! ## Numbers -/

def inBase (base : Nat) (digits : Text) : Nat :=
  digits.foldl (fun n c => base * n + (Text.hexValue? c).getD 0) 0

/-- Digits after a prefix that tells the base. -/
def based? (base : Nat) (t : Text) : Option (Json × Text) :=
  let isDigit (c : Char) : Bool := match Text.hexValue? c with
    | some d => d < base
    | none => false
  match Text.cutDigits isDigit true t with
  | ([], _) => none
  | (digits, rest) => some (.int (inBase base digits), rest)

/-- A point counts only with digits behind it. -/
def cutFraction (t : Text) : Option Text × Text :=
  match t with
  | '.' :: rest =>
    match Text.cutDigits Char.isDigit false rest with
    | ([], _) => (none, t)
    | (digits, rest) => (some digits, rest)
  | _ => (none, t)

/-- A number in base ten. Of digits that begin with a zero, only zeros are whole. -/
def decimal? (t : Text) : Option (Json × Text) := do
  let (digits, rest) := Text.cutDigits Char.isDigit false t
  let (fraction, rest) := cutFraction rest
  let (exponent, rest) := Text.cutExponent rest
  let whole := fraction.isNone && exponent.isNone
  if digits.isEmpty || (whole && digits.head? = some '0' && digits.any (· ≠ '0')) then none
  else
    let v ← (Json.NumberParts.value ⟨false, digits, fraction, exponent⟩).toOption
    return (v, rest)

def number? : Text → Option (Json × Text)
  | '0' :: 'x' :: rest | '0' :: 'X' :: rest => based? 16 rest
  | '0' :: 'o' :: rest | '0' :: 'O' :: rest => based? 8 rest
  | '0' :: 'b' :: rest | '0' :: 'B' :: rest => based? 2 rest
  | t => decimal? t

/-! ## Texts and all symbols -/

/-- What stands before the closing mark, and what follows it. -/
def cutQuoted (mark : Char) : Text → Option (Text × Text)
  | '\\' :: c :: rest => (cutQuoted mark rest).map fun (t, after) => ('\\' :: c :: t, after)
  | c :: rest =>
    if c = mark then some ([], rest)
    else (cutQuoted mark rest).map fun (t, after) => (c :: t, after)
  | [] => none

def isSign (c : Char) : Bool :=
  c ∈ ['+', '-', '/', '*', '%', '~', '[', ']', '(', ')', '{', '}', '=', '!', '>', '<', '.', ':',
    '|', ',', ';']

/-- The symbol at the start of a text. -/
def symbol? : Text → Option (Symbol × Text)
  | c :: rest =>
    if c.isDigit then (number? (c :: rest)).map fun (v, rest) => (.value v, rest)
    else if Text.isIdentifierStart c then
      some (.name (c :: rest.takeWhile Text.isIdentifierPart),
        rest.dropWhile Text.isIdentifierPart)
    else if c = '"' || c = '\'' then do
      let (t, after) ← cutQuoted c rest
      return (.value (.str (← Text.unescape? t)), after)
    else if isSign c then some (.sign c, rest)
    else none
  | [] => none

/-- All symbols, in as many steps as there are characters at most. -/
def symbolsIn? : Nat → Text → Option (List Symbol)
  | _, [] => some []
  | 0, _ => none
  | steps + 1, c :: rest =>
    if Text.isBlank c then symbolsIn? steps rest
    else do
      let (symbol, rest) ← symbol? (c :: rest)
      return symbol :: (← symbolsIn? steps rest)

def symbols? (t : Text) : Option (List Symbol) := symbolsIn? t.length t

end CatchAll.Template
