import CatchAll.Text.Named
import CatchAll.Text.Quoted

/-!
# Escapes

What a text with backslash escapes stands for. An escape gives a character by a
letter, by up to three octal digits, by two, four or eight hexadecimal digits or
by its name; an escaped line feed is nothing. A backslash before any other
character is itself, but one before a character without an escape of its own
shows the code of that character.
-/

set_option autoImplicit false

namespace CatchAll.Text.Unescape

open scoped Text

/-- What the pass over the characters is inside of. -/
inductive Mode where
  | plain
  | escape
  | octal (left value : Nat)
  | code (left value : Nat)
  | brace
  | name (back : Text)

/-- The codes so far are kept backwards. -/
structure Scan where
  mode : Mode
  back : List Nat

def letterCode? (c : Char) : Option Nat :=
  match c with
  | '\\' => some 0x5C
  | '\'' => some 0x27
  | '"' => some 0x22
  | 'a' => some 7
  | 'b' => some 8
  | 't' => some 9
  | 'n' => some 10
  | 'v' => some 11
  | 'f' => some 12
  | 'r' => some 13
  | _ => none

def isOctalDigit (c : Char) : Bool := '0' ≤ c && c ≤ '7'

def octalValue (c : Char) : Nat := c.toNat - '0'.toNat

def plainly (back : List Nat) (c : Char) : Scan :=
  if c = '\\' then ⟨.escape, back⟩ else ⟨.plain, c.toNat :: back⟩

/-- The character after a backslash. Escapes with four digits and more, and names, are
for wide characters. -/
def escaped (wide : Bool) (back : List Nat) (c : Char) : Scan :=
  match letterCode? c with
  | some n => ⟨.plain, n :: back⟩
  | none =>
    if c = '\n' then ⟨.plain, back⟩
    else if isOctalDigit c then ⟨.octal 2 (octalValue c), back⟩
    else if c = 'x' then ⟨.code 2 0, back⟩
    else if wide && c = 'u' then ⟨.code 4 0, back⟩
    else if wide && c = 'U' then ⟨.code 8 0, back⟩
    else if wide && c = 'N' then ⟨.brace, back⟩
    else if c.toNat < 0x80 then ⟨.plain, c.toNat :: 0x5C :: back⟩
    else ⟨.plain, (codeEscape c).reverse.map Char.toNat ++ back⟩

def advance (wide : Bool) (s : Scan) (c : Char) : Option Scan :=
  match s.mode with
  | .plain => some (plainly s.back c)
  | .escape => some (escaped wide s.back c)
  | .octal left value =>
    if left > 0 && isOctalDigit c then
      some ⟨.octal (left - 1) (8 * value + octalValue c), s.back⟩
    else some (plainly (value :: s.back) c)
  | .code left value => do
    let value := 16 * value + (← hexValue? c)
    if left > 1 then return ⟨.code (left - 1) value, s.back⟩
    else if value ≤ maxCode then return ⟨.plain, value :: s.back⟩
    else none
  | .brace => if c = '{' then some ⟨.name [], s.back⟩ else none
  | .name back =>
    if c = '}' then (named? back.reverse).map fun n => ⟨.plain, n :: s.back⟩
    else some ⟨.name (c :: back), s.back⟩

/-- The codes of the characters, if every escape is complete. -/
def codes? (wide : Bool) (t : Text) : Option (List Nat) := do
  let last ← t.foldlM (advance wide) ⟨.plain, []⟩
  match last.mode with
  | .plain => return last.back.reverse
  | .octal _ value => return (value :: last.back).reverse
  | _ => none

end CatchAll.Text.Unescape

namespace CatchAll.Text

def unescape? (t : Text) : Option Text := (Unescape.codes? true t).map ofCodes

end CatchAll.Text
