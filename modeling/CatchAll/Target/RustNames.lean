import CatchAll.Naming.Sanitizer
import CatchAll.Text.Identifier
import CatchAll.Text.Casing
import CatchAll.Text.Quoted

/-!
# Names and literals in Rust

The words that identifiers avoid, the check of a module name, and the literal
of a text: quotes, backslashes and the common controls are escaped with a
letter, all else that cannot be printed with its code.
-/

set_option autoImplicit false

namespace CatchAll.Target.Rust

open scoped Text

def keywords : List Text :=
  ["as", "async", "await", "break", "const", "continue", "crate", "dyn", "else", "enum",
   "extern", "false", "fn", "for", "if", "impl", "in", "let", "loop", "match", "mod", "move",
   "mut", "pub", "ref", "return", "self", "Self", "static", "struct", "super", "trait", "true",
   "type", "unsafe", "use", "where", "while", "abstract", "become", "box", "do", "final", "gen",
   "macro", "override", "priv", "try", "typeof", "unsized", "virtual", "yield"].map String.toList

/-- Names every module sees, in small letters. -/
def preludeNames : List Text :=
  ["option", "result", "some", "none", "ok", "err", "vec", "box", "string"].map
    String.toList

def vocabulary : Naming.Vocabulary := ⟨keywords, preludeNames⟩

inductive ModuleNameFault where
  | empty
  | notAnIdentifier (name : Text)
  | notSmallLetters
  | keyword (name : Text)

def ModuleNameFault.message : ModuleNameFault → Text
  | empty => "Module name cannot be empty"
  | notAnIdentifier name => "'" ++ name ++ "' is not a valid Rust identifier"
  | notSmallLetters => "Module names should be snake_case"
  | keyword name => "'" ++ name ++ "' is a Rust keyword"

def moduleNameFaults (name : Text) : List ModuleNameFault :=
  if name = [] then [.empty]
  else
    (if Text.isIdentifier name && Text.isAscii name then [] else [.notAnIdentifier name]) ++
    (if name = Text.lower name then [] else [.notSmallLetters]) ++
    (if name ∈ keywords then [.keyword name] else [])

def literalChar (c : Char) : Text :=
  if c = '\\' then ['\\', '\\']
  else if c = '"' then ['\\', '"']
  else if c = '\n' then ['\\', 'n']
  else if c = '\r' then ['\\', 'r']
  else if c = '\t' then ['\\', 't']
  else if c = Char.ofNat 0 then ['\\', '0']
  else if Text.isPrintable c then [c]
  else ['\\', 'u', '{'] ++ Nat.toDigits 16 c.toNat ++ ['}']

def literal (t : Text) : Text := '"' :: t.flatMap literalChar ++ ['"']

end CatchAll.Target.Rust
