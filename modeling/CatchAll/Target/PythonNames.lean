import CatchAll.Naming.Sanitizer
import CatchAll.Text.Quoted

/-!
# Names and literals in Python

The words that type names and member names avoid, the literal of a text, and
text made ready for a documentation string.
-/

set_option autoImplicit false

namespace CatchAll.Target.Python

open scoped Text

def keywords : List Text :=
  ["False", "None", "True", "and", "as", "assert", "async", "await", "break", "class",
   "continue", "def", "del", "elif", "else", "except", "finally", "for", "from", "global", "if",
   "import", "in", "is", "lambda", "nonlocal", "not", "or", "pass", "raise", "return", "try",
   "while", "with", "yield"].map String.toList

/-- Built-in names that a class must not hide. -/
def builtins : List Text :=
  ["int", "float", "str", "bool", "list", "dict", "set", "tuple", "bytes", "bytearray",
   "frozenset", "range", "object", "type", "complex", "memoryview", "property", "staticmethod",
   "classmethod", "super", "len", "print", "open", "hash", "repr", "format", "iter", "next",
   "slice", "callable"].map String.toList

/-- Attributes of a generated class that a member must not replace. -/
def attributes : List Text :=
  ["from_str", "parse", "as_str", "values", "name", "_name", "_value"].map String.toList

def vocabulary : Naming.Vocabulary := ⟨keywords, builtins⟩

def memberVocabulary : Naming.Vocabulary := ⟨keywords ++ attributes, []⟩

def literalChar (c : Char) : Text :=
  if c = '\\' then ['\\', '\\']
  else if c = '"' then ['\\', '"']
  else if c = '\n' then ['\\', 'n']
  else if c = '\r' then ['\\', 'r']
  else if c = '\t' then ['\\', 't']
  else if Text.isPrintable c then [c]
  else Text.codeEscape c

def literal (t : Text) : Text := '"' :: t.flatMap literalChar ++ ['"']

def doubleBackslashes (t : Text) : Text :=
  t.flatMap fun c => if c = '\\' then ['\\', '\\'] else [c]

/-- Escapes each three quotes in a row. -/
def escapeTriples : Text → Text
  | '"' :: '"' :: '"' :: rest => ['\\', '"', '\\', '"', '\\', '"'] ++ escapeTriples rest
  | c :: rest => c :: escapeTriples rest
  | [] => []

/-- Puts a backslash before a quote at the end. -/
def escapeLast (t : Text) : Text :=
  if t.getLast? = some '"' then t.dropLast ++ ['\\', '"'] else t

def docstring (t : Text) : Text := escapeLast (escapeTriples (doubleBackslashes t))

end CatchAll.Target.Python
