import CatchAll.Console.EmojiTable
import CatchAll.Text.Casing
import CatchAll.Text.Codes

/-!
# Emoji

A name between two colons, without white space in between, stands for an emoji.
Behind the name it may be asked for as a picture or as text. A name that is not
known stays as it is written.
-/

set_option autoImplicit false

namespace CatchAll.Console.Emoji

open scoped Text

/-- The tones of skin, by the ends of names. -/
def tones : List (Text × Nat) :=
  [("_light_skin_tone", 0x1F3FB), ("_medium-light_skin_tone", 0x1F3FC),
   ("_medium_skin_tone", 0x1F3FD), ("_medium-dark_skin_tone", 0x1F3FE),
   ("_dark_skin_tone", 0x1F3FF)]

/-- Asks for a picture. -/
def pictureMark : Char := Char.ofNat 0xFE0F

/-- Asks for text. -/
def textMark : Char := Char.ofNat 0xFE0E

/-- A letter of a flag. -/
def flagLetter (c : Char) : Char := Char.ofNat (0x1F1E6 + (c.toNat - 'A'.toNat))

/-- The characters of an entry: two capitals of a flag, or codes between dots. -/
def charactersOf (value : Text) : Text :=
  match value with
  | [a, b] =>
    if a.isUpper && b.isUpper then [flagLetter a, flagLetter b]
    else [Char.ofNat (Text.hexNumber value)]
  | _ => (Text.cut (· = '.') value).map fun code => Char.ofNat (Text.hexNumber code)

/-- An entry of the table: the name, whether there are tones of it, and the characters. -/
structure Entry where
  name : Text
  toned : Bool
  characters : Text

def Entry.ofWord (word : Text) : Entry :=
  let name := word.takeWhile (· ≠ '=')
  match (word.dropWhile (· ≠ '=')).drop 1 with
  | '+' :: value => ⟨name, true, charactersOf value⟩
  | value => ⟨name, false, charactersOf value⟩

def entry? (name : Text) : Option Entry :=
  ((Text.words emojiTable.toList).find? fun word =>
    (name ++ "=").isPrefixOf word).map Entry.ofWord

/-- A tone follows the first character, in the place of the mark of a picture. -/
def withTone (tone : Char) : Text → Text
  | c :: rest => c :: tone :: (if rest.head? = some pictureMark then rest.drop 1 else rest)
  | [] => []

/-- The emoji of a name that ends in a tone. -/
def toned? (name : Text) : Option Text :=
  tones.findSome? fun (ending, tone) =>
    if ending.isSuffixOf name then
      match entry? (name.take (name.length - ending.length)) with
      | some e => if e.toned then some (withTone (Char.ofNat tone) e.characters) else none
      | none => none
    else none

def characters? (name : Text) : Option Text :=
  match entry? name with
  | some e => some e.characters
  | none => toned? name

/-- The name without the wish at its end, and the mark for this wish. -/
def cutWish (code : Text) : Text × Text :=
  let without (ending : Text) : Text := code.take (code.length - ending.length)
  if ("-emoji" : Text).isSuffixOf code then (without "-emoji", [pictureMark])
  else if ("-text" : Text).isSuffixOf code then (without "-text", [textMark])
  else (code, [])

/-- What is shown for a code between colons. -/
def shown (code : Text) : Text :=
  let (name, mark) := cutWish code
  match characters? (Text.lower name) with
  | some t => t ++ mark
  | none => ":" ++ code ++ ":"

/-- Goes on behind a colon that may begin a name; what follows it is kept backwards. -/
def replaceFrom : Option Text → Text → Text
  | none, [] => []
  | some back, [] => ':' :: back.reverse
  | none, c :: rest => if c = ':' then replaceFrom (some []) rest else c :: replaceFrom none rest
  | some back, c :: rest =>
    if c = ':' then shown back.reverse ++ replaceFrom none rest
    else if Text.isBlank c then ':' :: back.reverse ++ c :: replaceFrom none rest
    else replaceFrom (some (c :: back)) rest

def replace (t : Text) : Text := replaceFrom none t

end CatchAll.Console.Emoji
