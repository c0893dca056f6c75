import CatchAll.Journal
import CatchAll.Text.Casing
import CatchAll.Web.Host

/-!
# Web addresses

An address is cut into its scheme and its authority; the rest is not looked at.
Leading blanks and line breaks anywhere are not part of it. Brackets in the
authority have to enclose a host, and no character may stand for a delimiter.
-/

set_option autoImplicit false

namespace CatchAll.Web

open scoped Text

structure Url where
  scheme : Text
  authority : Text

namespace Url

def isControlOrSpace (c : Char) : Bool := c.toNat ≤ 0x20

def isDropped (c : Char) : Bool := c = '\t' || c = '\n' || c = '\r'

def isSchemeChar (c : Char) : Bool := c.isAlphanum || c = '+' || c = '-' || c = '.'

/-- A scheme begins with a letter and ends at the first colon. -/
def cutScheme (t : Text) : Text × Text :=
  let name := t.takeWhile (· ≠ ':')
  match t.dropWhile (· ≠ ':') with
  | _ :: rest =>
    if (name.head?.any Char.isAlpha) && name.all isSchemeChar then (Text.lower name, rest)
    else ([], t)
  | [] => ([], t)

def isDelimiter (c : Char) : Bool := c = '/' || c = '?' || c = '#'

def cutAuthority : Text → Text
  | '/' :: '/' :: rest => rest.takeWhile (!isDelimiter ·)
  | _ => []

/-- What follows the last character of a kind; the whole text if there is none. -/
def afterLast (c : Char) (t : Text) : Text := (t.reverse.takeWhile (· ≠ c)).reverse

/-- The host of an authority in which brackets occur, if they enclose one: nothing
but a user stands before them, and nothing but a port behind them. -/
def bracketed? (authority : Text) : Option Text :=
  let place := afterLast '@' authority
  match place.takeWhile (· ≠ '['), place.dropWhile (· ≠ '[') with
  | [], _ :: inside =>
    match (inside.dropWhile (· ≠ ']')).drop 1 with
    | [] | ':' :: _ => some (inside.takeWhile (· ≠ ']'))
    | _ => none
  | _, _ :: _ => none
  | host, [] => some (host.takeWhile (· ≠ ':'))

/-- Brackets come in pairs, and enclose a host. -/
def bracketsFit (authority : Text) : Bool :=
  if '[' ∈ authority && ']' ∈ authority then
    ((bracketed? authority).map isBracketedHost).getD false
  else '[' ∉ authority && ']' ∉ authority

/-- Characters that are equivalent to a text with a delimiter in it. -/
def lookalikes : List Nat :=
  [0x2047, 0x2048, 0x2049, 0x2100, 0x2101, 0x2105, 0x2106, 0x2A74, 0xFE13, 0xFE16, 0xFE55,
   0xFE56, 0xFE5F, 0xFE6B, 0xFF03, 0xFF0F, 0xFF1A, 0xFF1F, 0xFF20]

def hasLookalike (t : Text) : Bool := t.any fun c => c.toNat ∈ lookalikes

def read (t : Text) : Except Outside Url :=
  let t := (t.dropWhile isControlOrSpace).filter (!isDropped ·)
  let (scheme, rest) := cutScheme t
  let authority := cutAuthority rest
  if bracketsFit authority && !hasLookalike authority then .ok ⟨scheme, authority⟩
  else .error .badValue

/-- Only an address with both parts can be fetched. -/
def isComplete (u : Url) : Bool := u.scheme ≠ [] && u.authority ≠ []

end Url

end CatchAll.Web
