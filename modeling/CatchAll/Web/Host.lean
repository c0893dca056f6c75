import CatchAll.Text.Codes

/-!
# Hosts in brackets

What may stand between the brackets of a web address: an address of eight
groups of hexadecimal digits, or one in a later format that gives its version.
One run of zero groups may be left out; the last two groups may be written as
four decimal numbers.
-/

set_option autoImplicit false

namespace CatchAll.Web

open scoped Text

/-- One to four hexadecimal digits. -/
def isGroup (t : Text) : Bool := t ≠ [] && t.length ≤ 4 && t.all Text.isHexDigit

/-- A number below 256 without leading zeros. -/
def isOctet (t : Text) : Bool :=
  t ≠ [] && t.length ≤ 3 && t.all Char.isDigit && (t = ['0'] || t.head? ≠ some '0') &&
    t.foldl (fun n c => 10 * n + (c.toNat - '0'.toNat)) 0 < 256

def isDotted (t : Text) : Bool :=
  let parts := Text.cut (· = '.') t
  parts.length = 4 && parts.all isOctet

/-- The groups of an address; four decimal numbers at the end are two groups. -/
def groupsOf (t : Text) : Option (List Text) :=
  let parts := Text.cut (· = ':') t
  match parts.getLast? with
  | some last =>
    if '.' ∈ last then
      if isDotted last then some (parts.dropLast ++ [['0'], ['0']]) else none
    else some parts
  | none => none

/-- The groups on one side of the run that is left out. The outermost may be
empty only if it is the only one. -/
def isSide (outer : Option Text) (groups : List Text) : Option Nat :=
  if outer = some [] then (if groups.length = 1 then some 0 else none)
  else if groups.all isGroup then some groups.length else none

/-- Eight groups, or fewer with one gap between the first and the last. -/
def isGrouped (groups : List Text) : Bool :=
  let inner := (groups.drop 1).dropLast
  let gap := 1 + (inner.takeWhile (· ≠ [])).length
  if inner.all (· ≠ []) then groups.length = 8 && groups.all isGroup
  else
    let before := groups.take gap
    let after := groups.drop (gap + 1)
    match isSide before.head? before, isSide after.getLast? after with
    | some m, some n => m + n ≤ 7
    | _, _ => false

/-- A zone may follow after a percent sign. -/
def isZoned (t : Text) : Bool :=
  match Text.cut (· = '%') t with
  | [address] => ((groupsOf address).map isGrouped).getD false
  | [address, zone] => zone ≠ [] && ((groupsOf address).map isGrouped).getD false
  | _ => false

/-- A version in hexadecimal digits, a dot, and something else. -/
def isVersioned : Text → Bool
  | 'v' :: rest =>
    let version := rest.takeWhile Text.isHexDigit
    match rest.dropWhile Text.isHexDigit with
    | '.' :: address => version ≠ [] && address ≠ []
    | _ => false
  | _ => false

def isBracketedHost (t : Text) : Bool :=
  if t.head? = some 'v' then isVersioned t else isZoned t

end CatchAll.Web
