/-!
# Ranges of code points

A class of characters is given by the code points where membership changes,
in increasing order: a code point belongs to the class when an odd number of
changes lies at or below it.
-/

set_option autoImplicit false

namespace CatchAll.Text

def inRanges (edges : List Nat) (n : Nat) : Bool :=
  (edges.takeWhile (· ≤ n)).length % 2 == 1

end CatchAll.Text
