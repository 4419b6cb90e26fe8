/-!
# Sets of characters

A set of characters is given by the code points at which membership changes, in increasing
order. Characters below the first of them are outside, so a character is a member exactly when
an odd number of changes is at or below it.
-/

namespace BlazorBridge

/-- A set of characters, by the code points at which membership changes. -/
structure CharSet where
  changes : List Nat

namespace CharSet

/-- Membership of the code point `n`, given whether the code points just below the first of the
remaining changes are members. -/
def inside (member : Bool) : List Nat → Nat → Bool
  | [], _ => member
  | change :: changes, n => if n < change then member else inside (!member) changes n

/-- Whether the set holds the character. -/
def contains (s : CharSet) (c : Char) : Bool := inside false s.changes c.toNat

end CharSet

end BlazorBridge
