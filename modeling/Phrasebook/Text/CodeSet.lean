/-!
# Phrasebook.Text.CodeSet

Sets of code points, for the character properties that the library asks for.

A set is an *inversion list*: the ascending code points at which membership changes, the code points
before the first one lying outside.  `[0x41, 0x5B]` is the set of the letters `A` to `Z`.  The walk
along the list stops at the first bound above the code point, so that the common ASCII characters
cost a step or two.
-/

namespace Phrasebook.Text

/-- A set of code points, given by the ascending points at which membership changes. -/
structure CodeSet where
  bounds : List Nat

namespace CodeSet

/-- Whether `n` lies inside, where `inside` says so of the code points before the first bound. -/
def covers (inside : Bool) : List Nat → Nat → Bool
  | [], _ => inside
  | bound :: rest, n => if n < bound then inside else covers (!inside) rest n

/-- Whether a character lies in the set. -/
def contains (s : CodeSet) (c : Char) : Bool := covers false s.bounds c.toNat

end CodeSet

end Phrasebook.Text
