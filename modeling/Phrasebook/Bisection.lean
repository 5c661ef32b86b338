/-!
# Phrasebook.Bisection

Where a property that holds up to a point stops to hold, found by halving.
-/

namespace Phrasebook

/-- The first number from `low` to `high` without the property `before`, which holds up to some
number and not from there on. -/
def bisect (before : Nat → Bool) (low high : Nat) : Nat :=
  if low < high then
    let middle := (low + high) / 2
    if before middle then bisect before (middle + 1) high else bisect before low middle
  else low
termination_by high - low

end Phrasebook
