/-!
# Sets of characters

A set of characters is kept as the increasing list of the code points at which membership flips. A code
point belongs to the set when an odd number of flips lie at or below it, and that number is found by
halving.
-/

namespace SkillScan.Text

/-- A set of characters, given by the code points at which membership flips. -/
structure CodeSet where
  /-- The flips in increasing order. -/
  flips : Array Nat

namespace CodeSet

/-- Raises `low` by powers of two below `2 ^ steps` while the flips passed over stay at or below `code`. -/
def climb (flips : Array Nat) (code : Nat) : (steps : Nat) → (low : Nat) → Nat
  | 0, low => low
  | steps + 1, low =>
    let next := low + 2 ^ steps
    climb flips code steps (if flips.getD (next - 1) (code + 1) ≤ code then next else low)

/-- The number of flips at or below a code point, for a set with fewer than `2 ^ 12` flips. -/
def flipsUpTo (set : CodeSet) (code : Nat) : Nat :=
  climb set.flips code 12 0

/-- Whether a character belongs to the set. -/
def contains (set : CodeSet) (char : Char) : Bool :=
  set.flipsUpTo char.toNat % 2 == 1

end CodeSet

end SkillScan.Text
