/-!
# Sets of characters by their boundaries

The character classes of the Unicode standard are unions of many short ranges.
A class is held here as the ascending array of the code points at which
membership flips: the first entry starts the first range, the second is the
first code point after it, and so on. A code point then belongs to the class
exactly when an odd number of boundaries lie at or below it, which a binary
search counts.

## Main definitions

* `Ranges`: A set of code points, as its boundaries.
* `Ranges.contains`: Membership of a character.
-/

namespace Stencil

namespace Text

/-- A set of code points, given by the ascending positions at which membership
    flips. -/
structure Ranges where
  boundaries : Array Nat

namespace Ranges

/-- The number of entries of `xs` from `lo` on and before `hi` that are at most
    `c`, counted from the front, by halving the stretch that is still open. The
    first argument bounds the halvings. -/
def countFrom (xs : Array Nat) (c : Nat) : Nat → Nat → Nat → Nat
  | 0, lo, _ => lo
  | fuel + 1, lo, hi =>
    if lo < hi then
      let mid := (lo + hi) / 2
      if xs.getD mid 0 ≤ c then countFrom xs c fuel (mid + 1) hi
      else countFrom xs c fuel lo mid
    else lo

/-- The number of boundaries at or below a code point. -/
def countUpTo (r : Ranges) (c : Nat) : Nat :=
  countFrom r.boundaries c (r.boundaries.size + 1) 0 r.boundaries.size

/-- Whether a character belongs to the set. -/
def contains (r : Ranges) (c : Char) : Bool := r.countUpTo c.toNat % 2 == 1

end Ranges

end Text

end Stencil
