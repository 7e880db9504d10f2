import Stencil.Text.Ranges

/-!
# Texts that are nearly the same

Two texts are close if runs that they have in common cover three fifths of both.
The runs are found from the longest down: the longest one splits both texts, and
the parts before and after it are compared in the same way. Of runs of the same
length the one that starts first counts.

Closeness picks what to suggest for a misspelled word.

## Main definitions

* `longestRun`: The longest run in common.
* `commonLength`: How many characters the common runs cover.
* `isClose`: Whether two texts are close.

## Theorems

* `commonPrefix_le`: A common beginning is no longer than either text.
* `isClose_nil`: An empty text is close to an empty one only.
-/

namespace Stencil

namespace Text

/-- The length of the common beginning of two texts. -/
def commonPrefix : List Char → List Char → Nat
  | c :: a, d :: b => if c = d then commonPrefix a b + 1 else 0
  | _, _ => 0

theorem commonPrefix_le (a b : List Char) :
    commonPrefix a b ≤ a.length ∧ commonPrefix a b ≤ b.length := by
  induction a generalizing b with
  | nil => simp [commonPrefix]
  | cons c a ih =>
    cases b with
    | nil => simp [commonPrefix]
    | cons d b =>
      simp only [commonPrefix]
      split
      · have := ih b
        simp only [List.length_cons]
        omega
      · simp

/-- A run in common: where it starts in either text, and its length. -/
structure CommonRun where
  left : Nat
  right : Nat
  length : Nat

/-- The longer of two runs, the first of them if they are of one length. -/
def CommonRun.longer (r s : CommonRun) : CommonRun := if r.length < s.length then s else r

/-- The longest run in common that starts at a place of the left text. -/
def longestRunAt (a b : List Char) (i : Nat) : CommonRun :=
  (List.range b.length).foldl
    (fun r j => r.longer ⟨i, j, commonPrefix (a.drop i) (b.drop j)⟩) ⟨i, 0, 0⟩

/-- The longest run in common. -/
def longestRun (a b : List Char) : CommonRun :=
  (List.range a.length).foldl (fun r i => r.longer (longestRunAt a b i)) ⟨0, 0, 0⟩

/-- How many characters the common runs cover. Every run takes a character of the
    left text, so its length bounds their number. -/
def commonLengthWithin : Nat → List Char → List Char → Nat
  | 0, _, _ => 0
  | fuel + 1, a, b =>
    let r := longestRun a b
    if r.length = 0 then 0
    else
      commonLengthWithin fuel (a.take r.left) (b.take r.right) + r.length +
        commonLengthWithin fuel (a.drop (r.left + r.length)) (b.drop (r.right + r.length))

/-- How many characters the common runs of two texts cover. -/
def commonLength (a b : List Char) : Nat := commonLengthWithin a.length a b

/-- Whether the common runs cover three fifths of two texts. -/
def isClose (a b : List Char) : Bool := 3 * (a.length + b.length) ≤ 10 * commonLength a b

theorem isClose_nil (b : List Char) : isClose [] b = b.isEmpty := by
  cases b <;> simp [isClose, commonLength, commonLengthWithin]

end Text

end Stencil
