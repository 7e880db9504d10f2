/-!
# Blank characters

White space as the Unicode standard has it: the characters of bidirectional
class white space, segment separator or paragraph separator, and the space
separators. It is wider than the six ASCII blanks, and names, extensions and
template tags are all trimmed by it.

## Main definitions

* `isBlank`: The class.
* `trimLeft`, `trimRight`, `trim`: A text without the blanks at its ends.
* `replaceAll`: A text with every occurrence of a character replaced.
* `unifyNewlines`: A text whose line ends are all line feeds.

## Theorems

* `isBlank_of_isWhitespace`: Core's ASCII white space is blank.
* `trimLeft_eq_nil_iff`: Nothing is left exactly of a text that is all blank.
* `unifyNewlines_of_not_mem`: Without carriage returns there is nothing to unify.
-/

namespace Stencil

namespace Text

/-- White space in the sense of the Unicode standard. -/
def isBlank (c : Char) : Bool :=
  let n := c.toNat
  (0x9 ≤ n && n ≤ 0xd) || (0x1c ≤ n && n ≤ 0x20) || n == 0x85 || n == 0xa0 || n == 0x1680 ||
    (0x2000 ≤ n && n ≤ 0x200a) || n == 0x2028 || n == 0x2029 || n == 0x202f || n == 0x205f ||
    n == 0x3000

theorem isBlank_of_isWhitespace {c : Char} (h : c.isWhitespace = true) : isBlank c = true := by
  simp only [Char.isWhitespace, Bool.or_eq_true, decide_eq_true_eq] at h
  rcases h with ((h | h) | h) | h <;> subst h <;> decide

/-- The text after its leading blanks. -/
def trimLeft (s : List Char) : List Char := s.dropWhile isBlank

/-- The text before its trailing blanks. -/
def trimRight (s : List Char) : List Char := (s.reverse.dropWhile isBlank).reverse

/-- The text between its leading and its trailing blanks. -/
def trim (s : List Char) : List Char := trimRight (trimLeft s)

theorem trimLeft_eq_nil_iff {s : List Char} : trimLeft s = [] ↔ ∀ c ∈ s, isBlank c = true := by
  unfold trimLeft
  induction s with
  | nil => simp
  | cons c s ih =>
    by_cases h : isBlank c = true
    · simp [h, ih]
    · simp [h]

/-- Every occurrence of a character becomes a text. -/
def replaceAll (c : Char) (r : List Char) (s : List Char) : List Char :=
  s.flatMap fun x => if x = c then r else [x]

/-- Carriage returns, alone or before a line feed, become line feeds. -/
def unifyNewlines : List Char → List Char
  | [] => []
  | '\r' :: '\n' :: s => '\n' :: unifyNewlines s
  | c :: s => (if c = '\r' then '\n' else c) :: unifyNewlines s

/-- Without carriage returns there is nothing to unify. -/
theorem unifyNewlines_of_not_mem {s : List Char} (h : '\r' ∉ s) : unifyNewlines s = s := by
  induction s with
  | nil => rfl
  | cons c s ih =>
      rw [List.mem_cons, not_or] at h
      have hc : c ≠ '\r' := fun hc => h.1 hc.symm
      rw [unifyNewlines.eq_3 c s fun _ hr => absurd hr hc, if_neg hc, ih h.2]

end Text

end Stencil
