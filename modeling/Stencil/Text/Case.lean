import Stencil.Text.CaseTable

/-!
# Letter case

Full case mapping of texts: a character may become several, and a capital sigma
at the end of a word takes its final form in lower case.

## Main definitions

* `upper`, `lower`: A text in upper and in lower case.
-/

namespace Stencil

namespace Text

/-- The distance by which a run moves `c`, if `c` belongs to it. -/
def CaseRun.shift? (r : CaseRun) (c : Nat) : Option Int :=
  if r.first ≤ c && c ≤ r.last && (c - r.first) % r.stride == 0 then some r.shift else none

/-- The single-character image of `c` under a table of runs. -/
def shifted (runs : Array CaseRun) (c : Char) : Char :=
  match runs.findSome? (·.shift? c.toNat) with
  | some d => Char.ofNat (Int.toNat (c.toNat + d))
  | none => c

/-- The upper case of one character. -/
def upperChar (c : Char) : List Char :=
  match upperWide.lookup c.toNat with
  | some cs => cs.map Char.ofNat
  | none => [shifted upperRuns c]

/-- The text in upper case. -/
def upper (s : List Char) : List Char := s.flatMap upperChar

/-- Whether the nearest character that is not case-ignorable has case. -/
def nextIsCased (s : List Char) : Bool :=
  match s.dropWhile caseIgnorable.contains with
  | [] => false
  | c :: _ => cased.contains c

/-- The lower case of one character, given the reversed text before it and the
    text after it: a capital sigma that ends a word becomes a final sigma. -/
def lowerChar (before : List Char) (c : Char) (rest : List Char) : List Char :=
  if c = 'Σ' then
    if nextIsCased before && !nextIsCased rest then ['ς'] else ['σ']
  else if c = 'İ' then ['i', '\u0307']
  else [shifted lowerRuns c]

/-- Lower case of a text whose reversed beginning was `before`. -/
def lowerAfter (before : List Char) : List Char → List Char
  | [] => []
  | c :: s => lowerChar before c s ++ lowerAfter (c :: before) s

/-- The text in lower case. -/
def lower (s : List Char) : List Char := lowerAfter [] s

end Text

end Stencil
