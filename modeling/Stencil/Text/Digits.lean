/-!
# Digits

Digits at the front of a text, and the number that they write. Single underscores
may stand between digits to group them, never before the first or after the last.
Letters serve as digits from ten on, in either case.

## Main definitions

* `digitValue`, `isBaseDigit`, `numberOf`: Digits as numbers.
* `takeDigits`, `takeSign`, `takeExponent?`, `takeHex?`: What stands at the front of
  a text, and the rest.
-/

namespace Stencil

namespace Text

/-- A digit's value in any base up to sixteen. -/
def digitValue (c : Char) : Nat :=
  if c.isDigit then c.toNat - 48
  else if 'a'.toNat ≤ c.toNat then c.toNat - 87
  else c.toNat - 55

/-- Whether a character is a digit of the base. -/
def isBaseDigit (base : Nat) (c : Char) : Bool :=
  if base = 16 then c.isDigit || ('a'.toNat ≤ c.toLower.toNat && c.toLower.toNat ≤ 'f'.toNat)
  else c.isDigit && c.toNat < 48 + base

/-- The number that digits write. -/
def numberOf (base : Nat) (ds : List Char) : Nat :=
  ds.foldl (fun n c => n * base + digitValue c) 0

/-- Digits that may be grouped by single underscores, and the text after them. -/
def takeDigits (isDigit : Char → Bool) : List Char → List Char × List Char
  | [] => ([], [])
  | c :: '_' :: d :: s =>
    if isDigit c && isDigit d then
      let (ds, rest) := takeDigits isDigit (d :: s)
      (c :: ds, rest)
    else if isDigit c then ([c], '_' :: d :: s)
    else ([], c :: '_' :: d :: s)
  | c :: s =>
    if isDigit c then
      let (ds, rest) := takeDigits isDigit s
      (c :: ds, rest)
    else ([], c :: s)

/-- Whether a minus sign stands at the front, and the text after the sign. -/
def takeSign : List Char → Bool × List Char
  | '-' :: s => (true, s)
  | '+' :: s => (false, s)
  | s => (false, s)

/-- The exponent at the front of a text: its mark, a sign and digits. -/
def takeExponent? (s : List Char) : Option (Int × List Char) :=
  match s with
  | c :: s =>
    if c = 'e' || c = 'E' then
      let (negative, s) := takeSign s
      let (ds, rest) := takeDigits Char.isDigit s
      if ds.isEmpty then none
      else
        let n : Int := numberOf 10 ds
        some (if negative then -n else n, rest)
    else none
  | [] => none

/-- Exactly `n` hexadecimal digits. -/
def takeHex? (n : Nat) (s : List Char) : Option (Nat × List Char) :=
  let ds := s.take n
  if ds.length = n && ds.all (isBaseDigit 16) then some (numberOf 16 ds, s.drop n) else none

end Text

end Stencil
