import Stencil.Decimal.Binary

/-!
# The shortest decimal that reads back

The text of a double is the decimal with the fewest digits that lies in the
interval of reals rounding to it, and of those the nearest. The interval reaches
half way to both neighbours; its ends belong to it when the mantissa is even,
because a half rounds to the even neighbour. For each count of digits the only
candidates are the two points of the decimal grid around the value, so the
search tries one grid after the other in exact arithmetic.

Positional notation serves decimal points between the fourth leading zero and
the sixteenth digit, and always shows a fractional digit; outside it the exponent
has a sign and at least two digits.

## Main definitions

* `Shortest.digits`: The digits and the place of the decimal point.
* `text`: The text of a double.
-/

namespace Stencil

namespace Decimal

namespace Shortest

/-- The number of decimal digits of a positive number. -/
def digitCount (n : Nat) : Nat := (Nat.toDigits 10 n).length

/-- The power of ten that bounds `num / den` from above most closely, up to one
    too many. -/
def pointGuess (num den : Nat) : Int := (digitCount num : Int) - digitCount den + 1

/-- The least `p` among the guess and the two below it with `num / den < 10 ^ p`. -/
def point (num den : Nat) : Int :=
  let below (p : Int) : Bool := num * tenUp (-p) < den * tenUp p
  let g := pointGuess num den
  if below (g - 2) then g - 2 else if below (g - 1) then g - 1 else g

/-- The grid point of `count` digits that rounds to the number, of two the nearer
    one. The number is `value / den`, the interval runs from `low / den` to
    `high / den`. -/
def onGrid? (low value high den : Nat) (closed : Bool) (p : Int) (count : Nat) : Option Nat :=
  let u := p - count
  let up := tenUp u * den
  let down := tenUp (-u)
  let c := value * down / up
  let inside (k : Nat) : Bool :=
    if closed then low * down ≤ k * up && k * up ≤ high * down
    else low * down < k * up && k * up < high * down
  match inside c, inside (c + 1) with
  | true, false => some c
  | false, true => some (c + 1)
  | false, false => none
  | true, true =>
    let before := value * down - c * up
    let after := (c + 1) * up - value * down
    if before < after || (before = after && c % 2 = 0) then some c else some (c + 1)

/-- The first grid with a hit, from `count` digits on. -/
def search (low value high den : Nat) (closed : Bool) (p : Int) : Nat → Nat → Nat × Int
  | 0, count => (value, count)
  | fuel + 1, count =>
    match onGrid? low value high den closed p count with
    | some c => (c, p - count)
    | none => search low value high den closed p fuel (count + 1)

/-- The digits of a positive double without trailing zeros, and the number of
    them before the decimal point (negative for zeros after it). -/
def digits (b : Binary) : List Char × Int :=
  let scaleUp := twoUp (b.exponent - 2)
  let den := twoUp (2 - b.exponent)
  let value := 4 * b.mantissa * scaleUp
  let lowerGap := if b.mantissa = twoUp 52 && b.exponent ≠ -1074 then 1 else 2
  let low := (4 * b.mantissa - lowerGap) * scaleUp
  let high := (4 * b.mantissa + 2) * scaleUp
  let (c, u) := search low value high den (b.mantissa % 2 == 0) (point value den) 17 1
  let ds := Nat.toDigits 10 c
  (((ds.reverse.dropWhile (· == '0')).reverse), u + ds.length)

end Shortest

/-- Digits with a decimal point after `p` of them. -/
def positional (ds : List Char) (p : Int) : List Char :=
  if p ≤ 0 then '0' :: '.' :: List.replicate (-p).toNat '0' ++ ds
  else if ds.length ≤ p.toNat then
    ds ++ List.replicate (p.toNat - ds.length) '0' ++ ['.', '0']
  else ds.take p.toNat ++ '.' :: ds.drop p.toNat

/-- An exponent: its mark, its sign and at least two digits. -/
def exponentText (e : Int) : List Char :=
  let shown := Nat.toDigits 10 e.natAbs
  'e' :: (if e < 0 then '-' else '+') :: (List.replicate (2 - shown.length) '0' ++ shown)

/-- Digits with one before the point, and an exponent. -/
def exponential (ds : List Char) (p : Int) : List Char :=
  ds.take 1 ++ (if ds.length ≤ 1 then [] else '.' :: ds.drop 1) ++ exponentText (p - 1)

/-- The text of a double. -/
def text (x : Float) : String :=
  match parts x with
  | .nan => "nan"
  | .infinite negative => if negative then "-inf" else "inf"
  | .finite b =>
    let body :=
      if b.mantissa = 0 then ['0', '.', '0']
      else
        let (ds, p) := Shortest.digits b
        if -4 < p && p ≤ 16 then positional ds p else exponential ds p
    String.ofList (if b.negative then '-' :: body else body)

end Decimal

end Stencil
