import Stencil.Decimal.Shortest

/-!
# Decimals of a given length

The text of a double with a given number of digits after the point, or with a
given number of digits that count. The double is an exact rational, so it is
rounded once, a half going to the even digit. A whole number keeps its point only
on demand.

## Main definitions

* `significant`: The digits that count, and the place of the decimal point.
* `fixedNotation`: Digits around the point.
* `exponentNotation`: One digit before the point, and an exponent.
* `generalNotation`: The shorter of the two by the size of the number.
-/

namespace Stencil

namespace Decimal

/-- The digits of a fraction behind its point. -/
def fractionText (keepPoint : Bool) (ds : List Char) : List Char :=
  if ds.isEmpty && !keepPoint then [] else '.' :: ds

/-- The first `count` digits of a number, rounded, and how many of them stand before
    the decimal point (negative for zeros after it). -/
def significant (b : Binary) (count : Nat) : List Char × Int :=
  if b.mantissa = 0 then (List.replicate count '0', 1)
  else
    let num := b.mantissa * twoUp b.exponent
    let den := twoUp (-b.exponent)
    let p := Shortest.point num den
    let u := p - count
    let ds := Nat.toDigits 10 (roundDiv (num * tenUp (-u)) (den * tenUp u))
    -- rounding up may reach the next power of ten, which has one digit more
    (ds.take count, if ds.length = count + 1 then p + 1 else p)

/-- A number with `places` digits after the point. -/
def fixedNotation (keepPoint : Bool) (places : Nat) (b : Binary) : List Char :=
  let num := b.mantissa * twoUp b.exponent * tenUp places
  let ds := Nat.toDigits 10 (roundDiv num (twoUp (-b.exponent)))
  let ds := List.replicate (places + 1 - ds.length) '0' ++ ds
  let k := ds.length - places
  ds.take k ++ fractionText keepPoint (ds.drop k)

/-- A number with one digit before the point and `places` after it. -/
def exponentNotation (keepPoint : Bool) (places : Nat) (b : Binary) : List Char :=
  let (ds, p) := significant b (places + 1)
  ds.take 1 ++ fractionText keepPoint (ds.drop 1) ++ exponentText (p - 1)

/-- A number with `count` digits that count, at least one. The exponent is written
    from `10 ^ count` on and below `10 ^ (-4)`. Trailing zeros of the fraction go
    unless the point is kept. -/
def generalNotation (keepPoint : Bool) (count : Nat) (b : Binary) : List Char :=
  let count := max count 1
  let (ds, p) := significant b count
  let ds := if keepPoint then ds else (ds.reverse.dropWhile (· == '0')).reverse
  if p ≤ -4 || (count : Int) < p then
    ds.take 1 ++ fractionText keepPoint (ds.drop 1) ++ exponentText (p - 1)
  else if p ≤ 0 then '0' :: '.' :: List.replicate (-p).toNat '0' ++ ds
  else
    let whole := ds.take p.toNat
    whole ++ List.replicate (p.toNat - whole.length) '0' ++
      fractionText keepPoint (ds.drop p.toNat)

end Decimal

end Stencil
