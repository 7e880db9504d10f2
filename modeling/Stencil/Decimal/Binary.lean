/-!
# Binary fractions

A finite double is a sign, a whole number below `2 ^ 53` and a power of two.
Reading a double that way makes it an exact rational, so that comparing it with
an integer, taking a remainder or printing it is arithmetic on natural numbers
and no operation rounds by accident. `ofRatio?` goes back: it rounds a quotient
of naturals to the nearest double, a half going to the even neighbour.

## Main definitions

* `twoUp`, `tenUp`: Powers.
* `Binary`: A finite double as an exact number.
* `Parts`, `parts`: A double taken apart.
* `ofRatio?`: The double nearest to a quotient.
* `ofInt?`: The double nearest to an integer.
* `compareInt`: The exact order of an integer and a double.
* `floorMod`, `floorDiv`: Remainder and quotient that go with the floor.
-/

namespace Stencil

namespace Decimal

/-- A power of two; one if the exponent is negative. -/
def twoUp (e : Int) : Nat := Nat.pow 2 e.toNat

/-- A power of ten; one if the exponent is negative. -/
def tenUp (e : Int) : Nat := Nat.pow 10 e.toNat

/-- The number `± mantissa * 2 ^ exponent`. -/
structure Binary where
  negative : Bool
  mantissa : Nat
  exponent : Int

/-- A double is a finite number, an infinity, or no number. -/
inductive Parts where
  | finite (value : Binary)
  | infinite (negative : Bool)
  | nan

/-- A double taken apart. -/
def parts (x : Float) : Parts :=
  let bits : Nat := x.toBits.toNat
  let negative : Bool := bits / twoUp 63 == 1
  let field : Nat := bits / twoUp 52 % 2048
  let fraction : Nat := bits % twoUp 52
  if field = 2047 then
    if fraction = 0 then .infinite negative else .nan
  else if field = 0 then .finite ⟨negative, fraction, -1074⟩
  else .finite ⟨negative, fraction + twoUp 52, (field : Int) - 1075⟩

/-- The double with the given sign, mantissa below or at `2 ^ 53`, and exponent at
    least `-1074`; none if it is too large. -/
def assemble? (negative : Bool) (mantissa : Nat) (exponent : Int) : Option Float :=
  let magnitude :=
    if mantissa < twoUp 52 then mantissa
    else (exponent + 1075).toNat * twoUp 52 + (mantissa - twoUp 52)
  if 2047 * twoUp 52 ≤ magnitude then none
  else some (Float.ofBits ((if negative then twoUp 63 else 0) + magnitude).toUInt64)

/-- A quotient rounded to a whole number, a half to the even neighbour. -/
def roundDiv (num den : Nat) : Nat :=
  let q := num / den
  let r := num % den
  if den < 2 * r || (2 * r = den && q % 2 = 1) then q + 1 else q

/-- The double nearest to `± num / den`; none if it is too large. -/
def ofRatio? (negative : Bool) (num den : Nat) : Option Float :=
  if num = 0 then some (if negative then -0.0 else 0.0)
  else
    let guess : Int := (num.log2 : Int) - den.log2 - 53
    let scaled (q : Int) : Nat × Nat := (num * twoUp (-q), den * twoUp q)
    let q := max (-1074)
      (if (scaled guess).2 * twoUp 53 ≤ (scaled guess).1 then guess + 1 else guess)
    assemble? negative (roundDiv (scaled q).1 (scaled q).2) q

/-- The double nearest to an integer; none if it is too large. -/
def ofInt? (n : Int) : Option Float := ofRatio? (n < 0) n.natAbs 1

/-- The double nearest to a number written with `digits` and a power of ten. -/
def ofScientific? (negative : Bool) (digits : Nat) (exponent : Int) : Option Float :=
  ofRatio? negative (digits * tenUp exponent) (tenUp (-exponent))

/-- The double nearest to a number so written, infinite if it is too large. -/
def ofScientific (negative : Bool) (digits : Nat) (exponent : Int) : Float :=
  (ofScientific? negative digits exponent).getD (if negative then -1.0 / 0.0 else 1.0 / 0.0)

/-- The signed mantissa. -/
def Binary.signed (b : Binary) : Int := if b.negative then -(b.mantissa : Int) else b.mantissa

/-- How an integer compares with a double; none for no number. -/
def compareInt (n : Int) (x : Float) : Option Ordering :=
  match parts x with
  | .nan => none
  | .infinite negative => some (if negative then .gt else .lt)
  | .finite b => some (compare (n * twoUp (-b.exponent)) (b.signed * twoUp b.exponent))

/-- The whole number that a double is, if it is one. -/
def toInt? (x : Float) : Option Int :=
  match parts x with
  | .finite b =>
    if b.signed % (twoUp (-b.exponent) : Nat) = 0 then
      some (b.signed * twoUp b.exponent / (twoUp (-b.exponent) : Nat))
    else none
  | _ => none

/-- The remainder of the magnitudes of two doubles, with the sign of the first. -/
def truncMod (x y : Float) : Float :=
  match parts x, parts y with
  | .finite a, .finite b =>
    let e := min a.exponent b.exponent
    let r := a.mantissa * twoUp (a.exponent - e) % (b.mantissa * twoUp (b.exponent - e))
    (ofRatio? a.negative (r * twoUp e) (twoUp (-e))).getD x
  | .finite _, .infinite _ => x
  | _, _ => 0.0 / 0.0

/-- Whether a double carries a minus sign, zero included. -/
def isNegative (x : Float) : Bool := x.toBits.toNat / twoUp 63 == 1

/-- Zero with the sign of a double. -/
def zeroLike (x : Float) : Float := if isNegative x then -0.0 else 0.0

/-- The remainder with the sign of the divisor, for a divisor other than zero. -/
def floorMod (x y : Float) : Float :=
  let r := truncMod x y
  if r == 0.0 then zeroLike y
  else if (y < 0.0) != (r < 0.0) then r + y
  else r

/-- The quotient rounded down, for a divisor other than zero. It is computed
    from the remainder, so that it agrees with `floorMod`. -/
def floorDiv (x y : Float) : Float :=
  let r := truncMod x y
  let q := (x - r) / y
  let q := if r == 0.0 then q else if (y < 0.0) != (r < 0.0) then q - 1.0 else q
  if q == 0.0 then zeroLike (x / y)
  else
    let f := q.floor
    if q - f > 0.5 then f + 1.0 else f

end Decimal

end Stencil
