import Stencil.Decimal.Binary
import Stencil.Text.Blank
import Stencil.Text.Digits

/-!
# Numbers that whole texts write

A text writes a number if nothing but blanks stands around it. A sign may come
first, and underscores may group the digits. A number with a fraction may lack the
digits on one side of its point, and the words for infinity and for no number are
read in any case.

## Main definitions

* `readWhole?`: The whole number that a text writes.
* `readDouble?`: The double nearest to the number that a text writes.
-/

namespace Stencil

namespace Decimal

/-- The whole number that a text writes. -/
def readWhole? (s : List Char) : Option Int :=
  let (negative, body) := Text.takeSign (Text.trim s)
  let (ds, rest) := Text.takeDigits Char.isDigit body
  if ds.isEmpty || !rest.isEmpty then none
  else
    let n : Int := Text.numberOf 10 ds
    some (if negative then -n else n)

/-- The words for doubles that are not finite. -/
def doubleWord? (negative : Bool) (s : List Char) : Option Float :=
  match String.ofList (s.map Char.toLower) with
  | "inf" | "infinity" => some (if negative then -1.0 / 0.0 else 1.0 / 0.0)
  | "nan" => some (0.0 / 0.0)
  | _ => none

/-- The double nearest to the number that a text writes. -/
def readDouble? (s : List Char) : Option Float :=
  let (negative, body) := Text.takeSign (Text.trim s)
  match doubleWord? negative body with
  | some x => some x
  | none =>
    let (whole, rest) := Text.takeDigits Char.isDigit body
    let (fraction, rest) :=
      match rest with
      | '.' :: r => Text.takeDigits Char.isDigit r
      | r => ([], r)
    if whole.isEmpty && fraction.isEmpty then none
    else
      let double (e : Int) : Float :=
        ofScientific negative (Text.numberOf 10 (whole ++ fraction)) (e - fraction.length)
      match Text.takeExponent? rest with
      | some (e, []) => some (double e)
      | some _ => none
      | none => if rest.isEmpty then some (double 0) else none

end Decimal

end Stencil
