import Stencil.Decimal.Notation
import Stencil.Decimal.Reader
import Stencil.Value.Arithmetic

/-!
# Filling format texts

The remainder operator on a text fills its places. A place is a percent sign, an
optional key in brackets, flags, a width, a precision and the letter of a
conversion; a percent sign right after another one stands for itself. Without keys
the places take the items of a tuple in order, or the one value given; with keys
they take the members of a mapping. A mapping may leave members over, anything else
may not.

A format text that is markup escapes what it is filled with, after the conversion
to text, so the result is markup again.

## Main definitions

* `Filling`: A value that goes into a place, and whether it is escaped there.
* `Place`: A place of a format text.
* `fill`: A format text with its places filled.
* `Value.mod`: The remainder operator on all values.
-/

namespace Stencil

namespace Format

/-- A value for a place. An escaping one is written as markup. -/
structure Filling where
  value : Value
  escaping : Bool

namespace Filling

def kindName (f : Filling) : String :=
  if f.escaping then "_MarkupEscapeHelper" else f.value.kindName

/-- The text of the value, escaped if need be. -/
def str (f : Filling) : Except Fault String :=
  if f.escaping then f.value.escaped else f.value.str

/-- The quoted form of the value, escaped if need be. -/
def quoted (f : Filling) : String :=
  if f.escaping then escape f.value.quoted else f.value.quoted

/-- The quoted form with each character beyond ASCII written by its number. -/
def quotedAscii (f : Filling) : String :=
  String.ofList (f.quoted.toList.flatMap fun c =>
    if c.toNat < 128 then [c] else Text.numberedEscape c.toNat)

end Filling

/-- A place of a format text. -/
structure Place where
  left : Bool := false
  plus : Bool := false
  blank : Bool := false
  alternate : Bool := false
  zero : Bool := false
  width : Nat := 0
  precision : Option Nat := none
  letter : Char := 's'
  index : Nat := 0

/-- What is left to fill places with, and the mapping that keys refer to. -/
structure Supply where
  mapping : Option Filling
  queue : List Filling

def failText {α : Type} (text : String) : Except Fault α := .error (.misuse (.formatting text))

def refuseText {α : Type} (text : String) : Except Fault α := .error (.refused (.format text))

/-- The next value. -/
def Supply.next (s : Supply) : Except Fault (Filling × Supply) :=
  match s.queue with
  | f :: fs => .ok (f, { s with queue := fs })
  | [] => failText "not enough arguments for format string"

/-- The member of the mapping under a key, which the place then takes. -/
def Supply.select (s : Supply) (key : String) : Except Fault Supply :=
  match s.mapping with
  | none => failText "format requires a mapping"
  | some m =>
    match m.value with
    | .dict entries => do
      match ← Value.lookup? (.text key) entries with
      | some v => return { s with queue := [⟨v, m.escaping⟩] }
      | none => .error (.missingKey (.text key))
    | .undefined u => Value.refuse u
    | v => failText (v.kindName ++ " indices must be integers or slices, not str")

/-- The key up to its closing bracket; brackets inside it pair up. -/
def splitKey : Nat → List Char → List Char → Option (List Char × List Char)
  | _, _, [] => none
  | depth, acc, c :: s =>
    if c = ')' then
      match depth with
      | 0 => some (acc.reverse, s)
      | d + 1 => splitKey d (c :: acc) s
    else if c = '(' then splitKey (depth + 1) (c :: acc) s
    else splitKey depth (c :: acc) s

/-- The flags at the front. -/
def readFlags (p : Place) : List Char → Place × List Char
  | '-' :: s => readFlags { p with left := true } s
  | '+' :: s => readFlags { p with plus := true } s
  | ' ' :: s => readFlags { p with blank := true } s
  | '#' :: s => readFlags { p with alternate := true } s
  | '0' :: s => readFlags { p with zero := true } s
  | s => (p, s)

/-- The two counts of a place. -/
inductive Measure where
  | width
  | precision

/-- The largest count there may be. -/
def Measure.limit : Measure → Nat
  | .width => Decimal.twoUp 63 - 1
  | .precision => Decimal.twoUp 31 - 1

/-- A count written in digits. -/
def Measure.ofDigits (m : Measure) (ds : List Char) : Except Fault Int :=
  let n := Text.numberOf 10 ds
  if n ≤ m.limit then .ok n
  else
    match m with
    | .width => refuseText "width too big"
    | .precision => refuseText "precision too big"

/-- A count given by a value. -/
def Measure.ofFilling (m : Measure) (f : Filling) : Except Fault Int :=
  match if f.escaping then none else f.value.whole? with
  | none => failText "* wants int"
  | some n =>
    if -(m.limit : Int) - 1 ≤ n && n ≤ m.limit then .ok n
    else
      let word :=
        match m with
        | .width => "ssize_t"
        | .precision => "int"
      .error (.overflow ("Python int too large to convert to C " ++ word))

/-- A count in digits, or the next value for a star. -/
def readCount (m : Measure) (supply : Supply) (s : List Char) :
    Except Fault (Option Int × Supply × List Char) :=
  match s with
  | '*' :: rest => do
    let (f, supply) ← supply.next
    return (some (← m.ofFilling f), supply, rest)
  | s =>
    let ds := s.takeWhile Char.isDigit
    if ds.isEmpty then .ok (none, supply, s)
    else do return (some (← m.ofDigits ds), supply, s.dropWhile Char.isDigit)

/-- A text brought to the width of the place. -/
def pad (p : Place) (body : String) : String :=
  let fillers := List.replicate (p.width - body.length) ' '
  if p.left then body ++ String.ofList fillers else String.ofList fillers ++ body

/-- A number brought to the width of the place: its sign or base mark stays in
    front of zeros. -/
def padNumber (p : Place) (front body : String) : String :=
  if p.zero && !p.left then
    front ++ String.ofList (List.replicate (p.width - front.length - body.length) '0') ++ body
  else pad p (front ++ body)

/-- The sign shown before a number. -/
def signText (p : Place) (negative : Bool) : String :=
  if negative then "-" else if p.plus then "+" else if p.blank then " " else ""

/-- The whole number for a decimal conversion. -/
def toWhole (letter : Char) (f : Filling) : Except Fault Int :=
  let wrong : Except Fault Int :=
    failText ("%" ++ String.singleton letter ++ " format: a real number is required, not " ++
      f.kindName)
  match f.value with
  | .int n => .ok n
  | .bool b => .ok (if b then 1 else 0)
  | .float x =>
    match Decimal.parts x with
    | .nan => refuseText "cannot convert float NaN to integer"
    | .infinite _ => .error (.overflow "cannot convert float infinity to integer")
    | .finite b =>
      .ok (Int.tdiv (b.signed * Decimal.twoUp b.exponent) (Decimal.twoUp (-b.exponent)))
  | .undefined u => Value.refuse u
  | v =>
    match v.text? with
    | some s =>
      if f.escaping then
        match Decimal.readWhole? s.toList with
        | some n => .ok n
        | none =>
          refuseText ("invalid literal for int() with base 10: " ++ Text.quoted s)
      else wrong
    | none => wrong

/-- The whole number for a conversion to another base. -/
def toIndex (letter : Char) (f : Filling) : Except Fault Int :=
  let wrong : Except Fault Int :=
    failText ("%" ++ String.singleton letter ++ " format: an integer is required, not " ++
      f.kindName)
  if f.escaping then wrong
  else
    match f.value with
    | .int n => .ok n
    | .bool b => .ok (if b then 1 else 0)
    | _ => wrong

/-- A whole number in a place. -/
def showWhole (p : Place) (base : Nat) (mark : String) (capital : Bool) (n : Int) : String :=
  let ds := Nat.toDigits base n.natAbs
  let ds := if capital then ds.map Char.toUpper else ds
  let ds := List.replicate (p.precision.getD 0 - ds.length) '0' ++ ds
  padNumber p (signText p (n < 0) ++ if p.alternate then mark else "") (String.ofList ds)

/-- The double for a conversion with a fraction. -/
def toDouble (f : Filling) : Except Fault Float :=
  match f.value with
  | .undefined u => Value.refuse u
  | v =>
    match v.number? with
    | some n => Value.toFloat n
    | none =>
      if f.escaping then
        match v.text? with
        | some s =>
          match Decimal.readDouble? s.toList with
          | some x => .ok x
          | none => refuseText ("could not convert string to float: " ++ Text.quoted s)
        | none =>
          failText ("float() argument must be a string or a real number, not '" ++
            v.kindName ++ "'")
      else failText ("must be real number, not " ++ v.kindName)

/-- The notations for a double. -/
inductive Notation where
  | fixed
  | exponent
  | general

/-- A finite double without its sign. -/
def Notation.digits (way : Notation) (p : Place) (b : Decimal.Binary) : List Char :=
  let count := p.precision.getD 6
  match way with
  | .fixed => Decimal.fixedNotation p.alternate count b
  | .exponent => Decimal.exponentNotation p.alternate count b
  | .general => Decimal.generalNotation p.alternate count b

/-- A double in a place. -/
def showDouble (p : Place) (way : Notation) (capital : Bool) (x : Float) : String :=
  let (negative, body) :=
    match Decimal.parts x with
    | .nan => (false, ['n', 'a', 'n'])
    | .infinite negative => (negative, ['i', 'n', 'f'])
    | .finite b => (b.negative, way.digits p b)
  padNumber p (signText p negative)
    (String.ofList (if capital then body.map Char.toUpper else body))

/-- The character for a conversion to one. -/
def showChar (p : Place) (f : Filling) : Except Fault String :=
  let wrong : Except Fault String := failText "%c requires int or char"
  if f.escaping then wrong
  else
    match f.value.whole?, f.value.text? with
    | some n, _ =>
      if n < 0 || 0x110000 ≤ n then .error (.overflow "%c arg not in range(0x110000)")
      else if n.toNat.isValidChar then .ok (pad p (String.singleton (Char.ofNat n.toNat)))
      else .error .halfCharacter
    | none, some s => if s.length = 1 then .ok (pad p s) else wrong
    | none, none => wrong

/-- A text in a place, cut to the precision. -/
def showText (p : Place) (s : String) : String :=
  match p.precision with
  | some n => pad p (String.ofList (s.toList.take n))
  | none => pad p s

/-- A place filled with a value. -/
def showPlace (p : Place) (f : Filling) : Except Fault String :=
  match p.letter with
  | 's' => f.str.map (showText p)
  | 'r' => .ok (showText p f.quoted)
  | 'a' => .ok (showText p f.quotedAscii)
  | 'd' | 'i' | 'u' => (toWhole p.letter f).map (showWhole p 10 "" false)
  | 'o' => (toIndex 'o' f).map (showWhole p 8 "0o" false)
  | 'x' => (toIndex 'x' f).map (showWhole p 16 "0x" false)
  | 'X' => (toIndex 'X' f).map (showWhole p 16 "0X" true)
  | 'f' => (toDouble f).map (showDouble p .fixed false)
  | 'F' => (toDouble f).map (showDouble p .fixed true)
  | 'e' => (toDouble f).map (showDouble p .exponent false)
  | 'E' => (toDouble f).map (showDouble p .exponent true)
  | 'g' => (toDouble f).map (showDouble p .general false)
  | 'G' => (toDouble f).map (showDouble p .general true)
  | 'c' => showChar p f
  | c =>
    let n := c.toNat
    let seen := if 31 ≤ n && n < 127 then String.singleton c else "?"
    refuseText ("unsupported format character '" ++ seen ++ "' (0x" ++
      String.ofList (Nat.toDigits 16 n) ++ ") at index " ++ toString p.index)

/-- Reads what follows a percent sign: another one, or a place, which is filled.
    `total` is the length of the whole format text. -/
def readPlace (total : Nat) (supply : Supply) (s : List Char) :
    Except Fault (String × Supply × List Char) := do
  if let '%' :: rest := s then return ("%", supply, rest)
  let (supply, s) ←
    match s with
    | '(' :: rest =>
      if supply.mapping.isNone then failText "format requires a mapping"
      else
        match splitKey 0 [] rest with
        | none => refuseText "incomplete format key"
        | some (key, rest) => do
          let supply ← supply.select (String.ofList key)
          pure (supply, rest)
    | s => pure (supply, s)
  let (p, s) := readFlags {} s
  let (width, supply, s) ← readCount .width supply s
  let p :=
    match width with
    | some n => if n < 0 then { p with left := true, width := n.natAbs } else { p with width := n.toNat }
    | none => p
  let (p, supply, s) ←
    match s with
    | '.' :: rest => do
      let (n, supply, rest) ← readCount .precision supply rest
      pure ({ p with precision := some (n.getD 0).toNat }, supply, rest)
    | s => pure (p, supply, s)
  let s :=
    match s with
    | c :: rest => if c = 'h' || c = 'l' || c = 'L' then rest else s
    | [] => s
  match s with
  | [] => refuseText "incomplete format"
  | c :: rest => do
    let (f, supply) ← supply.next
    let text ← showPlace { p with letter := c, index := total - rest.length - 1 } f
    return (text, supply, rest)

/-- Fills the places of a format text. The first argument bounds their number. -/
def fillFrom (total : Nat) : Nat → Supply → List Char → Except Fault (List String × Supply)
  | 0, supply, _ => .ok ([], supply)
  | _, supply, [] => .ok ([], supply)
  | fuel + 1, supply, c :: s =>
    if c = '%' then do
      let (text, supply, rest) ← readPlace total supply s
      let (texts, supply) ← fillFrom total fuel supply rest
      return (text :: texts, supply)
    else do
      let (texts, supply) ← fillFrom total fuel supply s
      return (String.singleton c :: texts, supply)

/-- A format text filled from a supply. -/
def fill (format : String) (supply : Supply) : Except Fault String := do
  let cs := format.toList
  let (texts, supply) ← fillFrom cs.length cs.length supply cs
  if supply.queue.isEmpty || supply.mapping.isSome then return String.join texts
  else failText "not all arguments converted during string formatting"

/-- Whether keys of a format text may refer to the value. -/
def isMapping : Value → Bool
  | .dict _ | .list _ | .undefined _ => true
  | _ => false

/-- The values that an operand supplies. -/
def supplyOf (escaping : Bool) (v : Value) : Supply :=
  match v with
  | .tuple items => ⟨none, items.map (⟨·, escaping⟩)⟩
  | v => ⟨if isMapping v then some ⟨v, escaping⟩ else none, [⟨v, escaping⟩]⟩

end Format

namespace Value

/-- Remainder of numbers; a text on the left is a format text to fill. -/
def mod (v w : Value) : Except Fault Value :=
  match v with
  | .text s => (Format.fill s (Format.supplyOf false w)).map .text
  | .markup s => (Format.fill s (Format.supplyOf true w)).map .markup
  | v => numericMod v w

end Value

end Stencil
