import Stencil.Decimal.Reader
import Stencil.Text.Digits
import Stencil.Text.Word
import Stencil.Value

/-!
# Strings, numbers and dates in settings

The values of settings that have no parts. A string stands on one line or, between
three quotes, on several; with double quotes it has escapes, with single ones it has
none. Everything else is one word: a boolean, a number, or a date or a time.

## Main definitions

* `string?`: A string, and the text after it.
* `moment?`: The date or the time that a word writes.
* `word`, `wordValue?`: A word, and the value that it stands for.
-/

namespace Stencil

namespace Toml

open Text (numberOf isBaseDigit takeHex? takeDigits)

/-- The blanks inside a line. -/
def isSpace (c : Char) : Bool := c == ' ' || c == '\t'

def skip (s : List Char) : List Char := s.dropWhile isSpace

/-! ## Strings -/

/-- The character of a number. Halves of characters are none. -/
def codePoint? (n : Nat) : Option Char := if n.isValidChar then some (Char.ofNat n) else none

/-- The character of an escape past its backslash, and the text after it. -/
def escape? : List Char → Option (Char × List Char)
  | 'b' :: s => some ('\x08', s)
  | 't' :: s => some ('\t', s)
  | 'n' :: s => some ('\n', s)
  | 'f' :: s => some ('\x0c', s)
  | 'r' :: s => some ('\r', s)
  | '"' :: s => some ('"', s)
  | '\\' :: s => some ('\\', s)
  | '0' :: s => some ('\x00', s)
  | 'u' :: s => do
    let (n, s) ← takeHex? 4 s
    return (← codePoint? n, s)
  | 'U' :: s => do
    let (n, s) ← takeHex? 8 s
    return (← codePoint? n, s)
  | _ => none

/-- A string with escapes, past its opening quote. -/
def basicString? : Nat → List Char → Option (List Char × List Char)
  | 0, _ => none
  | _, [] => none
  | fuel + 1, c :: s => do
    if c = '"' then return ([], s)
    else if c = '\n' then none
    else
      let (d, s) ← if c = '\\' then escape? s else some (c, s)
      let (ds, rest) ← basicString? fuel s
      return (d :: ds, rest)

/-- A string without escapes, past its opening quote. -/
def literalString? (s : List Char) : Option (List Char × List Char) :=
  let body := s.takeWhile fun c => c != '\'' && c != '\n'
  match s.drop body.length with
  | '\'' :: rest => some (body, rest)
  | _ => none

/-- The text after a backslash that ends its line, which joins the next word to it. -/
def joined? (s : List Char) : Option (List Char) :=
  match skip s with
  | '\n' :: s => some (s.dropWhile fun c => isSpace c || c == '\n')
  | _ => none

/-- A string over several lines, past its three opening quotes. -/
def longString? (quote : Char) (escapes : Bool) : Nat → List Char → Option (List Char × List Char)
  | 0, _ => none
  | _, [] => none
  | fuel + 1, c :: s => do
    if [quote, quote, quote].isPrefixOf (c :: s) then return ([], s.drop 2)
    else if escapes && c = '\\' then
      match joined? s with
      | some s => longString? quote escapes fuel s
      | none =>
        let (d, s) ← escape? s
        let (ds, rest) ← longString? quote escapes fuel s
        return (d :: ds, rest)
    else
      let (ds, rest) ← longString? quote escapes fuel s
      return (c :: ds, rest)

/-- A line break right after the opening quotes is none of the string. -/
def withoutFirstBreak : List Char → List Char
  | '\n' :: s => s
  | s => s

/-- A string on one line, and the text after it. -/
def shortString? : List Char → Option (List Char × List Char)
  | '"' :: s => basicString? (s.length + 1) s
  | '\'' :: s => literalString? s
  | _ => none

/-- A string, and the text after it. -/
def string? : List Char → Option (String × List Char)
  | '"' :: '"' :: '"' :: s =>
    (longString? '"' true (s.length + 1) (withoutFirstBreak s)).map fun (cs, rest) =>
      (String.ofList cs, rest)
  | '\'' :: '\'' :: '\'' :: s =>
    (longString? '\'' false (s.length + 1) (withoutFirstBreak s)).map fun (cs, rest) =>
      (String.ofList cs, rest)
  | s => (shortString? s).map fun (cs, rest) => (String.ofList cs, rest)

/-! ## Numbers -/

/-- Digits of a base in which single underscores may separate others, as a number. -/
def whole? (base : Nat) (s : List Char) : Option Nat :=
  let (ds, rest) := takeDigits (isBaseDigit base) s
  if ds.isEmpty || !rest.isEmpty then none else some (numberOf base ds)

/-- Decimal digits in which single underscores may separate others, as digits alone. -/
def plainDigits? (s : List Char) : Option (List Char) :=
  let (ds, rest) := takeDigits Char.isDigit s
  if ds.isEmpty || !rest.isEmpty then none else some ds

/-- A whole number after the mark of its base. -/
def marked? (s : List Char) : Option Nat :=
  match s with
  | '0' :: 'x' :: ds => whole? 16 ds
  | '0' :: 'o' :: ds => whole? 8 ds
  | '0' :: 'b' :: ds => whole? 2 ds
  | _ => none

/-- Whether a number starts with a zero that more digits or an exponent follow. -/
def isPadded (s : List Char) : Bool :=
  match s with
  | '0' :: c :: _ => c != '.'
  | _ => false

/-- A number with a fraction or an exponent, or a word for a number that is not
    finite, without its sign. -/
def fraction? (s : List Char) : Option Float :=
  let isMark (c : Char) : Bool := c == 'e' || c == 'E'
  let mantissa := s.takeWhile (!isMark ·)
  let tail := s.drop mantissa.length
  let whole := mantissa.takeWhile (· != '.')
  let places := mantissa.drop whole.length
  if s.length = 3 && s.all Char.isAlpha then Decimal.doubleWord? false s
  else if tail.isEmpty && places.isEmpty then none
  else do
    let ds ← plainDigits? whole
    let fs ←
      match places with
      | [] => some []
      | _ :: fs => plainDigits? fs
    let e ←
      match tail with
      | [] => some 0
      | tail =>
        match Text.takeExponent? tail with
        | some (e, []) => some e
        | _ => none
    return Decimal.ofScientific false (numberOf 10 (ds ++ fs)) (e - fs.length)

/-! ## Dates and times -/

/-- Exactly `n` decimal digits, as a number. -/
def field? (n : Nat) (s : List Char) : Option (Nat × List Char) :=
  let ds := s.take n
  if ds.length = n && ds.all Char.isDigit then some (numberOf 10 ds, s.drop n) else none

/-- The text after a character that has to stand there. -/
def past? (c : Char) : List Char → Option (List Char)
  | d :: s => if d = c then some s else none
  | [] => none

/-- A number with zeros in front of it. -/
def padded (width n : Nat) : String :=
  let digits := (toString n).toList
  String.ofList (List.replicate (width - digits.length) '0' ++ digits)

/-- The days of a month. -/
def daysIn (year month : Nat) : Nat :=
  if month = 2 then
    if year % 4 = 0 && (year % 100 != 0 || year % 400 = 0) then 29 else 28
  else if [4, 6, 9, 11].contains month then 30
  else 31

/-- The parts of a date, how it is shown, and the text after it. -/
def date? (s : List Char) : Option (List Nat × String × List Char) := do
  let (year, s) ← field? 4 s
  let (month, s) ← field? 2 (← past? '-' s)
  let (day, s) ← field? 2 (← past? '-' s)
  if 0 < year && 0 < month && month ≤ 12 && 0 < day && day ≤ daysIn year month then
    return ([year, month, day],
      padded 4 year ++ "-" ++ padded 2 month ++ "-" ++ padded 2 day, s)
  else none

/-- The millionths of a second after a point. -/
def millionths (s : List Char) : Nat × List Char :=
  match s with
  | '.' :: s =>
    let ds := s.takeWhile Char.isDigit
    (numberOf 10 ((ds ++ List.replicate 6 '0').take 6), s.drop ds.length)
  | s => (0, s)

/-- The parts of a time of day, how it is shown, and the text after it. Parts of zero at
    the end are left out, but for hours and minutes. -/
def clock? (s : List Char) : Option (List Nat × String × List Char) := do
  let (hour, s) ← field? 2 s
  let (minute, s) ← field? 2 (← past? ':' s)
  let (second, s) ← field? 2 (← past? ':' s)
  let (micro, s) := millionths s
  if hour < 24 && minute < 60 && second < 60 then
    let parts :=
      if micro = 0 then if second = 0 then [hour, minute] else [hour, minute, second]
      else [hour, minute, second, micro]
    let shown := padded 2 hour ++ ":" ++ padded 2 minute ++ ":" ++ padded 2 second ++
      if micro = 0 then "" else "." ++ padded 6 micro
    return (parts, shown, s)
  else none

/-- How the zone of a time is shown, if it has one. -/
def zone? : List Char → Option String
  | [] => some ""
  | ['Z'] | ['z'] => some "+00:00"
  | sign :: s => do
    let (hours, s) ← field? 2 s
    let (minutes, rest) ← field? 2 (← past? ':' s)
    if rest.isEmpty && (sign = '+' || sign = '-') then
      return String.singleton sign ++ padded 2 hours ++ ":" ++ padded 2 minutes
    else none

/-- A date or a time by its parts. -/
def momentOf (kind : MomentKind) (parts : List Nat) (shown : String) : Moment where
  kind
  shown
  quoted := "datetime." ++ kind.name ++ "(" ++ ", ".intercalate (parts.map toString) ++ ")"

/-- The date or the time that a word writes. -/
def moment? (w : List Char) : Option Moment :=
  match date? w with
  | some (day, shown, []) => some (momentOf .date day shown)
  | some (day, shown, mark :: s) => do
    if mark = 'T' || mark = 't' || mark = ' ' then
      let (time, shownTime, s) ← clock? s
      return momentOf .datetime (day ++ time) (shown ++ " " ++ shownTime ++ (← zone? s))
    else none
  | none =>
    match clock? w with
    | some (time, shown, []) => some (momentOf .time time shown)
    | _ => none

/-! ## Words -/

def isWordChar (c : Char) : Bool :=
  !(isSpace c || c == '\n' || c == ',' || c == ']' || c == '#' || c == '}')

/-- The word at the front of a text. A blank may stand between a date and a time. -/
def word (s : List Char) : List Char :=
  let w := s.takeWhile isWordChar
  match s.drop w.length with
  | ' ' :: c :: s =>
    if c.isDigit && (date? w).any (·.2.2.isEmpty) then w ++ ' ' :: (c :: s).takeWhile isWordChar
    else w
  | _ => w

/-- The value that a word stands for: a boolean, a date or a time, or a number. -/
def wordValue? (w : List Char) : Option Value :=
  if w = ['t', 'r', 'u', 'e'] then some (.bool true)
  else if w = ['f', 'a', 'l', 's', 'e'] then some (.bool false)
  else
    match marked? w, moment? w with
    | some n, _ => some (.int n)
    | none, some m => some (.moment m)
    | none, none =>
      let (negative, body) := Text.takeSign w
      if isPadded body then none
      else
        match whole? 10 body with
        | some n => some (.int (if negative then -(n : Int) else n))
        -- a sign subtracts from zero, so there is no negative zero
        | none => (fraction? body).map fun x => .float (if negative then 0.0 - x else x)

/-- Words do not stand for tables. -/
theorem wordValue?_plain {w : List Char} {v : Value} (h : wordValue? w = some v)
    (es : List (Value × Value)) : v ≠ .dict es := by
  unfold wordValue? at h
  split at h
  · cases h
    simp
  · split at h
    · cases h
      simp
    · split at h
      · cases h
        simp
      · cases h
        simp
      · split at h
        split at h
        · cases h
        · split at h
          · cases h
            simp
          · obtain ⟨x, -, rfl⟩ := Option.map_eq_some_iff.mp h
            simp

end Toml

end Stencil
