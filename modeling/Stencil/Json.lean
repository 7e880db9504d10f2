import Stencil.Decimal.Binary
import Stencil.Text.Digits
import Stencil.Value

/-!
# Data in JSON

Reading and writing values as JSON text. Integers have any size, a number with a point
or an exponent is a double, and a key that is repeated keeps its first place and takes
its last value. Beyond the standard, the three names of infinite and
missing numbers are read. There may be limits to the digits of a whole number and to
how deep a text is nested, and a text is read from its front, so the first trouble is
the one that is told.

A text here is a list of whole characters. An escape for half a character that its
other half does not follow would make a text that none of them is, so a text with such
an escape is told apart and not read.

Writing keeps to ASCII: every other character is an escape, in two parts beyond the
first plane.

## Main definitions

* `Json.Trouble`, `Json.Limits`: What keeps a text from being read.
* `Json.read`: Reading a text.
* `Json.text`: Writing a value.
-/

namespace Stencil

namespace Json

open Text (numberOf isBaseDigit takeHex?)

/-- The blanks of JSON. -/
def isSpace (c : Char) : Bool := c == ' ' || c == '\t' || c == '\n' || c == '\r'

def skip (s : List Char) : List Char := s.dropWhile isSpace

/-- What keeps a text from being read. -/
inductive Trouble where
  /-- It is not well formed. -/
  | malformed
  /-- A whole number has more digits than are read. -/
  | digits (limit count : Nat)
  /-- A list or a mapping is nested deeper than is read. -/
  | depth (isList : Bool)
  /-- An escape is for half a character alone, which no text can hold here. -/
  | half
deriving DecidableEq

/-- How many digits a whole number may have, and how deep lists and mappings may be
    nested; none if there is no limit. -/
structure Limits where
  digits : Option Nat
  depth : Option Nat

/-- What has to be there for a text to be well formed. -/
def needed {α : Type} : Option α → Except Trouble α
  | some x => .ok x
  | none => .error .malformed

/-- The character that an escape for a sixteen-bit number starts, past its digits. Two
    escapes for the halves of a character are read as one. -/
def unit (n : Nat) (s : List Char) : Except Trouble (Char × List Char) :=
  if n < 0xd800 || 0xe000 ≤ n then .ok (Char.ofNat n, s)
  else
    match s with
    | '\\' :: 'u' :: s =>
      match takeHex? 4 s with
      | some (m, s) =>
        if n < 0xdc00 && 0xdc00 ≤ m && m < 0xe000 then
          .ok (Char.ofNat (0x10000 + (n - 0xd800) * 0x400 + (m - 0xdc00)), s)
        else .error .half
      | none => .error .half
    | _ => .error .half

/-- The character of an escape past its backslash. -/
def escapeChar (s : List Char) : Except Trouble (Char × List Char) :=
  match s with
  | '"' :: s => .ok ('"', s)
  | '\\' :: s => .ok ('\\', s)
  | '/' :: s => .ok ('/', s)
  | 'b' :: s => .ok ('\x08', s)
  | 'f' :: s => .ok ('\x0c', s)
  | 'n' :: s => .ok ('\n', s)
  | 'r' :: s => .ok ('\r', s)
  | 't' :: s => .ok ('\t', s)
  | 'u' :: s => do
    let (n, s) ← needed (takeHex? 4 s)
    unit n s
  | _ => .error .malformed

/-- A string past its opening quote. -/
def string : Nat → List Char → Except Trouble (List Char × List Char)
  | 0, _ => .error .malformed
  | _, [] => .error .malformed
  | fuel + 1, c :: s =>
    if c = '"' then .ok ([], s)
    else if c = '\\' then do
      let (d, s) ← escapeChar s
      let (ds, rest) ← string fuel s
      return (d :: ds, rest)
    else if c.toNat < 32 then .error .malformed
    else do
      let (ds, rest) ← string fuel s
      return (c :: ds, rest)

/-- The digits after a point, and the text after them. A point without digits is none. -/
def takeFraction (s : List Char) : Option (List Char) × List Char :=
  match s with
  | '.' :: r =>
    let fs := r.takeWhile Char.isDigit
    if fs.isEmpty then (none, s) else (some fs, r.drop fs.length)
  | s => (none, s)

/-- The exponent at the front of a text, and the text after it. -/
def takeExponent (s : List Char) : Option Int × List Char :=
  match s with
  | e :: r =>
    if e = 'e' || e = 'E' then
      let (down, r) := Text.takeSign r
      let es := r.takeWhile Char.isDigit
      if es.isEmpty then (none, s)
      else
        let n : Int := numberOf 10 es
        (some (if down then -n else n), r.drop es.length)
    else (none, s)
  | [] => (none, s)

/-- A number. Only whole numbers may have too many digits. -/
def number (l : Limits) (s : List Char) : Except Trouble (Value × List Char) :=
  let (negative, s) :=
    match s with
    | '-' :: s => (true, s)
    | s => (false, s)
  let ds := s.takeWhile Char.isDigit
  let ds := if ds.head? = some '0' then ['0'] else ds
  let (fraction, rest) := takeFraction (s.drop ds.length)
  let (exponent, rest) := takeExponent rest
  if ds.isEmpty then .error .malformed
  else
    match fraction, exponent with
    | none, none =>
      match l.digits.filter (· < ds.length) with
      | some most => .error (.digits most ds.length)
      | none => .ok (.int (if negative then -(numberOf 10 ds : Int) else numberOf 10 ds), rest)
    | fraction, exponent =>
      let fs := fraction.getD []
      .ok (.float (Decimal.ofScientific negative (numberOf 10 (ds ++ fs))
        (exponent.getD 0 - fs.length)), rest)

/-- The words of JSON and what they stand for. -/
def words : List (String × Value) :=
  [("null", .null), ("true", .bool true), ("false", .bool false),
    ("NaN", .float (0.0 / 0.0)), ("Infinity", .float (1.0 / 0.0)),
    ("-Infinity", .float (-1.0 / 0.0))]

/-- The word at the front of a text. -/
def word? (s : List Char) : Option (Value × List Char) :=
  words.findSome? fun (w, v) =>
    if w.toList.isPrefixOf s then some (v, s.drop w.length) else none

/-- Whether one more level of nesting is one too many. -/
def Limits.tooDeep (l : Limits) (level : Nat) : Bool := l.depth.any (· ≤ level)

mutual

/-- A value inside so many lists and mappings. The first number bounds the work. -/
def value (l : Limits) : Nat → Nat → List Char → Except Trouble (Value × List Char)
  | 0, _, _ => .error .malformed
  | fuel + 1, level, s =>
    match s with
    | '"' :: r => do
      let (cs, rest) ← string (r.length + 1) r
      return (.text (String.ofList cs), rest)
    | '[' :: r =>
      if l.tooDeep level then .error (.depth true)
      else
        match skip r with
        | ']' :: rest => .ok (.list [], rest)
        | r => do
          let (vs, rest) ← items l fuel (level + 1) r
          return (.list vs, rest)
    | '\x7b' :: r =>
      if l.tooDeep level then .error (.depth false)
      else
        match skip r with
        | '\x7d' :: rest => .ok (.dict [], rest)
        | r => do
          let (es, rest) ← entries l fuel (level + 1) [] r
          return (Bindings.toValue es, rest)
    | s =>
      match word? s with
      | some read => .ok read
      | none => number l s

/-- The items of a list and its closing bracket. -/
def items (l : Limits) : Nat → Nat → List Char → Except Trouble (List Value × List Char)
  | 0, _, _ => .error .malformed
  | fuel + 1, level, s => do
    let (v, s) ← value l fuel level s
    match skip s with
    | ']' :: rest => return ([v], rest)
    | ',' :: s => do
      let (vs, rest) ← items l fuel level (skip s)
      return (v :: vs, rest)
    | _ => .error .malformed

/-- The entries of a mapping, after those that were found, and its closing brace. -/
def entries (l : Limits) : Nat → Nat → Bindings → List Char → Except Trouble (Bindings × List Char)
  | 0, _, _, _ => .error .malformed
  | fuel + 1, level, found, s =>
    match s with
    | '"' :: r => do
      let (k, s) ← string (r.length + 1) r
      match skip s with
      | ':' :: s => do
        let (v, s) ← value l fuel level (skip s)
        let found := found.set (String.ofList k) v
        match skip s with
        | '\x7d' :: rest => return (found, rest)
        | ',' :: s => entries l fuel level found (skip s)
        | _ => .error .malformed
      | _ => .error .malformed
    | _ => .error .malformed

end

/-- The value that a whole text writes. -/
def read (l : Limits) (s : List Char) : Except Trouble Value := do
  let (v, rest) ← value l (s.length + 1) 0 (skip s)
  if (skip rest).isEmpty then return v else .error .malformed

/-- The value that a whole text writes, where nothing is limited. -/
def parse? (s : List Char) : Option Value := (read ⟨none, none⟩ s).toOption

/-- A sixteen-bit number as an escape. -/
def unitEscape (n : Nat) : List Char := '\\' :: 'u' :: Text.hexDigits 4 n

/-- A character inside a string. -/
def writtenChar (c : Char) : List Char :=
  match c with
  | '"' => ['\\', '"']
  | '\\' => ['\\', '\\']
  | '\n' => ['\\', 'n']
  | '\r' => ['\\', 'r']
  | '\t' => ['\\', 't']
  | '\x08' => ['\\', 'b']
  | '\x0c' => ['\\', 'f']
  | c =>
    let n := c.toNat
    if 32 ≤ n && n < 127 then [c]
    else if n < 0x10000 then unitEscape n
    else unitEscape (0xd800 + (n - 0x10000) / 0x400) ++ unitEscape (0xdc00 + (n - 0x10000) % 0x400)

/-- A text as a string. -/
def writtenString (s : String) : String :=
  String.ofList ('"' :: s.toList.flatMap writtenChar ++ ['"'])

/-- A double. -/
def writtenFloat (x : Float) : String :=
  match Decimal.parts x with
  | .nan => "NaN"
  | .infinite negative => if negative then "-Infinity" else "Infinity"
  | .finite _ => Decimal.text x

mutual

/-- A value as JSON text. -/
def text : Value → String
  | .null => "null"
  | .bool b => if b then "true" else "false"
  | .int n => toString n
  | .float x => writtenFloat x
  | .text s => writtenString s
  | .markup s => writtenString s
  | .list items => "[" ++ ", ".intercalate (texts items) ++ "]"
  | .tuple items => "[" ++ ", ".intercalate (texts items) ++ "]"
  | .dict entries => "\x7b" ++ ", ".intercalate (entryTexts entries) ++ "\x7d"
  | .undefined _ => "null"
  | .loop .. => "null"
  | .function _ => "null"
  | .moment m => writtenString m.shown

def texts : List Value → List String
  | [] => []
  | v :: vs => text v :: texts vs

def entryTexts : List (Value × Value) → List String
  | [] => []
  | (k, v) :: es => (writtenString k.shown ++ ": " ++ text v) :: entryTexts es

end

end Json

end Stencil
