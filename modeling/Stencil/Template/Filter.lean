import Stencil.Template.Member
import Stencil.Text.Blank
import Stencil.Text.Case

/-!
# Filters and tests

A filter turns a value into another, a test answers a question about one. Both
take further arguments by position and by name, and the names, the counts and the
defaults are checked before anything is computed.

Only one filter needs to know where it is used: the one that translates. It is
applied where templates are rendered; here it has only a name.

## Main definitions

* `Signature`: The parameters of a callable.
* `Signature.bind`: Arguments in the order of the parameters.
* `Filter.run?`: The filters, by name.
* `Test.run?`: The tests, by name.
-/

namespace Stencil

/-- The parameters of a callable: its name in error texts, how many leading ones
    are filled in silently, and the others with their defaults. -/
structure Signature where
  name : String
  hidden : Nat := 0
  params : List (String × Option Value)

namespace Signature

def argumentFault {α : Type} (text : String) : Except Fault α :=
  .error (.misuse (.arguments text))

/-- The count of parameters in an error text. -/
def countText (s : Signature) : String :=
  let most := s.hidden + s.params.length
  let least := s.hidden + (s.params.filter (·.2.isNone)).length
  if least = most then
    toString most ++ " positional argument" ++ (if most = 1 then "" else "s")
  else "from " ++ toString least ++ " to " ++ toString most ++ " positional arguments"

/-- Names in an error text: quoted, with commas, and the last after an `and`. -/
def namesText : List String → String
  | [] => ""
  | [a] => Text.quoted a
  | [a, b] => Text.quoted a ++ " and " ++ Text.quoted b
  | [a, b, c] => Text.quoted a ++ ", " ++ Text.quoted b ++ ", and " ++ Text.quoted c
  | a :: rest => Text.quoted a ++ ", " ++ namesText rest

/-- Fills each parameter from the positional arguments, then by name, then with its
    default; what stays open is listed. -/
def fillParams (keywords : List (String × Value)) :
    List (String × Option Value) → List Value → List Value × List String
  | [], _ => ([], [])
  | (_, _) :: ps, v :: vs =>
    let (filled, unfilled) := fillParams keywords ps vs
    (v :: filled, unfilled)
  | (p, d) :: ps, [] =>
    let (filled, unfilled) := fillParams keywords ps []
    match (keywords.lookup p).or d with
    | some v => (v :: filled, unfilled)
    | none => (filled, p :: unfilled)

/-- The arguments of a call in the order of the parameters. -/
def bind (s : Signature) (args : List Value) (keywords : List (String × Value)) :
    Except Fault (List Value) :=
  let names := s.params.map (·.1)
  match keywords.find? fun k => !names.contains k.1 with
  | some (k, _) =>
    argumentFault (s.name ++ "() got an unexpected keyword argument " ++ Text.quoted k)
  | none =>
    match keywords.find? fun k => (names.take args.length).contains k.1 with
    | some (k, _) =>
      argumentFault (s.name ++ "() got multiple values for argument " ++ Text.quoted k)
    | none =>
      if s.params.length < args.length then
        let given := s.hidden + args.length
        argumentFault (s.name ++ "() takes " ++ s.countText ++ " but " ++ toString given ++
          (if given = 1 then " was given" else " were given"))
      else
        match fillParams keywords s.params args with
        | (filled, []) => .ok filled
        | (_, missing) =>
          argumentFault (s.name ++ "() missing " ++ toString missing.length ++
            " required positional argument" ++ (if missing.length = 1 then "" else "s") ++
            ": " ++ namesText missing)

end Signature

namespace Filter

/-- A filter on the text of a value; markup stays markup. -/
def onText (f : List Char → List Char) (v : Value) : Except Fault Value :=
  match v with
  | .markup s => .ok (.markup (String.ofList (f s.toList)))
  | v => do return .text (String.ofList (f (← v.str).toList))

/-- The text between characters of a set at its ends. -/
def trimOf (chars : List Char) (s : List Char) : List Char :=
  ((s.dropWhile chars.contains).reverse.dropWhile chars.contains).reverse

/-- The text without the blanks, or the given characters, at its ends. -/
def trim (v chars : Value) : Except Fault Value :=
  match chars with
  | .null => onText Text.trim v
  | chars =>
    match chars.text? with
    | some cs => onText (trimOf cs.toList) v
    | none => .error (.misuse (.arguments ("strip arg must be None or str")))

/-- A value in place of one that is undefined, or also of one that is false. -/
def default (v other boolean : Value) : Except Fault Value :=
  match v with
  | .undefined _ => .ok other
  | v => do
    if ← boolean.truth then
      if ← v.truth then return v else return other
    else return v

/-- The first item. -/
def first (strict : Bool) (v : Value) : Except Fault Value := do
  match ← v.items with
  | x :: _ => return x
  | [] => return .undefined ⟨"No first item, sequence was empty.", strict⟩

/-- The items of a value that can be run through from its end. -/
def reversible (v : Value) : Except Fault (List Value) :=
  match v with
  | .markup s => .ok (s.toList.map fun c => .markup (String.singleton c))
  | .list _ | .tuple _ | .text _ | .dict _ | .undefined _ => v.items
  | v => .error (.misuse (.notReversible v.kindName))

/-- The last item. -/
def last (strict : Bool) (v : Value) : Except Fault Value := do
  match (← reversible v).getLast? with
  | some x => return x
  | none => return .undefined ⟨"No last item, sequence was empty.", strict⟩

def isMarkup : Value → Bool
  | .markup _ => true
  | _ => false

/-- Texts with a separator between them. -/
def joinTexts (sep : String) (texts : List String) : String := sep.intercalate texts

/-- The items as one text with a separator between them. If the separator or any
    item is markup the result is markup, and what is not is escaped. -/
def join (v sep key : Value) (strict : Bool) : Except Fault Value := do
  let items ← v.items
  let items ←
    match key with
    | .null => pure items
    | key => items.mapM fun x => Value.item strict x key
  if isMarkup sep then
    let texts ← items.mapM Value.escaped
    return .markup (joinTexts sep.shown texts)
  else
    let texts ← items.mapM fun x => x.str.map fun s => (isMarkup x, s)
    if texts.any (·.1) then
      let sep ← sep.escaped
      return .markup (joinTexts sep (texts.map fun t => if t.1 then t.2 else escape t.2))
    else
      let sep ← sep.str
      return .text (joinTexts sep (texts.map (·.2)))

/-- The filter that translates. -/
def transName : String := "trans"

def upperSignature : Signature := ⟨"do_upper", 0, [("s", none)]⟩
def lowerSignature : Signature := ⟨"do_lower", 0, [("s", none)]⟩
def trimSignature : Signature := ⟨"do_trim", 0, [("value", none), ("chars", some .null)]⟩
def defaultSignature : Signature :=
  ⟨"do_default", 0,
    [("value", none), ("default_value", some (.text "")), ("boolean", some (.bool false))]⟩
def joinSignature : Signature :=
  ⟨"sync_do_join", 1, [("value", none), ("d", some (.text "")), ("attribute", some .null)]⟩
def firstSignature : Signature := ⟨"sync_do_first", 1, [("seq", none)]⟩
def lastSignature : Signature := ⟨"do_last", 1, [("seq", none)]⟩
def safeSignature : Signature := ⟨"do_mark_safe", 0, [("value", none)]⟩
def escapeSignature : Signature := ⟨"escape", 0, [("s", none)]⟩
def transSignature : Signature := ⟨"trans_filter", 1, [("message", none)]⟩

/-- A filter of one argument. -/
def single (s : Signature) (f : Value → Except Fault Value) (args : List Value)
    (keywords : List (String × Value)) : Except Fault Value := do
  match ← s.bind args keywords with
  | v :: _ => f v
  | [] => return .null

/-- The length, which takes one value and no names. -/
def lengthOf (args : List Value) (keywords : List (String × Value)) : Except Fault Value :=
  if !keywords.isEmpty then Signature.argumentFault "len() takes no keyword arguments"
  else
    match args with
    | [v] => v.length.map fun n => .int n
    | vs =>
      Signature.argumentFault ("len() takes exactly one argument (" ++ toString vs.length ++
        " given)")

/-- The names of the filters that need nothing but their arguments. -/
def names : List String :=
  ["default", "d", "upper", "lower", "trim", "length", "count", "first", "last", "join", "safe",
    "e", "escape"]

/-- Applies a filter to its value and arguments. None if there is no such filter
    that needs nothing else. -/
def run? (strict : Bool) (name : String) (args : List Value)
    (keywords : List (String × Value)) : Option (Except Fault Value) :=
  if name = "default" || name = "d" then
    some do
      match ← defaultSignature.bind args keywords with
      | [v, other, boolean] => default v other boolean
      | _ => return .null
  else if name = "upper" then some (single upperSignature (onText Text.upper) args keywords)
  else if name = "lower" then some (single lowerSignature (onText Text.lower) args keywords)
  else if name = "trim" then
    some do
      match ← trimSignature.bind args keywords with
      | [v, chars] => trim v chars
      | _ => return .null
  else if name = "length" || name = "count" then some (lengthOf args keywords)
  else if name = "first" then some (single firstSignature (first strict) args keywords)
  else if name = "last" then some (single lastSignature (last strict) args keywords)
  else if name = "join" then
    some do
      match ← joinSignature.bind args keywords with
      | [v, sep, key] => join v sep key strict
      | _ => return .null
  else if name = "safe" then
    some (single safeSignature (fun v => v.str.map .markup) args keywords)
  else if name = "e" || name = "escape" then
    some (single escapeSignature (fun v => v.escaped.map .markup) args keywords)
  else none

end Filter

namespace Test

def isUndefined : Value → Bool
  | .undefined _ => true
  | _ => false

def isNull : Value → Bool
  | .null => true
  | _ => false

/-- The names of the tests. -/
def names : List String := ["defined", "undefined", "none"]

/-- Asks a test of its value and arguments. None if there is no such test. -/
def run? (name : String) (args : List Value) (keywords : List (String × Value)) :
    Option (Except Fault Value) :=
  let ask (f : Value → Bool) : Option (Except Fault Value) :=
    some (Filter.single ⟨"test_" ++ name, 0, [("value", none)]⟩ (fun v => .ok (.bool (f v)))
      args keywords)
  if name = "defined" then ask fun v => !isUndefined v
  else if name = "undefined" then ask isUndefined
  else if name = "none" then ask isNull
  else none

end Test

end Stencil
