import Stencil.Fault

/-!
# Comparing values

Equality, order, truth, membership, length and iteration. Booleans count as the
integers zero and one, integers and doubles compare exactly, and a plain text
equals markup of the same characters. Sequences compare item by item, mappings
without regard to the order of their entries.

The strict undefined value refuses every one of these questions, so each answer
may be a fault. The lenient one is false, empty, of length zero, and equal only to
its like.

## Main definitions

* `Value.equal`: Equality.
* `Value.ordered`: The four order relations.
* `Value.truth`, `Value.length`, `Value.items`, `Value.member`: The other
  questions.
* `Value.str`: The text of a value that may be read.
* `Value.lookup?`: Looking a key up in a mapping.

## Theorems

* `Value.str_of_defined`: Only the strict undefined value has no text.
-/

namespace Stencil

/-- An integer or a double. -/
inductive Number where
  | int (n : Int)
  | float (x : Float)

namespace Number

/-- The exact order of two numbers; none if one of them is no number. -/
def compare? : Number → Number → Option Ordering
  | .int m, .int n => some (compare m n)
  | .int m, .float y => Decimal.compareInt m y
  | .float x, .int n => (Decimal.compareInt n x).map Ordering.swap
  | .float x, .float y =>
    if x < y then some .lt else if y < x then some .gt else if x == y then some .eq else none

end Number

/-- The order relations of templates and scripts. -/
inductive Relation where
  | lt
  | le
  | gt
  | ge
deriving DecidableEq

namespace Relation

def symbol : Relation → String
  | .lt => "<"
  | .le => "<="
  | .gt => ">"
  | .ge => ">="

/-- Whether the relation holds of two things that compare so. -/
def holds : Relation → Ordering → Bool
  | .lt, o => o == .lt
  | .le, o => o != .gt
  | .gt, o => o == .gt
  | .ge, o => o != .lt

end Relation

/-- The order of two texts by code point. -/
def compareText (a b : String) : Ordering :=
  if a = b then .eq else if a < b then .lt else .gt

namespace Value

/-- The number that a value counts as. -/
def number? : Value → Option Number
  | .bool b => some (.int (if b then 1 else 0))
  | .int n => some (.int n)
  | .float x => some (.float x)
  | _ => none

/-- The characters of a text, plain or markup. -/
def text? : Value → Option String
  | .text s => some s
  | .markup s => some s
  | _ => none

/-- A use that the strict undefined value refuses. -/
def refuse {α : Type} (u : Undefined) : Except Fault α := .error (.undefined u.message)

/-- The text of a value, which the strict undefined value does not have. -/
def str : Value → Except Fault String
  | .undefined u => if u.strict then refuse u else .ok ""
  | v => .ok v.shown

theorem str_of_defined {v : Value} (h : ∀ u, v ≠ .undefined u) : v.str = .ok v.shown := by
  cases v <;> first | rfl | exact absurd rfl (h _)

/-- Whether a comparison succeeded and said yes. -/
def isTrue : Except Fault Bool → Bool
  | .ok b => b
  | .error _ => false

mutual

/-- Equality of values. -/
def equal : Value → Value → Except Fault Bool
  | .undefined u, w =>
    if u.strict then refuse u
    else
      match w with
      | .undefined u' => if u'.strict then refuse u' else .ok true
      | _ => .ok false
  | v, .undefined u' => let _ := v; if u'.strict then refuse u' else .ok false
  | .null, .null => .ok true
  | .text s, w => .ok (w.text? == some s)
  | .markup s, w => .ok (w.text? == some s)
  | .list xs, .list ys => if xs.length = ys.length then equalItems xs ys else .ok false
  | .tuple xs, .tuple ys => if xs.length = ys.length then equalItems xs ys else .ok false
  | .dict es, .dict fs => if es.length = fs.length then equalEntries es fs else .ok false
  | .loop i n, .loop j m => .ok (i == j && n == m)
  | .function f, .function g => .ok (f == g)
  | .moment m, .moment m' => .ok (m == m')
  | v, w =>
    match v.number?, w.number? with
    | some a, some b => .ok (a.compare? b == some .eq)
    | _, _ => .ok false

/-- Equality item by item, for lists of one length. -/
def equalItems : List Value → List Value → Except Fault Bool
  | x :: xs, y :: ys => do if ← equal x y then equalItems xs ys else return false
  | _, _ => .ok true

/-- Whether every entry is found among the others with an equal value. -/
def equalEntries : List (Value × Value) → List (Value × Value) → Except Fault Bool
  | [], _ => .ok true
  | (k, v) :: es, fs => do
    match fs.findSome? fun f => if isTrue (equal k f.1) then some f.2 else none with
    | some w => if ← equal v w then equalEntries es fs else return false
    | none => return false

end

mutual

/-- Why a value cannot be the key of a mapping, if it cannot. -/
def keyFault? : Value → Option Fault
  | .list _ => some (.misuse (.unhashable "list"))
  | .dict _ => some (.misuse (.unhashable "dict"))
  | .undefined u => if u.strict then some (.undefined u.message) else none
  | .tuple items => keyFaultItems? items
  | _ => none

/-- The first fault among the items of a key. -/
def keyFaultItems? : List Value → Option Fault
  | [] => none
  | v :: vs => (keyFault? v).or (keyFaultItems? vs)

end

/-- The value of the first entry whose key equals `k`. -/
def findEntry (k : Value) (es : List (Value × Value)) : Option Value :=
  es.findSome? fun e => if isTrue (equal k e.1) then some e.2 else none

/-- The value that a mapping holds for a key, or a fault if the key cannot be
    one. -/
def lookup? (k : Value) (es : List (Value × Value)) : Except Fault (Option Value) :=
  match keyFault? k with
  | some f => .error f
  | none => .ok (findEntry k es)

/-- The entries of a mapping after writing one: a key keeps its place. -/
def putEntry (k v : Value) : List (Value × Value) → List (Value × Value)
  | [] => [(k, v)]
  | (k', v') :: es =>
    if isTrue (equal k k') then (k', v) :: es else (k', v') :: putEntry k v es

mutual

/-- An order relation between two values. Sequences compare at their first
    unequal items, and by length if there are none. -/
def ordered (r : Relation) : Value → Value → Except Fault Bool
  | .undefined u, _ => refuse u
  | v, .undefined u => let _ := v; refuse u
  | .list xs, .list ys => orderedItems r xs ys
  | .tuple xs, .tuple ys => orderedItems r xs ys
  | v, w =>
    match v.number?, w.number? with
    | some a, some b =>
      .ok (match a.compare? b with
        | some o => r.holds o
        | none => false)
    | _, _ =>
      match v.text?, w.text? with
      | some a, some b => .ok (r.holds (compareText a b))
      | _, _ => .error (.misuse (.unordered r.symbol v.kindName w.kindName))

/-- An order relation between two lists of items. -/
def orderedItems (r : Relation) : List Value → List Value → Except Fault Bool
  | [], [] => .ok (r.holds .eq)
  | [], _ :: _ => .ok (r.holds .lt)
  | _ :: _, [] => .ok (r.holds .gt)
  | x :: xs, y :: ys => do
    if ← equal x y then orderedItems r xs ys else ordered r x y

end

/-- Whether a condition on the value holds. -/
def truth : Value → Except Fault Bool
  | .null => .ok false
  | .bool b => .ok b
  | .int n => .ok (n != 0)
  | .float x => .ok (!(x == 0.0))
  | .text s => .ok (s != "")
  | .markup s => .ok (s != "")
  | .list items => .ok !items.isEmpty
  | .tuple items => .ok !items.isEmpty
  | .dict entries => .ok !entries.isEmpty
  | .undefined u => if u.strict then refuse u else .ok false
  | .loop .. => .ok true
  | .function _ => .ok true
  | .moment _ => .ok true

/-- The number of characters, items or entries. -/
def length : Value → Except Fault Nat
  | .text s => .ok s.length
  | .markup s => .ok s.length
  | .list items => .ok items.length
  | .tuple items => .ok items.length
  | .dict entries => .ok entries.length
  | .undefined u => if u.strict then refuse u else .ok 0
  | .loop _ n => .ok n
  | v => .error (.misuse (.noLength v.kindName))

/-- The characters of a text as texts. -/
def characters (s : String) : List Value := s.toList.map fun c => .text (String.singleton c)

/-- What a loop over the value runs through: items, characters or keys. -/
def items : Value → Except Fault (List Value)
  | .list items => .ok items
  | .tuple items => .ok items
  | .text s => .ok (characters s)
  | .markup s => .ok (characters s)
  | .dict entries => .ok (entries.map (·.1))
  | .undefined u => if u.strict then refuse u else .ok []
  | v => .error (.misuse (.notIterable v.kindName))

/-- Whether one of the items equals `v`. -/
def memberOf (v : Value) : List Value → Except Fault Bool
  | [] => .ok false
  | w :: ws => do if ← equal w v then return true else memberOf v ws

/-- Whether a text occurs in another. -/
def occursIn (a : List Char) : List Char → Bool
  | [] => a.isEmpty
  | c :: s => a.isPrefixOf (c :: s) || occursIn a s

/-- Whether `v` is an item, a key or a part of `w`. -/
def member (v w : Value) : Except Fault Bool :=
  match w with
  | .list items => memberOf v items
  | .tuple items => memberOf v items
  | .dict entries => (lookup? v entries).map Option.isSome
  | .undefined u => if u.strict then refuse u else .ok false
  | w =>
    match w.text? with
    | some s =>
      match v.text? with
      | some a => .ok (occursIn a.toList s.toList)
      | none => .error (.misuse (.notSubstring v.kindName))
    | none => .error (.misuse (.notContainer w.kindName))

end Value

end Stencil
