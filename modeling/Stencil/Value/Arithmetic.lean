import Stencil.Value.Order

/-!
# Arithmetic on values

The operators of templates and scripts. Division and remainder go with the
floor, a quotient of integers is a double, and an integer meets a double as the
nearest double. Adding joins sequences of one kind and multiplying repeats them.

Markup stays markup: a plain text added to it is escaped first. The undefined
value refuses all arithmetic, the lenient one too.

## Main definitions

* `escape`: A text with the five characters of markup spelled out.
* `Value.add`, `Value.sub`, `Value.mul`, `Value.div`, `Value.floorDiv`: The binary
  operators but one.
* `Value.numericMod`: The remainder of numbers.
* `Value.negate`, `Value.affirm`: The signs.

## Theorems

* `escapeChar_safe`: No escaped character is one of the five.
-/

namespace Stencil

/-- A character as it stands in markup. -/
def escapeChar : Char → List Char
  | '&' => ['&', 'a', 'm', 'p', ';']
  | '<' => ['&', 'l', 't', ';']
  | '>' => ['&', 'g', 't', ';']
  | '\'' => ['&', '#', '3', '9', ';']
  | '"' => ['&', '#', '3', '4', ';']
  | c => [c]

/-- A text as it stands in markup. -/
def escape (s : String) : String := String.ofList (s.toList.flatMap escapeChar)

/-- The characters that end a text or a quoted attribute of markup. -/
def isMarkupChar (c : Char) : Bool := c == '<' || c == '>' || c == '\'' || c == '"'

/-- What is safe for every item of a list is safe for each. -/
theorem isMarkupChar_of_all {cs : List Char} (h : (cs.all fun c => !isMarkupChar c) = true)
    {d : Char} (hd : d ∈ cs) : isMarkupChar d = false := by
  simpa using List.all_eq_true.1 h d hd

theorem escapeChar_safe (c d : Char) (h : d ∈ escapeChar c) : isMarkupChar d = false := by
  unfold escapeChar at h
  split at h
  · exact isMarkupChar_of_all rfl h
  · exact isMarkupChar_of_all rfl h
  · exact isMarkupChar_of_all rfl h
  · exact isMarkupChar_of_all rfl h
  · exact isMarkupChar_of_all rfl h
  · -- the character stands for itself, and is none of the four
    rename_i h2 h3 h4 h5
    rw [List.mem_singleton] at h
    subst h
    simp only [isMarkupChar, Bool.or_eq_false_iff, beq_eq_false_iff_ne]
    exact ⟨⟨⟨h2, h3⟩, h4⟩, h5⟩

namespace Value

/-- A value as markup: markup as it is, anything else with its text escaped. -/
def escaped : Value → Except Fault String
  | .markup s => .ok s
  | v => v.str.map escape

/-- No operator between two values. -/
def mismatch (op : String) (v w : Value) : Except Fault Value :=
  .error (.misuse (.operands op v.kindName w.kindName))

/-- The double that a number counts as. -/
def toFloat : Number → Except Fault Float
  | .float x => .ok x
  | .int n =>
    match Decimal.ofInt? n with
    | some x => .ok x
    | none => .error (.overflow "int too large to convert to float")

/-- An operator on two doubles, one of which may come as an integer. -/
def onFloats (f : Float → Float → Except Fault Value) (a b : Number) : Except Fault Value := do
  let x ← toFloat a
  let y ← toFloat b
  f x y

/-- Refuses the undefined value on either side. -/
def definedBoth (v w : Value) : Except Fault Unit :=
  match v, w with
  | .undefined u, _ => refuse u
  | _, .undefined u => refuse u
  | _, _ => .ok ()

/-- Sum of numbers, joining of sequences. -/
def add (v w : Value) : Except Fault Value := do
  definedBoth v w
  match v, w with
  | .markup s, .markup t => return .markup (s ++ t)
  | .markup s, .text t => return .markup (s ++ escape t)
  | .text s, .markup t => return .markup (escape s ++ t)
  | .text s, .text t => return .text (s ++ t)
  | .text _, w => .error (.misuse (.joining "str" w.kindName))
  | .list xs, .list ys => return .list (xs ++ ys)
  | .list _, w => .error (.misuse (.joining "list" w.kindName))
  | .tuple xs, .tuple ys => return .tuple (xs ++ ys)
  | .tuple _, w => .error (.misuse (.joining "tuple" w.kindName))
  | v, w =>
    match v.number?, w.number? with
    | some (.int m), some (.int n) => return .int (m + n)
    | some a, some b => onFloats (fun x y => .ok (.float (x + y))) a b
    | _, _ => mismatch "+" v w

/-- Difference of numbers. -/
def sub (v w : Value) : Except Fault Value := do
  definedBoth v w
  match v.number?, w.number? with
  | some (.int m), some (.int n) => return .int (m - n)
  | some a, some b => onFloats (fun x y => .ok (.float (x - y))) a b
  | _, _ => mismatch "-" v w

/-- A list repeated; not at all for a count below one. -/
def repeated {α : Type} (xs : List α) (n : Int) : List α := (List.replicate n.toNat xs).flatten

/-- A text repeated. -/
def repeatedText (s : String) (n : Int) : String := String.ofList (repeated s.toList n)

/-- The whole number that a value counts as. -/
def whole? : Value → Option Int
  | .bool b => some (if b then 1 else 0)
  | .int n => some n
  | _ => none

/-- A sequence repeated, where the other operand may be anything. -/
def times (v : Value) (n : Int) : Value :=
  match v with
  | .text s => .text (repeatedText s n)
  | .markup s => .markup (repeatedText s n)
  | .list xs => .list (repeated xs n)
  | .tuple xs => .tuple (repeated xs n)
  | v => v

/-- Whether multiplying repeats the value. -/
def isSequence : Value → Bool
  | .text _ | .list _ | .tuple _ => true
  | _ => false

/-- Product of numbers, repetition of sequences. -/
def mul (v w : Value) : Except Fault Value := do
  definedBoth v w
  match v, w with
  | .markup _, w =>
    match w.whole? with
    | some n => return v.times n
    | none => .error (.misuse (.notWhole w.kindName))
  | v, .markup _ =>
    match v.whole? with
    | some n => return w.times n
    | none => .error (.misuse (.notWhole v.kindName))
  | v, w =>
    match v.number?, w.number? with
    | some (.int m), some (.int n) => return .int (m * n)
    | some a, some b => onFloats (fun x y => .ok (.float (x * y))) a b
    | _, _ =>
      if v.isSequence then
        match w.whole? with
        | some n => return v.times n
        | none => .error (.misuse (.repeating w.kindName))
      else if w.isSequence then
        match v.whole? with
        | some n => return w.times n
        | none => .error (.misuse (.repeating v.kindName))
      else mismatch "*" v w

/-- Exact quotient of integers, as the nearest double. -/
def quotient (m n : Int) : Except Fault Value :=
  if n = 0 then .error (.zeroDivision "division by zero")
  else
    match Decimal.ofRatio? (decide (m < 0) != decide (n < 0)) m.natAbs n.natAbs with
    | some x => .ok (.float x)
    | none => .error (.overflow "integer division result too large for a float")

/-- Quotient of numbers, a double. -/
def div (v w : Value) : Except Fault Value := do
  definedBoth v w
  match v.number?, w.number? with
  | some (.int m), some (.int n) => quotient m n
  | some a, some b =>
    onFloats (fun x y =>
      if y == 0.0 then .error (.zeroDivision "float division by zero")
      else .ok (.float (x / y))) a b
  | _, _ => mismatch "/" v w

/-- Quotient of numbers rounded down. -/
def floorDiv (v w : Value) : Except Fault Value := do
  definedBoth v w
  match v.number?, w.number? with
  | some (.int m), some (.int n) =>
    if n = 0 then .error (.zeroDivision "integer division or modulo by zero")
    else return .int (Int.fdiv m n)
  | some a, some b =>
    onFloats (fun x y =>
      if y == 0.0 then .error (.zeroDivision "float floor division by zero")
      else .ok (.float (Decimal.floorDiv x y))) a b
  | _, _ => mismatch "//" v w

/-- Remainder of numbers, with the sign of the divisor. -/
def numericMod (v w : Value) : Except Fault Value := do
  definedBoth v w
  match v.number?, w.number? with
  | some (.int m), some (.int n) =>
    if n = 0 then .error (.zeroDivision "integer modulo by zero")
    else return .int (Int.fmod m n)
  | some a, some b =>
    onFloats (fun x y =>
      if y == 0.0 then .error (.zeroDivision "float modulo")
      else .ok (.float (Decimal.floorMod x y))) a b
  | _, _ => mismatch "%" v w

/-- The number with the opposite sign. -/
def negate (v : Value) : Except Fault Value :=
  match v with
  | .undefined u => refuse u
  | .float x => .ok (.float (-x))
  | v =>
    match v.whole? with
    | some n => .ok (.int (-n))
    | none => .error (.misuse (.sign "-" v.kindName))

/-- The number itself. -/
def affirm (v : Value) : Except Fault Value :=
  match v with
  | .undefined u => refuse u
  | .float x => .ok (.float x)
  | v =>
    match v.whole? with
    | some n => .ok (.int n)
    | none => .error (.misuse (.sign "+" v.kindName))

end Value

end Stencil
