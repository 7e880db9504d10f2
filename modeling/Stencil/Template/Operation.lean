import Stencil.Template.Filter
import Stencil.Template.Syntax
import Stencil.Value.Format

/-!
# What the operators of templates do

The operators as functions of values, shared by the reading of constant
expressions when a template is compiled and by the evaluation when it is rendered.

## Main definitions

* `BinaryOp.apply`: Arithmetic.
* `Comparison.apply`: Comparisons.
* `joinMarkup`: Joining with escaping.
* `makeDict`: A mapping from its keys and values.
* `entriesInOrder`: The order in which they are computed.
-/

namespace Stencil

namespace Template

/-- Arithmetic on two values. -/
def BinaryOp.apply : BinaryOp → Value → Value → Except Fault Value
  | .add => Value.add
  | .sub => Value.sub
  | .mul => Value.mul
  | .div => Value.div
  | .floorDiv => Value.floorDiv
  | .mod => Value.mod

/-- A sign before a value. -/
def applySign (minus : Bool) (v : Value) : Except Fault Value :=
  if minus then v.negate else v.affirm

/-- A comparison of two values. -/
def Comparison.apply : Comparison → Value → Value → Except Fault Bool
  | .eq, v, w => Value.equal v w
  | .ne, v, w => (Value.equal v w).map (!·)
  | .order r, v, w => Value.ordered r v w
  | .mem, v, w => Value.member v w
  | .notMem, v, w => (Value.member v w).map (!·)

/-- Joining: if any piece is markup, the others are escaped and the whole is
    markup. -/
def joinMarkup (pieces : List Value) : Except Fault Value := do
  let texts ← pieces.mapM fun v => v.str.map fun s => (Filter.isMarkup v, s)
  if texts.any (·.1) then
    return .markup (String.join (texts.map fun t => if t.1 then t.2 else escape t.2))
  else return .text (String.join (texts.map (·.2)))

/-- Joining as plain text. -/
def joinPlain (pieces : List Value) : Except Fault Value := do
  return .text (String.join (← pieces.mapM Value.str))

/-- A mapping from keys and values; a repeated key keeps its place and takes the
    last value. -/
def makeDict (keys values : List Value) : Except Fault Value :=
  match keys.findSome? Value.keyFault? with
  | some f => .error f
  | none => .ok (.dict ((keys.zip values).foldl (fun es e => Value.putEntry e.1 e.2 es) []))

/-- The keys and values of a mapping, each key before its value, and each entry checked
    before the next one. -/
def entriesInOrder {m : Type → Type} [Monad m] (check : Value → m Unit) :
    List (m Value) → List (m Value) → m (List Value × List Value)
  | key :: keys, value :: values => do
    let k ← key
    let v ← value
    check k
    let (ks, vs) ← entriesInOrder check keys values
    return (k :: ks, v :: vs)
  | _, _ => return ([], [])

/-- The value of a choice without an alternative whose condition fails. -/
def noAlternative (line : Nat) (template : String) : Undefined :=
  ⟨"the inline if-expression on line " ++ toString line ++ " in " ++ Text.quoted template ++
    " evaluated to false and no else section was defined.", false⟩

end Template

end Stencil
