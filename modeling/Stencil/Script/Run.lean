import Stencil.Helper
import Stencil.Value.Format

/-!
# Running scripts

A script runs statement by statement on its own variables and an output that only
grows. The data that it reads is a snapshot, taken before its first statement; the
helpers that it calls act on the live scene.

What a script does before a fault stays done, and a handler for the fault goes on
from there with the text of the fault in a variable.

## Main definitions

* `Setting`: What a script is given.
* `State`, `Run`: Its variables and output on top of the scene.
* `evaluate`: The value of an expression.
* `execute`: Running statements.
* `run`: The output of a script.

## Theorems

* `write_output`: Writing adds to the end of the output.
* `perform_ofPlay`: An action on the scene leaves variables and output alone.
-/

namespace Stencil

namespace Script

/-- How a helper is called: the class of the callable that passes the arguments on,
    the name of the helper, and the arguments. -/
abbrev Caller := String → Value → List Value → List (String × Value) → Play Value

/-- What a script is given: its path, the data as it was at the start, and how
    helpers are called. -/
structure Setting where
  path : String
  data : Bindings
  call : Caller

/-- The scene, the variables and the output so far. -/
structure State where
  scene : Scene
  vars : Bindings
  output : String

/-- A step of a script. -/
abbrev Run (α : Type) := Stateful State α

namespace Run

/-- An action on the scene of a script. -/
def ofPlay {α : Type} (p : Play α) : Run α := fun s =>
  let (r, scene) := p.perform s.scene
  (r, { s with scene })

/-- Raises the fault of a computation. -/
def ofExcept {α : Type} : Except Fault α → Run α
  | .ok a => pure a
  | .error f => throw f

/-- Adds to the output. -/
def write (text : String) : Run Unit := modify fun s => { s with output := s.output ++ text }

theorem write_output (text : String) (s : State) :
    ((write text).perform s).2.output = s.output ++ text := rfl

@[simp] theorem perform_ofPlay {α : Type} (p : Play α) (s : State) :
    (ofPlay p).perform s = ((p.perform s.scene).1, { s with scene := (p.perform s.scene).2 }) := rfl

@[simp] theorem perform_ofExcept {α : Type} (x : Except Fault α) (s : State) :
    (ofExcept x).perform s = (x, s) := by cases x <;> rfl

end Run

/-- What the name of the module is for a script. -/
def moduleName : String := "__template__"

/-- The variable that holds the text of a caught fault. -/
def errorVariable : String := "error_text"

/-- The value of a key in the data. A key that is no text is in no data, and one
    that cannot be a key at all is refused. -/
def dataEntry (s : Setting) (k : Value) : Except Fault (Option Value) :=
  match Value.keyFault? k with
  | some f => .error f
  | none => .ok (k.text?.bind s.data.get?)

/-- The two-sided operators. -/
def Operator.apply : Operator → Value → Value → Except Fault Value
  | .add, v, w => Value.add v w
  | .sub, v, w => Value.sub v w
  | .mul, v, w => Value.mul v w
  | .floorDiv, v, w => Value.floorDiv v w
  | .mod, v, w => Value.mod v w
  | .eq, v, w => (Value.equal v w).map .bool
  | .lt, v, w => (Value.ordered .lt v w).map .bool

/-- Calls a helper found on the call proxy. -/
def callProxy (call : Caller) (name : String) (args : List Value)
    (keywords : List (String × Value)) : Play Value :=
  if Registry.proxyOwn.contains name then
    throw (.misuse (.notCallable (if name = "_registry" then "HelperRegistry" else "str")))
  else call "HelperRegistry" (.text name) args keywords

mutual

/-- The value of an expression. -/
def evaluate (s : Setting) : Expr → Run Value
  | .lit v => return v
  | .var n => do
    match (← get).vars.get? n with
    | some v => return v
    | none => throw (.unbound n)
  | .get k => do return (← Run.ofExcept (dataEntry s (← evaluate s k))).getD .null
  | .getOr k d => do
    let k ← evaluate s k
    let d ← evaluate s d
    return (← Run.ofExcept (dataEntry s k)).getD d
  | .item k => do
    let k ← evaluate s k
    match ← Run.ofExcept (dataEntry s k) with
    | some v => return v
    | none => throw (.missingKey k)
  | .has k => do return .bool (← Run.ofExcept (dataEntry s (← evaluate s k))).isSome
  | .keys => return .list (s.data.keys.map Value.text)
  | .call route name args keywords values => do
    match route with
    | .invoke => do
      let args ← evaluateAll s args
      let values ← evaluateAll s values
      Run.ofPlay (s.call "ScriptContext" (.text name) args (keywords.zip values))
    | _ => do
      -- The proxy is asked for the name before any argument has a value.
      if Registry.proxyHas (← get).scene.helpers name then
        let args ← evaluateAll s args
        let values ← evaluateAll s values
        Run.ofPlay (callProxy s.call name args (keywords.zip values))
      else throw (.unknownHelper name)
  | .hasHelper name => do return .bool (Registry.proxyHas (← get).scene.helpers name)
  | .helperNames => do return .list ((← get).scene.helpers.names.map Value.text)
  | .helperCount => do return .int (← get).scene.helpers.length
  | .path => return .text s.path
  | .moduleName => return .text moduleName
  | .str e => do return .text (← Run.ofExcept (← evaluate s e).str)
  | .len e => do return .int (← Run.ofExcept (← evaluate s e).length)
  | .operate op l r => do
    let v ← evaluate s l
    let w ← evaluate s r
    Run.ofExcept (op.apply v w)
  | .and l r => do
    let v ← evaluate s l
    if ← Run.ofExcept v.truth then evaluate s r else return v
  | .or l r => do
    let v ← evaluate s l
    if ← Run.ofExcept v.truth then return v else evaluate s r

/-- The values of expressions, from left to right. -/
def evaluateAll (s : Setting) : List Expr → Run (List Value)
  | [] => return []
  | e :: es => do
    let v ← evaluate s e
    return v :: (← evaluateAll s es)

end

/-- The text between or after printed values. Null stands for the usual one. -/
def separator (name usual : String) (v : Value) : Except Fault String :=
  match v with
  | .null => .ok usual
  | v =>
    match v.text? with
    | some s => .ok s
    | none => .error (.misuse (.separator name v.kindName))

/-- The texts of values, written one after the other. -/
def writeAll : List Value → Run Unit
  | [] => return ()
  | v :: vs => do
    -- What was written before a value without a text stays written.
    Run.write (← Run.ofExcept v.str)
    writeAll vs

/-- The texts of values with a separator between them, and an ending. -/
def printAll (sep ending : String) (vs : List Value) : Run Unit :=
  match vs with
  | [] => Run.write ending
  | v :: vs => do
    Run.write (← Run.ofExcept v.str)
    vs.forM fun v => do
      Run.write sep
      Run.write (← Run.ofExcept v.str)
    Run.write ending

/-- Sets a variable. -/
def assign (name : String) (v : Value) : Run Unit :=
  modify fun s => { s with vars := s.vars.set name v }

mutual

/-- Runs a statement. -/
def execute (s : Setting) : Stmt → Run Unit
  | .write es => do writeAll (← evaluateAll s es)
  | .print es sep ending => do
    let vs ← evaluateAll s es
    let sep ← evaluate s sep
    let ending ← evaluate s ending
    let sep ← Run.ofExcept (separator "sep" " " sep)
    let ending ← Run.ofExcept (separator "end" "\n" ending)
    printAll sep ending vs
  | .eval e => do
    let _ ← evaluate s e
    return ()
  | .assign n e => do assign n (← evaluate s e)
  | .branch test body orelse => do
    let v ← evaluate s test
    if ← Run.ofExcept v.truth then executeAll s body else executeAll s orelse
  | .loop n iter body => do
    let v ← evaluate s iter
    let items ← Run.ofExcept v.items
    items.forM fun x => do
      assign n x
      executeAll s body
  | .handle body kind handler =>
    tryCatch (executeAll s body) fun f => do
      -- A fault of another kind goes on, and the variable is left alone.
      if f.isA kind then
        assign errorVariable (.text f.message)
        executeAll s handler
      else throw f
  | .raise kind es => do
    let args ← evaluateAll s es
    throw (.raised kind args)
  | .addConstant n e => do
    let v ← evaluate s e
    Run.ofPlay (Registry.add n (.const v))
  | .removeHelper n => Run.ofPlay (Registry.remove n)

/-- Runs statements one after the other. -/
def executeAll (s : Setting) : List Stmt → Run Unit
  | [] => return ()
  | st :: rest => do
    execute s st
    executeAll s rest

end

/-- The output of a script. If it fails there is none, but what it did to the scene
    stays done. -/
def run (s : Setting) (p : Program) : Play String := fun scene =>
  match (executeAll s p).perform ⟨scene, [], ""⟩ with
  | (.ok (), s) => (.ok s.output, s.scene)
  | (.error f, s) => (.error f, s.scene)

end Script

end Stencil
