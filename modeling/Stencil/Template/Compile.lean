import Stencil.Template.Operation
import Stencil.Template.Parser

/-!
# Compiling templates

Compiling reads a template, computes what is constant, and refuses what can be
seen to be wrong without any data.

Constant expressions are computed once. Joining constants gives plain text, and
the whole of it is escaped when it is printed; this is where compiling can be
noticed. The names in a constant expression count as mentioned, even though its value
does not depend on them. A constant that cannot be computed is left to fail when it
is rendered, except where the refusal of an undefined constant, or of a key that
cannot be one, comes up while the pieces of an expression are put together: then
compiling fails with it.

A filter or a test that does not exist is refused, unless it stands inside a
condition or behind one, where rendering may never reach it. Whether a filter
needs the state of the rendering is settled here and not looked up again.

## Main definitions

* `Settings`: What compiling depends on.
* `constant`: The value of a constant expression.
* `fold`: An expression with its constants computed.
* `prepare`: An expression folded and checked.
* `compile`: A compiled template.
-/

namespace Stencil

namespace Template

/-- What compiling depends on: whether undefined values are strict, the name of the
    template, and the tags and filters beyond the common ones. -/
structure Settings where
  strict : Bool
  template : String
  tags : Tags
deriving DecidableEq

/-- A constant, no constant, or the fault that comes up in the attempt. -/
inductive Constancy (α : Type) where
  | value (a : α)
  | varies
  | fails (f : Fault)

namespace Constancy

def bind {α β : Type} (c : Constancy α) (f : α → Constancy β) : Constancy β :=
  match c with
  | .value a => f a
  | .varies => .varies
  | .fails e => .fails e

instance : Monad Constancy where
  pure := .value
  bind := Constancy.bind

/-- A computation whose fault comes up. -/
def ofExcept {α : Type} : Except Fault α → Constancy α
  | .ok a => .value a
  | .error f => .fails f

/-- A constant whose fault is left for later. -/
def lenient {α : Type} : Constancy α → Constancy α
  | .fails _ => .varies
  | c => c

end Constancy

open Constancy

mutual

/-- The value of a constant expression. -/
def constant (s : Settings) : Expr → Constancy Value
  | .const v => return v
  | .name _ => .varies
  | .list items => return .list (← constants s items)
  | .tuple items => return .tuple (← constants s items)
  | .dict keys values => do
    -- A key is put in its place before the next entry is looked at.
    let entries ← entriesInOrder (fun k => ((Value.keyFault? k).map .fails).getD (.value ()))
      (constantEach s keys) (constantEach s values)
    ofExcept (makeDict entries.1 entries.2)
  -- What fails here may never be evaluated, so the fault waits until then.
  | .member e name => lenient do ofExcept (Value.memberNamed s.strict (← constant s e) name)
  | .item e index => lenient do
    ofExcept (Value.item s.strict (← constant s e) (← constant s index))
  | .call .. => .varies
  | .filter e name args keywords values _ _ => do
    if Filter.names.contains name then
      let args ← constants s args
      let values ← constants s values
      let v ← constant s e
      match Filter.run? s.strict name (v :: args) (keywords.zip values) with
      | some r => lenient (ofExcept r)
      | none => .varies
    else .varies
  | .test e name args keywords values _ => do
    if Test.names.contains name then
      let args ← constants s args
      let values ← constants s values
      let v ← constant s e
      match Test.run? name (v :: args) (keywords.zip values) with
      | some r => lenient (ofExcept r)
      | none => .varies
    else .varies
  | .sign minus e => lenient do ofExcept (applySign minus (← constant s e))
  | .not e => lenient do return .bool !(← ofExcept (← constant s e).truth)
  | .binary op l r => lenient do ofExcept (op.apply (← constant s l) (← constant s r))
  | .and l r => do
    let v ← constant s l
    if ← ofExcept v.truth then constant s r else return v
  | .or l r => do
    let v ← constant s l
    if ← ofExcept v.truth then return v else constant s r
  | .concat pieces => do ofExcept (joinPlain (← constants s pieces))
  | .compare e ops operands => lenient do
    return .bool (← constantChain s (← constant s e) ops operands)
  | .choose test yes no => do
    if ← ofExcept (← constant s test).truth then constant s yes else constant s no
  | .chooseSome test yes _ => do
    if ← ofExcept (← constant s test).truth then constant s yes else .varies

/-- A chain of comparisons, whose later operands matter only while it holds. -/
def constantChain (s : Settings) (v : Value) (ops : List Comparison) :
    List Expr → Constancy Bool
  | [] => return true
  | e :: es => do
    let w ← constant s e
    match ops with
    | [] => return true
    | op :: ops =>
      if ← ofExcept (op.apply v w) then constantChain s w ops es else return false

/-- The values of constant expressions. -/
def constants (s : Settings) : List Expr → Constancy (List Value)
  | [] => return []
  | e :: es => return (← constant s e) :: (← constants s es)

/-- The value of each expression that is constant. -/
def constantEach (s : Settings) : List Expr → List (Constancy Value)
  | [] => []
  | e :: es => constant s e :: constantEach s es

end

mutual

/-- Whether a value can stand in a compiled template. -/
def isLasting : Value → Bool
  | .null | .bool _ | .int _ | .float _ | .text _ | .markup _ => true
  | .list items => areLasting items
  | .tuple items => areLasting items
  | .dict entries => areLastingEntries entries
  | _ => false

def areLasting : List Value → Bool
  | [] => true
  | v :: vs => isLasting v && areLasting vs

def areLastingEntries : List (Value × Value) → Bool
  | [] => true
  | (k, v) :: es => isLasting k && isLasting v && areLastingEntries es

end

/-- A value in the place of a constant expression that mentioned some names. They stay
    mentioned, as an alternative that is never taken. -/
def settled (names : List String) (v : Value) : Expr :=
  if names.isEmpty then .const v
  else .choose (.const (.bool true)) (.const v) (.tuple (names.map .name))

/-- An expression replaced by its value if it is constant. -/
def foldOne (s : Settings) (e : Expr) : Except Fault Expr :=
  match constant s e with
  -- Only what can be written into a compiled template is put in place of the expression.
  | .value v => .ok (if isLasting v then settled e.names v else e)
  | .varies => .ok e
  | .fails f => .error f

mutual

/-- An expression with its constant parts computed, inner ones first. -/
def fold (s : Settings) : Expr → Except Fault Expr
  | .const v => .ok (.const v)
  | .name n => .ok (.name n)
  | .list items => do foldOne s (.list (← folds s items))
  | .tuple items => do foldOne s (.tuple (← folds s items))
  | .dict keys values => do foldOne s (.dict (← folds s keys) (← folds s values))
  | .member e name => do foldOne s (.member (← fold s e) name)
  | .item e index => do foldOne s (.item (← fold s e) (← fold s index))
  | .call f args keywords values => do
    return .call (← fold s f) (← folds s args) keywords (← folds s values)
  | .filter e name args keywords values line c => do
    foldOne s (.filter (← fold s e) name (← folds s args) keywords (← folds s values) line c)
  | .test e name args keywords values line => do
    foldOne s (.test (← fold s e) name (← folds s args) keywords (← folds s values) line)
  | .sign minus e => do foldOne s (.sign minus (← fold s e))
  | .not e => do foldOne s (.not (← fold s e))
  | .binary op l r => do foldOne s (.binary op (← fold s l) (← fold s r))
  | .and l r => do foldOne s (.and (← fold s l) (← fold s r))
  | .or l r => do foldOne s (.or (← fold s l) (← fold s r))
  | .concat pieces => do foldOne s (.concat (← folds s pieces))
  | .compare e ops operands => do foldOne s (.compare (← fold s e) ops (← folds s operands))
  | .choose test yes no => do foldOne s (.choose (← fold s test) (← fold s yes) (← fold s no))
  | .chooseSome test yes line => do
    foldOne s (.chooseSome (← fold s test) (← fold s yes) line)

/-- Expressions with their constant parts computed. -/
def folds (s : Settings) : List Expr → Except Fault (List Expr)
  | [] => .ok []
  | e :: es => do return (← fold s e) :: (← folds s es)

end

/-- Whether a filter is the one that needs the state of the rendering. -/
def isContextual (s : Settings) (name : String) : Bool :=
  s.tags.transFilter && name == Filter.transName

mutual

/-- Refuses unknown filters and tests, unless `soft`, and marks the filters that
    need the state of the rendering. -/
def check (s : Settings) (soft : Bool) : Expr → Except Fault Expr
  | .const v => .ok (.const v)
  | .name n => .ok (.name n)
  | .list items => do return .list (← checks s soft items)
  | .tuple items => do return .tuple (← checks s soft items)
  | .dict keys values => do return .dict (← checks s soft keys) (← checks s soft values)
  | .member e name => do return .member (← check s soft e) name
  | .item e index => do return .item (← check s soft e) (← check s soft index)
  | .call f args keywords values => do
    return .call (← check s soft f) (← checks s soft args) keywords (← checks s soft values)
  | .filter e name args keywords values line _ => do
    -- Behind a condition an unknown filter is a fault only once it is reached.
    if !soft && !Filter.names.contains name && !isContextual s name then
      throw (.markupSyntax line)
    let e ← check s soft e
    let args ← checks s soft args
    let values ← checks s soft values
    return .filter e name args keywords values line (isContextual s name)
  | .test e name args keywords values line => do
    if !soft && !Test.names.contains name then throw (.markupSyntax line)
    let e ← check s soft e
    let args ← checks s soft args
    let values ← checks s soft values
    return .test e name args keywords values line
  | .sign minus e => do return .sign minus (← check s soft e)
  | .not e => do return .not (← check s soft e)
  | .binary op l r => do return .binary op (← check s soft l) (← check s soft r)
  | .and l r => do return .and (← check s soft l) (← check s soft r)
  | .or l r => do return .or (← check s soft l) (← check s soft r)
  | .concat pieces => do return .concat (← checks s soft pieces)
  | .compare e ops operands => do
    return .compare (← check s soft e) ops (← checks s soft operands)
  | .choose test yes no => do
    -- The branch is visited before its condition, which decides the fault that is reported.
    let yes ← check s true yes
    let test ← check s true test
    return .choose test yes (← check s true no)
  | .chooseSome test yes line => do
    let yes ← check s true yes
    return .chooseSome (← check s true test) yes line

def checks (s : Settings) (soft : Bool) : List Expr → Except Fault (List Expr)
  | [] => .ok []
  | e :: es => do return (← check s soft e) :: (← checks s soft es)

end

mutual

/-- An expression folded and checked. Lists, tuples and mappings are no computation
    of their own: their items are taken one after the other. -/
def prepare (s : Settings) (soft : Bool) : Expr → Except Fault Expr
  | .const v => .ok (.const v)
  | .name n => .ok (.name n)
  | .list items => do return .list (← prepares s soft items)
  | .tuple items => do return .tuple (← prepares s soft items)
  | .dict keys values => do return .dict (← prepares s soft keys) (← prepares s soft values)
  | e => do check s soft (← fold s e)

def prepares (s : Settings) (soft : Bool) : List Expr → Except Fault (List Expr)
  | [] => .ok []
  | e :: es => do return (← prepare s soft e) :: (← prepares s soft es)

end

/-- The output of a text that took the place of an expression that mentioned some
    names. -/
def settledOutput (names : List String) (text : String) : Stmt :=
  if names.isEmpty then .text text else .print (settled names (.markup text))

/-- An output: its text if it is constant, else the expression. -/
def prepareOutput (s : Settings) (soft : Bool) (e : Expr) : Except Fault Stmt :=
  match constant s e with
  | .value v =>
    match v.escaped with
    | .ok text => .ok (settledOutput e.names text)
    | .error _ => do return .print (← prepare s soft e)
  | _ => do return .print (← prepare s soft e)

/-- The name of the loop object, which no loop may bind. -/
def loopName : String := "loop"

mutual

/-- The line at which a statement inside a loop binds the name of the loop object. -/
def bindsLoop? : Stmt → Option Nat
  | .loop target line _ _ body orelse =>
    if target.names.contains loopName then some line
    else (bindLoop? body).or (bindLoop? orelse)
  | .set target line _ => if target.names.contains loopName then some line else none
  | .branch _ body orelse _ => (bindLoop? body).or (bindLoop? orelse)
  | _ => none

def bindLoop? : List Stmt → Option Nat
  | [] => none
  | st :: rest => (bindsLoop? st).or (bindLoop? rest)

end

/-- A condition that may be absent, folded and checked. -/
def prepareTest (s : Settings) : Option Expr → Except Fault (Option Expr)
  | none => .ok none
  | some e => do return some (← prepare s false e)

/-- The expressions of a translatable block: all folded first, then checked. -/
def prepareBlock (s : Settings) (soft : Bool) (b : TransBlock) : Except Fault TransBlock := do
  let count ← b.count.mapM (fold s)
  let values ← folds s b.values
  let count ← count.mapM (check s soft)
  return { b with count, values := ← checks s soft values }

mutual

/-- A statement with its expressions folded and checked. `soft` says that it stands
    behind a condition. -/
def compileOne (s : Settings) (soft : Bool) : Stmt → Except Fault Stmt
  | .text t => .ok (.text t)
  | .print e => prepareOutput s soft e
  | .branch test body orelse chained => do
    let test ← prepare s true test
    let body ← compileAll s true body
    return .branch test body (← compileAll s true orelse) chained
  | .loop target line iter test body orelse => do
    let test ← prepareTest s test
    -- The test comes first, so its fault is reported before that of the target.
    match bindsLoop? (.loop target line iter test body orelse) with
    | some line => throw (.markupSyntax line)
    | none =>
      let iter ← prepare s soft iter
      let body ← compileAll s false body
      return .loop target line iter test body (← compileAll s false orelse)
  | .set target line e => do return .set target line (← prepare s soft e)
  | .include e ignoreMissing withContext => do
    return .include (← prepare s soft e) ignoreMissing withContext
  | .trans b => do return .trans (← prepareBlock s soft b)

/-- Statements with their expressions folded and checked. -/
def compileAll (s : Settings) (soft : Bool) : List Stmt → Except Fault (List Stmt)
  | [] => .ok []
  | st :: rest => do return (← compileOne s soft st) :: (← compileAll s soft rest)

end

/-- A compiled template: its statements, or why it cannot be compiled. -/
def compile (s : Settings) (text : List Char) : Except Fault (List Stmt) :=
  match parse s.tags text with
  | .ok body => compileAll s false body
  | .error line => .error (.markupSyntax line)

end Template

end Stencil
