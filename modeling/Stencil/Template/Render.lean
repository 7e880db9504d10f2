import Stencil.Template.Eval

/-!
# Rendering templates

Rendering runs the statements of a template and puts their text together. The only
thing it asks of the outside is the template that an inclusion names; where that
comes from is a parameter, so rendering itself can be studied over any way of
loading templates.

An included template sees everything that is bound where it is included, as if it
were data. Inclusions may nest up to a fixed depth; a template that includes itself
without end is refused there.

## Main definitions

* `Program`: A compiled template and its name.
* `Renderer`: What rendering depends on.
* `Env`, `Place`: What is bound, and where a statement stands.
* `execute`: The text of statements.
* `render`: The text of a template.
-/

namespace Stencil

namespace Template

/-- A compiled template and its name. -/
structure Program where
  name : String
  body : List Stmt

/-- What rendering depends on: how templates are loaded, whether undefined values
    are strict, the functions that every template sees, the translations, and
    whether there is a filter that translates. -/
structure Renderer (m : Type → Type) where
  load : String → m Program
  strict : Bool
  globals : Bindings
  translations : Translations
  transFilter : Bool

/-- The names of a scope. A name without a value is unbound there and hides what
    the data binds it to. -/
abbrev Frame := List (String × Option Value)

/-- What is bound: the scopes, inner ones first, the data with what the outermost
    statements assign, and what the innermost loop assigned in its last round. -/
structure Env where
  frames : List Frame
  context : Bindings
  loopVars : Bindings

/-- What the innermost scope that knows a name says of it. -/
def findFrame (n : String) : List Frame → Option (Option Value)
  | [] => none
  | f :: fs =>
    match f.lookup n with
    | some x => some x
    | none => findFrame n fs

/-- What a name is bound to. -/
def Env.find (env : Env) (n : String) : Option Value :=
  match findFrame n env.frames with
  | some x => x
  | none => env.context.get? n

/-- What a name is bound to for those who do not see the scopes: inside a loop what
    it assigned, then the data. -/
def Env.findOuter (inLoop : Bool) (env : Env) (n : String) : Option Value :=
  (if inLoop then env.loopVars.get? n else none).or (env.context.get? n)

/-- Where a statement stands: in which template, directly in a loop's body or
    outermost, and which names the scopes around it mention. -/
structure Place where
  template : String
  inLoop : Bool
  outermost : Bool
  outer : List String

/-- What an expression sees at a place. -/
def scopeAt {m : Type → Type} (r : Renderer m) (p : Place) (env : Env) : Scope where
  strict := r.strict
  template := p.template
  find := env.find
  findOuter := env.findOuter p.inLoop
  translations := r.translations
  transFilter := r.transFilter

/-- Changes the innermost scope. -/
def Env.bindLocal (env : Env) (n : String) (v : Value) : Env :=
  match env.frames with
  | [] => { env with frames := [[(n, some v)]] }
  | f :: fs => { env with frames := ((n, some v) :: f.filter (·.1 != n)) :: fs }

/-- An assignment at a place. -/
def Env.assign (p : Place) (env : Env) (n : String) (v : Value) : Env :=
  let env := env.bindLocal n v
  -- Inside a loop the rest of the template does not see it.
  if p.inLoop then { env with loopVars := env.loopVars.set n v }
  else if p.outermost then { env with context := env.context.set n v }
  else env

/-- The items that a value gives to several names. -/
def unpack (v : Value) : Except Fault (List Value) :=
  match v.items with
  | .error (.misuse (.notIterable k)) => .error (.misuse (.notUnpackable k))
  | r => r

mutual

/-- The bindings that a target makes with a value. -/
def Target.bindings (v : Value) : Target → Except Fault Bindings
  | .name n => .ok [(n, v)]
  | .tuple ts => do
    let vs ← unpack v
    if ts.length < vs.length then .error (.refused (.surplusItems ts.length))
    else if vs.length < ts.length then .error (.refused (.missingItems ts.length vs.length))
    else bindingsOfAll vs ts

def bindingsOfAll (vs : List Value) : List Target → Except Fault Bindings
  | [] => .ok []
  | t :: ts =>
    match vs with
    | [] => .ok []
    | v :: vs => do return (← t.bindings v) ++ (← bindingsOfAll vs ts)

end

/-- The scope of a stretch of statements: its parameters, and the names that start
    unbound in it. -/
def enter (parameters : Bindings) (refs : Refs) : Frame :=
  parameters.map (fun e => (e.1, some e.2)) ++ (unboundNames refs).map (·, none)

/-- What a stretch of statements does with names, its parameters being assigned. -/
def refsOf (outer parameters : List String) (body : List Stmt) : Refs :=
  refsAll outer (parameters.map (·, ⟨false, true⟩)) body

/-- Everything bound by scopes, as data for an included template. -/
def Env.visible (env : Env) : Bindings :=
  let names := (env.frames.flatten.map (·.1)).eraseDups
  let locals := names.filterMap fun n =>
    match findFrame n env.frames with
    | some (some v) => some (n, v)
    | _ => none
  env.context.update locals

/-- Whether an item of a loop passes the condition of the loop. -/
def passes {m : Type → Type} (r : Renderer m) (p : Place) (env : Env) (target : Target)
    (test : Option Expr) (v : Value) : Except Fault Bool :=
  match test with
  | none => .ok true
  | some e => do
    let bound ← target.bindings v
    -- The condition sees the target, but nothing that the body assigns.
    let inside : Env := { env with frames := enter bound [] :: env.frames }
    let place : Place := { p with inLoop := false, outermost := false }
    (← evaluate (scopeAt r place inside) e).truth

section

variable {m : Type → Type} [Monad m] [MonadExcept Fault m]

/-- Raises the fault of a computation. -/
def lift {α : Type} : Except Fault α → m α
  | .ok a => pure a
  | .error f => throw f

/-- Loads an included template. If that is allowed, none stands for one that does
    not exist. -/
def loadIncluded (r : Renderer m) (ignoreMissing : Bool) (v : Value) : m (Option Program) :=
  match v with
  | .undefined u => lift (Value.refuse u)
  | v =>
    let name := v.shown
    -- Only a template that is missing is passed over, one that does not compile is not.
    if ignoreMissing then
      tryCatch (do return some (← r.load name)) fun f =>
        match f with
        | .includeMissing .. => return none
        | f => throw f
    else do return some (← r.load name)

mutual

/-- Runs a statement: its text, and what is bound after it. `nested` renders an
    included template. -/
def execute (r : Renderer m) (nested : Program → Bindings → m String) (p : Place) (env : Env) :
    Stmt → m (Env × String)
  | .text s => return (env, s)
  | .print e => do
    let v ← lift (evaluate (scopeAt r p env) e)
    return (env, ← lift v.escaped)
  | .branch test body orelse _ => do
    let v ← lift (evaluate (scopeAt r p env) test)
    if ← lift v.truth then executeAll r nested p env body
    else executeAll r nested p env orelse
  | .set target _ e => do
    let v ← lift (evaluate (scopeAt r p env) e)
    let bound ← lift (target.bindings v)
    return (bound.foldl (fun env b => env.assign p b.1 b.2) env, "")
  | .trans b => do return (env, ← lift (evaluateBlock (scopeAt r p env) b))
  | .include e ignoreMissing withContext => do
    let v ← lift (evaluate (scopeAt r p env) e)
    match ← loadIncluded r ignoreMissing v with
    | none => return (env, "")
    | some program =>
      let text ← nested program (if withContext then env.visible else r.globals)
      return (env, text)
  | .loop target _ iter test body orelse => do
    let v ← lift (evaluate (scopeAt r p env) iter)
    let items ← lift v.items
    let extended := usesLoop body
    -- The loop object is only made for a body that mentions it.
    let parameters := target.names ++ if extended then [loopName] else []
    let refs := refsOf p.outer parameters body
    let inside : Place :=
      { p with inLoop := true, outermost := false, outer := p.outer ++ refs.map (·.1) }
    -- How many items pass has to be known before the first round.
    let passing := items.filter fun x => Value.isTrue (passes r p env target test x)
    let round (state : Bindings × String × Nat) (x : Value) : m (Bindings × String × Nat) := do
      let (loopVars, text, index) := state
      if ← lift (passes r p env target test x) then
        let bound ← lift (target.bindings x)
        let bound := if extended then bound ++ [(loopName, .loop index passing.length)] else bound
        let start : Env := { env with frames := enter bound refs :: env.frames, loopVars := [] }
        let (after, more) ← executeAll r nested inside start body
        return (after.loopVars, text ++ more, index + 1)
      else return (loopVars, text, index)
    let (loopVars, text, rounds) ← items.foldlM round (env.loopVars, "", 0)
    -- No round was made, so the alternative runs in a scope of its own.
    if rounds = 0 then
      let refs := refsOf p.outer [] orelse
      let place : Place :=
        { p with inLoop := false, outermost := false, outer := p.outer ++ refs.map (·.1) }
      let start : Env := { env with frames := enter [] refs :: env.frames }
      let (after, more) ← executeAll r nested place start orelse
      return ({ env with loopVars := after.loopVars }, text ++ more)
    else return ({ env with loopVars }, text)

/-- Runs statements one after the other. -/
def executeAll (r : Renderer m) (nested : Program → Bindings → m String) (p : Place)
    (env : Env) : List Stmt → m (Env × String)
  | [] => return (env, "")
  | s :: ss => do
    let (env, text) ← execute r nested p env s
    let (env, more) ← executeAll r nested p env ss
    return (env, text ++ more)

end

/-- The text of a template, given how deep inclusions may still nest. -/
def renderAt (r : Renderer m) : Nat → Program → Bindings → m String
  | 0, _, _ => throw .tooDeep
  | depth + 1, program, context => do
    -- An included template starts with scopes of its own and sees the context only.
    let refs := refsOf [] [] program.body
    let place : Place := ⟨program.name, false, true, refs.map (·.1)⟩
    let (_, text) ←
      executeAll r (renderAt r depth) place ⟨[enter [] refs], context, []⟩ program.body
    return text

end

/-- How deep inclusions may nest. -/
def deepest : Nat := 150

/-- The text of a template over data. The data hides functions of the same name. -/
def render {m : Type → Type} [Monad m] [MonadExcept Fault m] (r : Renderer m)
    (program : Program) (data : Bindings) : m String :=
  renderAt r deepest program (r.globals.update data)

end Template

end Stencil
