import Stencil.Script.Run

/-!
# What scripts do to their scene

A script reads its helpers and computes for itself, but there are only three things by
which it changes the scene around it: it calls helpers, adds some and removes some. These
are its deeds. Which ones there are, and in which order, is read off the script: the deeds
of its parts, one after the other, as far as it gets.

The scene after a script is the scene before it with the deeds done, whatever becomes of
the script. And the deeds are also all by which the scene acts on the script. So if each of
them has the same result when helpers are called in another way, then the script does the
same with the other way: same variables, same output, same end.

## Main definitions

* `Deed`, `Deed.play`: Something done to a scene, and doing it.
* `expressionDeeds`, `statementDeeds`: What expressions and statements do, in order.
* `doneAll`: The scene after deeds.
* `Alike`: Deeds have the same results in two ways of calling helpers.
* `Follow`: Two actions that do the same as long as their deeds have the same results.

## Theorems

* `Follow.bind`, `Follow.tryCatch`: The deeds of actions that are put together.
* `follow_evaluate`, `follow_execute`: Scripts have the deeds that are read off them.
* `run_alike`: A script does the same in two ways of calling helpers that are alike.
* `run_perform`: The scene after a script is the one before with its deeds done.
-/

namespace Stencil

namespace Script

/-- Something that a script does to its scene. -/
inductive Deed where
  | call (route : Route) (name : String) (args : List Value) (keywords : List (String × Value))
  | add (name : String) (v : Value)
  | remove (name : String)

/-- Doing it, given how helpers are called. Only calls have a value. -/
def Deed.play (call : Caller) : Deed → Play Value
  | .call .invoke name args keywords => call "ScriptContext" (.text name) args keywords
  | .call _ name args keywords => callProxy call name args keywords
  | .add name v => do
    Registry.add name (.const v)
    return .null
  | .remove name => do
    Registry.remove name
    return .null

/-- The scene after a deed. -/
def Deed.done (call : Caller) (d : Deed) (s : Scene) : Scene := ((d.play call).perform s).2

/-- The scene after deeds. -/
def doneAll (call : Caller) (ds : List Deed) (s : Scene) : Scene :=
  ds.foldl (fun s d => d.done call s) s

/-- What is done from a state on. -/
abbrev Deeds := State → List Deed

namespace Deeds

/-- Nothing. -/
def idle : Deeds := fun _ => []

/-- What an action does, and then what is done with its value. -/
def andThen {α : Type} (ds : Deeds) (a : Run α) (next : α → Deeds) : Deeds := fun t =>
  ds t ++
    match a.perform t with
    | (.ok x, t') => next x t'
    | (.error _, _) => []

/-- What an action does, and then what is done about its fault. -/
def orElse {α : Type} (ds : Deeds) (a : Run α) (handler : Fault → Deeds) : Deeds := fun t =>
  ds t ++
    match a.perform t with
    | (.ok _, _) => []
    | (.error f, t') => handler f t'

/-- What is done with the result of a computation. -/
def given {α : Type} (x : Except Fault α) (next : α → Deeds) : Deeds :=
  match x with
  | .ok x => next x
  | .error _ => idle

/-- What is done with a helper that is looked for on the proxy first. -/
def looking (route : Route) (name : String) (ds : Deeds) : Deeds := fun t =>
  (if route = .invoke ∨ Registry.proxyHas t.scene.helpers name then ds else idle) t

end Deeds

open Deeds

mutual

/-- What an expression does. -/
def expressionDeeds (s : Setting) : Expr → Deeds
  | .get k | .item k | .has k | .str k | .len k => expressionDeeds s k
  | .getOr l r | .operate _ l r =>
    (expressionDeeds s l).andThen (evaluate s l) fun _ => expressionDeeds s r
  | .and l r =>
    (expressionDeeds s l).andThen (evaluate s l) fun v =>
      given v.truth fun b => if b then expressionDeeds s r else idle
  | .or l r =>
    (expressionDeeds s l).andThen (evaluate s l) fun v =>
      given v.truth fun b => if b then idle else expressionDeeds s r
  | .call route name args keywords values =>
    looking route name <|
      (expressionsDeeds s args).andThen (evaluateAll s args) fun vs =>
        (expressionsDeeds s values).andThen (evaluateAll s values) fun ws _ =>
          [.call route name vs (keywords.zip ws)]
  | .lit _ | .var _ | .keys | .hasHelper _ | .helperNames | .helperCount | .path
  | .moduleName => idle

/-- What expressions do, from left to right. -/
def expressionsDeeds (s : Setting) : List Expr → Deeds
  | [] => idle
  | e :: es => (expressionDeeds s e).andThen (evaluate s e) fun _ => expressionsDeeds s es

end

/-- What the rounds of a loop do, given its body and what that does. -/
def roundsDeeds (name : String) (body : Run Unit) (ds : Deeds) : List Value → Deeds
  | [] => idle
  | x :: xs =>
    (idle.andThen (assign name x) fun _ => ds).andThen (do assign name x; body) fun _ =>
      roundsDeeds name body ds xs

mutual

/-- What a statement does. -/
def statementDeeds (s : Setting) : Stmt → Deeds
  | .write es | .raise _ es => expressionsDeeds s es
  | .print es sep ending =>
    (expressionsDeeds s es).andThen (evaluateAll s es) fun _ =>
      (expressionDeeds s sep).andThen (evaluate s sep) fun _ => expressionDeeds s ending
  | .eval e | .assign _ e => expressionDeeds s e
  | .branch test body orelse =>
    (expressionDeeds s test).andThen (evaluate s test) fun v =>
      given v.truth fun b => if b then bodyDeeds s body else bodyDeeds s orelse
  | .loop name iter body =>
    (expressionDeeds s iter).andThen (evaluate s iter) fun v =>
      given v.items (roundsDeeds name (executeAll s body) (bodyDeeds s body))
  | .handle body kind handler =>
    (bodyDeeds s body).orElse (executeAll s body) fun f =>
      if f.isA kind then
        idle.andThen (assign errorVariable (.text f.message)) fun _ => bodyDeeds s handler
      else idle
  | .addConstant name e =>
    (expressionDeeds s e).andThen (evaluate s e) fun v _ => [.add name v]
  | .removeHelper name => fun _ => [.remove name]

/-- What statements do, one after the other. -/
def bodyDeeds (s : Setting) : List Stmt → Deeds
  | [] => idle
  | st :: rest => (statementDeeds s st).andThen (execute s st) fun _ => bodyDeeds s rest

end

/-- Deeds have the same results in two ways of calling helpers, each from a scene of its
    own, and the helpers are the same all the while. -/
def Alike (c c' : Caller) : List Deed → Scene → Scene → Prop
  | [], s, s' => s.helpers = s'.helpers
  | d :: ds, s, s' =>
    s.helpers = s'.helpers ∧ ((d.play c).perform s).1 = ((d.play c').perform s').1 ∧
      Alike c c' ds (d.done c s) (d.done c' s')

variable {c c' : Caller} {s s' : Scene} {α β : Type}

theorem doneAll_append (ds es : List Deed) :
    doneAll c (ds ++ es) s = doneAll c es (doneAll c ds s) := List.foldl_append

theorem Alike.helpers {ds : List Deed} (h : Alike c c' ds s s') : s.helpers = s'.helpers := by
  cases ds with
  | nil => exact h
  | cons d ds => exact h.1

theorem Alike.refl (ds : List Deed) : Alike c c ds s s := by
  induction ds generalizing s with
  | nil => rfl
  | cons d ds ih => exact ⟨rfl, rfl, ih⟩

theorem alike_append {ds es : List Deed} :
    Alike c c' (ds ++ es) s s' ↔
      Alike c c' ds s s' ∧ Alike c c' es (doneAll c ds s) (doneAll c' ds s') := by
  induction ds generalizing s s' with
  | nil => exact ⟨fun h => ⟨h.helpers, h⟩, fun h => h.2⟩
  | cons d ds ih =>
      rw [List.cons_append, Alike, Alike, ih]
      simp only [and_assoc]
      rfl

namespace Deeds

variable {ds : Deeds} {a : Run α} {t t' : State}

theorem andThen_ok {x : α} (h : a.perform t = (.ok x, t')) (next : α → Deeds) :
    ds.andThen a next t = ds t ++ next x t' := by
  rw [andThen, h]

theorem andThen_error {f : Fault} (h : a.perform t = (.error f, t')) (next : α → Deeds) :
    ds.andThen a next t = ds t := by
  rw [andThen, h, List.append_nil]

theorem andThen_idle (ds : Deeds) (a : Run α) : ds.andThen a (fun _ => idle) = ds := by
  funext t
  rcases h : a.perform t with ⟨f | x, t'⟩
  · rw [andThen_error h]
  · rw [andThen_ok h, idle, List.append_nil]

theorem looking_invoke (name : String) (ds : Deeds) : looking .invoke name ds = ds := by
  funext t
  simp only [looking, true_or, if_true]

theorem looking_proxy {route : Route} (h : route ≠ .invoke) (name : String) (ds : Deeds) :
    looking route name ds = fun t =>
      (if Registry.proxyHas t.scene.helpers name then ds else idle) t := by
  funext t
  simp only [looking, h, false_or]

theorem orElse_ok {x : α} (h : a.perform t = (.ok x, t')) (handler : Fault → Deeds) :
    ds.orElse a handler t = ds t := by
  rw [orElse, h, List.append_nil]

theorem orElse_error {f : Fault} (h : a.perform t = (.error f, t')) (handler : Fault → Deeds) :
    ds.orElse a handler t = ds t ++ handler f t' := by
  rw [orElse, h]

end Deeds

/-- Two actions that have the same deeds and, as long as these have the same results, do
    the same otherwise. The scenes that they act on need not be the same. -/
def Follow (c c' : Caller) (a a' : Run α) (ds : Deeds) : Prop :=
  ∀ s s' vars output, Alike c c' (ds ⟨s, vars, output⟩) s s' →
    ∃ r vars' output',
      a.perform ⟨s, vars, output⟩ =
        (r, ⟨doneAll c (ds ⟨s, vars, output⟩) s, vars', output'⟩) ∧
      a'.perform ⟨s', vars, output⟩ =
        (r, ⟨doneAll c' (ds ⟨s, vars, output⟩) s', vars', output'⟩)

namespace Follow

theorem pure (x : α) : Follow c c' (Pure.pure x) (Pure.pure x) idle :=
  fun _ _ vars output _ => ⟨.ok x, vars, output, rfl, rfl⟩

theorem throw (f : Fault) :
    Follow c c' (MonadExcept.throw f : Run α) (MonadExcept.throw f) idle :=
  fun _ _ vars output _ => ⟨.error f, vars, output, rfl, rfl⟩

theorem ofExcept (x : Except Fault α) : Follow c c' (Run.ofExcept x) (Run.ofExcept x) idle := by
  cases x with
  | error f => exact throw f
  | ok x => exact pure x

theorem write (text : String) : Follow c c' (Run.write text) (Run.write text) idle :=
  fun _ _ vars output _ => ⟨.ok (), vars, output ++ text, rfl, rfl⟩

theorem assign (name : String) (v : Value) :
    Follow c c' (Script.assign name v) (Script.assign name v) idle :=
  fun _ _ vars output _ => ⟨.ok (), vars.set name v, output, rfl, rfl⟩

/-- A deed is done in each way. -/
theorem deed (d : Deed) :
    Follow c c' (Run.ofPlay (d.play c)) (Run.ofPlay (d.play c')) fun _ => [d] := by
  rintro s s' vars output ⟨-, hresult, -⟩
  refine ⟨((d.play c).perform s).1, vars, output, rfl, ?_⟩
  rw [hresult]
  rfl

/-- So is a change of the helpers, which has no value. -/
theorem change {p : Play Unit} (d : Deed) (hd : ∀ c, d.play c = do p; return .null) :
    Follow c c' (Run.ofPlay p) (Run.ofPlay p) fun _ => [d] := by
  have hplay : ∀ c s, (d.play c).perform s =
      ((p.perform s).1.map fun _ => Value.null, (p.perform s).2) := by
    intro c s
    rw [hd, Stateful.perform_bind]
    rcases p.perform s with ⟨f | -, t⟩ <;> rfl
  rintro s s' vars output ⟨-, hresult, -⟩
  -- Deeds with the same result come from changes with the same result.
  have hsame : (p.perform s).1 = (p.perform s').1 := by
    rw [hplay, hplay] at hresult
    revert hresult
    rcases (p.perform s).1 with f | ⟨⟩
    · rcases (p.perform s').1 with f' | ⟨⟩
      · exact fun h => congrArg Except.error (Except.error.inj h)
      · exact nofun
    · rcases (p.perform s').1 with f' | ⟨⟩
      · exact nofun
      · exact fun _ => rfl
  refine ⟨(p.perform s).1, vars, output, ?_, ?_⟩
  · rw [doneAll, List.foldl_cons, List.foldl_nil, Deed.done, hplay, Run.perform_ofPlay]
  · rw [doneAll, List.foldl_cons, List.foldl_nil, Deed.done, hplay, Run.perform_ofPlay, hsame]

/-- An action may look at its state first. The helpers and the variables that it finds are
    the same in both ways. -/
theorem reading {k k' : State → Run α} (ds : State → Deeds)
    (h : ∀ s s' vars output, s.helpers = s'.helpers →
      Follow c c' (k ⟨s, vars, output⟩) (k' ⟨s', vars, output⟩) (ds ⟨s, vars, output⟩)) :
    Follow c c' (get >>= k) (get >>= k') fun t => ds t t := by
  intro s s' vars output halike
  rw [Stateful.perform_bind_ok (Stateful.perform_get _),
    Stateful.perform_bind_ok (Stateful.perform_get _)]
  exact h s s' vars output halike.helpers s s' vars output halike

theorem bind {a a' : Run α} {f f' : α → Run β} {ds : Deeds} {next : α → Deeds}
    (ha : Follow c c' a a' ds) (hf : ∀ x, Follow c c' (f x) (f' x) (next x)) :
    Follow c c' (a >>= f) (a' >>= f') (ds.andThen a next) := by
  intro s s' vars output h
  rcases ha s s' vars output (alike_append.mp h).1 with ⟨r, vars₁, output₁, hrun, hrun'⟩
  cases r with
  | error e =>
      rw [andThen_error hrun] at h ⊢
      exact ⟨_, _, _, Stateful.perform_bind_error hrun f, Stateful.perform_bind_error hrun' f'⟩
  | ok x =>
      rw [andThen_ok hrun] at h ⊢
      -- The second action goes on in the scenes that the deeds of the first have led to.
      rcases hf x _ _ vars₁ output₁ (alike_append.mp h).2 with ⟨r, vars₂, output₂, hnext, hnext'⟩
      refine ⟨r, vars₂, output₂, ?_, ?_⟩
      · rw [Stateful.perform_bind_ok hrun, hnext, doneAll_append]
      · rw [Stateful.perform_bind_ok hrun', hnext', doneAll_append]

theorem tryCatch {a a' : Run α} {f f' : Fault → Run α} {ds : Deeds} {handler : Fault → Deeds}
    (ha : Follow c c' a a' ds) (hf : ∀ x, Follow c c' (f x) (f' x) (handler x)) :
    Follow c c' (MonadExcept.tryCatch a f) (MonadExcept.tryCatch a' f')
      (ds.orElse a handler) := by
  intro s s' vars output h
  rcases ha s s' vars output (alike_append.mp h).1 with ⟨r, vars₁, output₁, hrun, hrun'⟩
  cases r with
  | ok x =>
      rw [orElse_ok hrun] at h ⊢
      refine ⟨.ok x, vars₁, output₁, ?_, ?_⟩
      · rw [Stateful.perform_tryCatch, hrun]
      · rw [Stateful.perform_tryCatch, hrun']
  | error e =>
      rw [orElse_error hrun] at h ⊢
      rcases hf e _ _ vars₁ output₁ (alike_append.mp h).2 with ⟨r, vars₂, output₂, hnext, hnext'⟩
      refine ⟨r, vars₂, output₂, ?_, ?_⟩
      · rw [Stateful.perform_tryCatch, hrun, doneAll_append]
        exact hnext
      · rw [Stateful.perform_tryCatch, hrun', doneAll_append]
        exact hnext'

/-- What follows without deeds adds none. -/
theorem then_idle {a a' : Run α} {f f' : α → Run β} {ds : Deeds} (ha : Follow c c' a a' ds)
    (hf : ∀ x, Follow c c' (f x) (f' x) idle) : Follow c c' (a >>= f) (a' >>= f') ds := by
  have h := ha.bind hf
  rwa [andThen_idle] at h

/-- What depends on the result of a computation has deeds only if there is one. -/
theorem given {x : Except Fault α} {f f' : α → Run β} {next : α → Deeds}
    (hf : ∀ y, Follow c c' (f y) (f' y) (next y)) :
    Follow c c' (Run.ofExcept x >>= f) (Run.ofExcept x >>= f') (given x next) := by
  cases x with
  | error f => exact throw f
  | ok y => exact hf y

end Follow

theorem follow_writeAll (vs : List Value) :
    Follow c c' (writeAll vs) (writeAll vs) idle := by
  induction vs with
  | nil => exact .pure ()
  | cons v vs ih =>
      rw [writeAll]
      exact .then_idle (.ofExcept _) fun text => .then_idle (.write text) fun _ => ih

theorem follow_printAll (sep ending : String) (vs : List Value) :
    Follow c c' (printAll sep ending vs) (printAll sep ending vs) idle := by
  cases vs with
  | nil => exact .write ending
  | cons v vs =>
      -- What comes after the first value, each with the separator before it.
      have hrest : Follow c c' (vs.forM fun v => do
          Run.write sep
          Run.write (← Run.ofExcept v.str)) (vs.forM fun v => do
          Run.write sep
          Run.write (← Run.ofExcept v.str)) idle := by
        induction vs with
        | nil => exact .pure ()
        | cons w ws ih =>
            rw [List.forM_eq_forM, List.forM_cons]
            exact .then_idle (.then_idle (.write sep) fun _ =>
              .then_idle (.ofExcept _) fun text => .write text) fun _ => ih
      rw [printAll]
      exact .then_idle (.ofExcept _) fun text => .then_idle (.write text) fun _ =>
        .then_idle hrest fun _ => .write ending

theorem follow_rounds {body body' : Run Unit} {ds : Deeds} (h : Follow c c' body body' ds)
    (name : String) (items : List Value) :
    Follow c c' (items.forM fun x => do assign name x; body)
      (items.forM fun x => do assign name x; body') (roundsDeeds name body ds items) := by
  induction items with
  | nil => exact .pure ()
  | cons x xs ih =>
      simp only [List.forM_eq_forM, List.forM_cons, roundsDeeds]
      exact .bind (.bind (.assign name x) fun _ => h) fun _ => ih

/-- The same for a script, but with another way of calling helpers. -/
def Setting.calling (S : Setting) (c' : Caller) : Setting := { S with call := c' }

variable (S : Setting) (c' : Caller)

mutual

theorem follow_evaluate (e : Expr) :
    Follow S.call c' (evaluate S e) (evaluate (S.calling c') e) (expressionDeeds S e) := by
  -- Only a call has deeds of its own. Every other expression has those of its parts, in the order
  -- in which they are evaluated, and none behind the last part.
  match e with
  | .lit v =>
      simp only [evaluate, expressionDeeds]
      exact .pure v
  | .var n =>
      simp only [evaluate, expressionDeeds]
      refine .reading (fun _ => idle) fun _ _ vars _ _ => ?_
      simp only
      cases vars.get? n with
      | none => exact .throw _
      | some v => exact .pure v
  | .get k =>
      simp only [evaluate, expressionDeeds]
      exact .then_idle (follow_evaluate k) fun v => .then_idle (.ofExcept _) fun o => .pure _
  | .getOr l r =>
      simp only [evaluate, expressionDeeds]
      exact .bind (follow_evaluate l) fun v => .then_idle (follow_evaluate r) fun w =>
        .then_idle (.ofExcept _) fun o => .pure _
  | .item k =>
      simp only [evaluate, expressionDeeds]
      refine .then_idle (follow_evaluate k) fun v => .then_idle (.ofExcept _) fun o => ?_
      cases o with
      | none => exact .throw _
      | some w => exact .pure w
  | .has k =>
      simp only [evaluate, expressionDeeds]
      exact .then_idle (follow_evaluate k) fun v => .then_idle (.ofExcept _) fun o => .pure _
  | .keys =>
      simp only [evaluate, expressionDeeds]
      exact .pure _
  | .call route name args keywords values =>
      -- Both routes evaluate the arguments, then the keywords, and call in the end.
      have hsteps : Follow S.call c' (do
          let vs ← evaluateAll S args
          let ws ← evaluateAll S values
          Run.ofPlay ((Deed.call route name vs (keywords.zip ws)).play S.call)) (do
          let vs ← evaluateAll (S.calling c') args
          let ws ← evaluateAll (S.calling c') values
          Run.ofPlay ((Deed.call route name vs (keywords.zip ws)).play c'))
          ((expressionsDeeds S args).andThen (evaluateAll S args) fun vs =>
            (expressionsDeeds S values).andThen (evaluateAll S values) fun ws _ =>
              [.call route name vs (keywords.zip ws)]) :=
        .bind (follow_evaluateAll args) fun vs => .bind (follow_evaluateAll values) fun ws =>
          .deed _
      simp only [expressionDeeds]
      cases route with
      | invoke =>
          simp only [evaluate, looking_invoke]
          exact hsteps
      | proxy | contextProxy =>
          -- The proxy is asked for the name before that.
          simp only [evaluate, looking_proxy, ne_eq, reduceCtorEq, not_false_eq_true]
          refine .reading (fun t => if Registry.proxyHas t.scene.helpers name then _ else idle)
            fun s s' _ _ h => ?_
          simp only [h]
          cases Registry.proxyHas s'.helpers name with
          | true => exact hsteps
          | false => exact .throw _
  -- What is asked about helpers is read off the registry, which is the same in both scenes.
  | .hasHelper name =>
      simp only [evaluate, expressionDeeds]
      refine .reading (fun _ => idle) fun s s' _ _ h => ?_
      simp only [h]
      exact .pure _
  | .helperNames =>
      simp only [evaluate, expressionDeeds]
      refine .reading (fun _ => idle) fun s s' _ _ h => ?_
      simp only [h]
      exact .pure _
  | .helperCount =>
      simp only [evaluate, expressionDeeds]
      refine .reading (fun _ => idle) fun s s' _ _ h => ?_
      simp only [h]
      exact .pure _
  | .path =>
      simp only [evaluate, expressionDeeds]
      exact .pure _
  | .moduleName =>
      simp only [evaluate, expressionDeeds]
      exact .pure _
  | .str k =>
      simp only [evaluate, expressionDeeds]
      exact .then_idle (follow_evaluate k) fun v => .then_idle (.ofExcept _) fun o => .pure _
  | .len k =>
      simp only [evaluate, expressionDeeds]
      exact .then_idle (follow_evaluate k) fun v => .then_idle (.ofExcept _) fun o => .pure _
  | .operate op l r =>
      simp only [evaluate, expressionDeeds]
      exact .bind (follow_evaluate l) fun v => .then_idle (follow_evaluate r) fun w => .ofExcept _
  | .and l r =>
      simp only [evaluate, expressionDeeds]
      -- The right operand has deeds only if it is evaluated.
      refine .bind (follow_evaluate l) fun v => .given fun b => ?_
      cases b with
      | true => exact follow_evaluate r
      | false => exact .pure v
  | .or l r =>
      simp only [evaluate, expressionDeeds]
      refine .bind (follow_evaluate l) fun v => .given fun b => ?_
      cases b with
      | true => exact .pure v
      | false => exact follow_evaluate r

theorem follow_evaluateAll (es : List Expr) :
    Follow S.call c' (evaluateAll S es) (evaluateAll (S.calling c') es)
      (expressionsDeeds S es) := by
  match es with
  | [] =>
      simp only [evaluateAll, expressionsDeeds]
      exact .pure _
  | e :: es =>
      simp only [evaluateAll, expressionsDeeds]
      exact .bind (follow_evaluate e) fun v => .then_idle (follow_evaluateAll es) fun vs =>
        .pure _

end

mutual

theorem follow_execute (st : Stmt) :
    Follow S.call c' (execute S st) (execute (S.calling c') st) (statementDeeds S st) := by
  -- The two ways of calling helpers show in the expressions only. A branch is taken by a value, and
  -- a fault is handled by its kind, and both are the same on either side.
  match st with
  | .write es =>
      simp only [execute, statementDeeds]
      exact .then_idle (follow_evaluateAll S c' es) fun vs => follow_writeAll vs
  | .print es sep ending =>
      simp only [execute, statementDeeds]
      exact .bind (follow_evaluateAll S c' es) fun vs =>
        .bind (follow_evaluate S c' sep) fun v => .then_idle (follow_evaluate S c' ending) fun w =>
          .then_idle (.ofExcept _) fun sep => .then_idle (.ofExcept _) fun ending =>
            follow_printAll sep ending vs
  | .eval e =>
      simp only [execute, statementDeeds]
      exact .then_idle (follow_evaluate S c' e) fun _ => .pure ()
  | .assign n e =>
      simp only [execute, statementDeeds]
      exact .then_idle (follow_evaluate S c' e) fun v => .assign n v
  | .branch test body orelse =>
      simp only [execute, statementDeeds]
      refine .bind (follow_evaluate S c' test) fun v => .given fun b => ?_
      cases b with
      | true => exact follow_executeAll body
      | false => exact follow_executeAll orelse
  | .loop n iter body =>
      simp only [execute, statementDeeds]
      exact .bind (follow_evaluate S c' iter) fun v => .given fun items =>
        follow_rounds (follow_executeAll body) n items
  | .handle body kind handler =>
      simp only [execute, statementDeeds]
      refine .tryCatch (follow_executeAll body) fun f => ?_
      split
      · exact .bind (.assign _ _) fun _ => follow_executeAll handler
      · exact .throw f
  | .raise kind es =>
      simp only [execute, statementDeeds]
      exact .then_idle (follow_evaluateAll S c' es) fun vs => .throw _
  | .addConstant n e =>
      simp only [execute, statementDeeds]
      -- Adding and removing are deeds that call no helper.
      exact .bind (follow_evaluate S c' e) fun v => .change (.add n v) fun _ => rfl
  | .removeHelper n =>
      simp only [execute, statementDeeds]
      exact .change (.remove n) fun _ => rfl

theorem follow_executeAll (body : List Stmt) :
    Follow S.call c' (executeAll S body) (executeAll (S.calling c') body) (bodyDeeds S body) := by
  match body with
  | [] =>
      simp only [executeAll, bodyDeeds]
      exact .pure ()
  | st :: rest =>
      simp only [executeAll, bodyDeeds]
      exact .bind (follow_execute st) fun _ => follow_executeAll rest

end

/-- What a script does, in order. -/
def runDeeds (p : Program) (s : Scene) : List Deed := bodyDeeds S p ⟨s, [], ""⟩

/-- A script does the same in two ways of calling helpers that are alike. -/
theorem run_alike {p : Program} (h : Alike S.call c' (runDeeds S p s) s s') :
    ∃ r, (run S p).perform s = (r, doneAll S.call (runDeeds S p s) s) ∧
      (run (S.calling c') p).perform s' = (r, doneAll c' (runDeeds S p s) s') := by
  rcases follow_executeAll S c' p s s' [] "" h with ⟨r, vars, output, hrun, hrun'⟩
  have hperform : ∀ (S : Setting) s t, (executeAll S p).perform ⟨s, [], ""⟩ = (r, t) →
      (run S p).perform s = (r.map fun _ => t.output, t.scene) := by
    intro S s t ht
    show run S p s = _
    rw [run, ht]
    rcases r with f | ⟨⟩ <;> rfl
  exact ⟨r.map fun _ => output, hperform S s _ hrun, hperform (S.calling c') s' _ hrun'⟩

/-- The scene after a script is the one before with its deeds done. -/
theorem run_perform (p : Program) (s : Scene) :
    ((run S p).perform s).2 = doneAll S.call (runDeeds S p s) s := by
  rcases run_alike S S.call (Alike.refl (runDeeds S p s)) with ⟨r, hrun, -⟩
  rw [hrun]

end Script

end Stencil
