import Stencil.Template.Render

/-!
# Rendering with related loaders

Rendering asks nothing of the outside but the templates that inclusions name. So if two
ways of loading templates do the same in some sense, rendering with the one does the
same as rendering with the other. The sense is a parameter: any relation between actions
that is kept by everything rendering does to actions, which is to answer, to go on, to
fail, and to handle a failure.

An invariant of one way of loading is the case where both sides are the same action.

## Main definitions

* `Relation`: A relation between actions that ways of putting them together keep.
* `Relation.Renderers`: Two renderers whose loads are related and which are otherwise
  the same.

## Theorems

* `Relation.foldl`: Loops of related rounds are related.
* `Relation.executeAll`: Statements run alike on related renderers.
* `Relation.renderAt`: So do whole templates, inclusions and all.
* `Relation.render`: And rendering over data.
-/

namespace Stencil

namespace Template

/-- A relation between actions of two kinds that all ways of putting actions together
    keep. -/
structure Relation (m₁ m₂ : Type → Type) [Monad m₁] [MonadExcept Fault m₁] [Monad m₂]
    [MonadExcept Fault m₂] where
  holds : ∀ {α : Type}, m₁ α → m₂ α → Prop
  pure : ∀ {α : Type} (x : α), holds (Pure.pure x) (Pure.pure x)
  bind : ∀ {α β : Type} {a : m₁ α} {b : m₂ α} {f : α → m₁ β} {g : α → m₂ β},
    holds a b → (∀ x, holds (f x) (g x)) → holds (a >>= f) (b >>= g)
  throw : ∀ {α : Type} (f : Fault), holds (MonadExcept.throw f : m₁ α) (MonadExcept.throw f)
  tryCatch : ∀ {α : Type} {a : m₁ α} {b : m₂ α} {h : Fault → m₁ α} {k : Fault → m₂ α},
    holds a b → (∀ f, holds (h f) (k f)) →
    holds (MonadExcept.tryCatch a h) (MonadExcept.tryCatch b k)

namespace Relation

variable {m₁ m₂ : Type → Type} [Monad m₁] [MonadExcept Fault m₁] [Monad m₂]
  [MonadExcept Fault m₂] (R : Relation m₁ m₂)

/-- Two renderers whose loads are related and which are otherwise the same. -/
structure Renderers (r₁ : Renderer m₁) (r₂ : Renderer m₂) : Prop where
  load : ∀ n, R.holds (r₁.load n) (r₂.load n)
  strict : r₁.strict = r₂.strict
  globals : r₁.globals = r₂.globals
  translations : r₁.translations = r₂.translations
  transFilter : r₁.transFilter = r₂.transFilter

theorem lift {α : Type} (x : Except Fault α) :
    R.holds (Template.lift x : m₁ α) (Template.lift x) := by
  cases x with
  | ok x => exact R.pure x
  | error f => exact R.throw f

theorem foldl {α β : Type} {f : β → α → m₁ β} {g : β → α → m₂ β}
    (h : ∀ b x, R.holds (f b x) (g b x)) (xs : List α) (b : β) :
    R.holds (xs.foldlM f b) (xs.foldlM g b) := by
  induction xs generalizing b with
  | nil => exact R.pure b
  | cons x xs ih =>
      rw [List.foldlM_cons, List.foldlM_cons]
      exact R.bind (h b x) ih

variable {R} {r₁ : Renderer m₁} {r₂ : Renderer m₂}

theorem Renderers.scopeAt (hr : R.Renderers r₁ r₂) (p : Place) (env : Env) :
    Template.scopeAt r₁ p env = Template.scopeAt r₂ p env := by
  rw [Template.scopeAt, Template.scopeAt, hr.strict, hr.translations, hr.transFilter]

theorem Renderers.passes (hr : R.Renderers r₁ r₂) (p : Place) (env : Env) (target : Target)
    (test : Option Expr) (v : Value) :
    Template.passes r₁ p env target test v = Template.passes r₂ p env target test v := by
  unfold Template.passes
  simp only [hr.scopeAt]

theorem loadIncluded (hr : R.Renderers r₁ r₂) (ignoreMissing : Bool) (v : Value) :
    R.holds (Template.loadIncluded r₁ ignoreMissing v)
      (Template.loadIncluded r₂ ignoreMissing v) := by
  have hsome : ∀ n, R.holds (do return some (← r₁.load n)) (do return some (← r₂.load n)) :=
    fun n => R.bind (hr.load n) fun x => R.pure (some x)
  unfold Template.loadIncluded
  split
  · exact R.lift _
  · split
    · -- Only a missing template can be passed over, and only if the inclusion says so.
      refine R.tryCatch (hsome _) fun f => ?_
      split
      · exact R.pure none
      · exact R.throw _
    · exact hsome _

mutual

theorem execute (hr : R.Renderers r₁ r₂) {n₁ : Program → Bindings → m₁ String}
    {n₂ : Program → Bindings → m₂ String} (hn : ∀ q b, R.holds (n₁ q b) (n₂ q b)) (p : Place)
    (env : Env) (s : Stmt) :
    R.holds (Template.execute r₁ n₁ p env s) (Template.execute r₂ n₂ p env s) := by
  -- One case for each kind of statement. Those with statements inside go on to them.
  match s with
  | .text s =>
      simp only [Template.execute]
      exact R.pure _
  | .print e =>
      simp only [Template.execute, hr.scopeAt]
      exact R.bind (R.lift _) fun v => R.bind (R.lift _) fun s => R.pure _
  | .branch test body orelse _ =>
      simp only [Template.execute, hr.scopeAt]
      refine R.bind (R.lift _) fun v => R.bind (R.lift _) fun b => ?_
      split
      · exact executeAll hr hn p env body
      · exact executeAll hr hn p env orelse
  | .set target _ e =>
      simp only [Template.execute, hr.scopeAt]
      exact R.bind (R.lift _) fun v => R.bind (R.lift _) fun b => R.pure _
  | .trans b =>
      simp only [Template.execute, hr.scopeAt]
      exact R.bind (R.lift _) fun s => R.pure _
  | .include e ignoreMissing withContext =>
      simp only [Template.execute, hr.scopeAt, hr.globals]
      refine R.bind (R.lift _) fun v => R.bind (loadIncluded hr ignoreMissing v) fun q => ?_
      split
      · exact R.pure _
      · exact R.bind (hn _ _) fun s => R.pure _
  | .loop target _ iter test body orelse =>
      simp only [Template.execute, hr.scopeAt, hr.passes]
      refine R.bind (R.lift _) fun v => R.bind (R.lift _) fun items =>
        R.bind (R.foldl (fun state x => ?_) items _) fun state => ?_
      · -- A round of the loop: its test, what it binds, and its body.
        refine R.bind (R.lift _) fun b => ?_
        split
        · exact R.bind (R.lift _) fun bound => R.bind (executeAll hr hn _ _ body) fun _ => R.pure _
        · exact R.pure _
      · split
        · exact R.bind (executeAll hr hn _ _ orelse) fun _ => R.pure _
        · exact R.pure _

theorem executeAll (hr : R.Renderers r₁ r₂) {n₁ : Program → Bindings → m₁ String}
    {n₂ : Program → Bindings → m₂ String} (hn : ∀ q b, R.holds (n₁ q b) (n₂ q b)) (p : Place)
    (env : Env) (ss : List Stmt) :
    R.holds (Template.executeAll r₁ n₁ p env ss) (Template.executeAll r₂ n₂ p env ss) := by
  match ss with
  | [] =>
      simp only [Template.executeAll]
      exact R.pure _
  | s :: ss =>
      simp only [Template.executeAll]
      exact R.bind (execute hr hn p env s) fun _ =>
        R.bind (executeAll hr hn p _ ss) fun _ => R.pure _

end

/-- Templates render alike on related renderers, however deep inclusions may nest. -/
theorem renderAt (hr : R.Renderers r₁ r₂) (depth : Nat) (q : Program) (b : Bindings) :
    R.holds (Template.renderAt r₁ depth q b) (Template.renderAt r₂ depth q b) := by
  induction depth generalizing q b with
  | zero =>
      simp only [Template.renderAt]
      exact R.throw _
  | succ depth ih =>
      simp only [Template.renderAt]
      -- Inclusions are rendered one level further down, where the induction applies.
      exact R.bind (executeAll hr ih _ _ q.body) fun _ => R.pure _

theorem render (hr : R.Renderers r₁ r₂) (q : Program) (b : Bindings) :
    R.holds (Template.render r₁ q b) (Template.render r₂ q b) := by
  rw [Template.render, Template.render, hr.globals]
  exact renderAt hr deepest q _

end Relation

end Template

end Stencil
