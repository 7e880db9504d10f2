import Stencil.Proofs.Failing
import Stencil.Proofs.Softening

/-!
# How rendering fails

Rendering is a long chain of small actions, and each of them fails in a way of its own. What
rendering as a whole fails with is no more than that: the faults of using values, from every
expression, every assignment and every loop, and those of loading, from every inclusion. An
inclusion that passes over missing templates only takes one away.

## Main definitions

* `Stateful.Fails`: An action fails only with faults of some kind.

## Theorems

* `Template.execute_fails`: Statements fail of how values are used, or as loading fails.
* `Template.render_fails`: So do templates over data, inclusions and all.
-/

namespace Stencil

/-- An action fails only with faults of some kind, whatever state it starts in. -/
def Stateful.Fails (P : Fault → Prop) {σ α : Type} (a : Stateful σ α) : Prop :=
  ∀ s, FailsOf P (a.perform s).1

namespace Stateful.Fails

variable {P : Fault → Prop} {σ α β : Type} {a : Stateful σ α}

theorem pure (x : α) : Fails P (Pure.pure x : Stateful σ α) := fun _ => .ok

theorem throw {f : Fault} (h : P f) : Fails P (MonadExcept.throw f : Stateful σ α) :=
  fun _ => .error h

theorem bind {k : α → Stateful σ β} (h : Fails P a) (hk : ∀ x, Fails P (k x)) :
    Fails P (a >>= k) := by
  intro s
  rw [perform_bind]
  cases ha : a.perform s with
  | mk r s' =>
      cases r with
      | error f => exact .error (h s f (congrArg Prod.fst ha))
      | ok x => exact hk x s'

/-- A handler has only the faults of the action to handle. -/
theorem tryCatch {k : Fault → Stateful σ α} (h : Fails P a) (hk : ∀ f, P f → Fails P (k f)) :
    Fails P (MonadExcept.tryCatch a k) := by
  intro s
  rw [perform_tryCatch]
  cases ha : a.perform s with
  | mk r s' =>
      cases r with
      | error f => exact hk f (h s f (congrArg Prod.fst ha)) s'
      | ok x => exact .ok

theorem lift {r : Except Fault α} (h : FailsOf P r) :
    Fails P (Template.lift r : Stateful σ α) := by
  cases r with
  | ok x => exact pure x
  | error f => exact throw (h f rfl)

theorem foldlM {k : β → α → Stateful σ β} (h : ∀ b x, Fails P (k b x)) (xs : List α) (b : β) :
    Fails P (xs.foldlM k b) := by
  induction xs generalizing b with
  | nil => exact pure b
  | cons x xs ih =>
      rw [List.foldlM_cons]
      exact (h b x).bind ih

end Stateful.Fails

namespace Template

open Stateful (Fails)

variable {P : Fault → Prop} {σ : Type} {r : Renderer (Stateful σ)}

/-! ## Expressions -/

section

variable {m : Type → Type} (r : Renderer m)

theorem evaluate_fails (sc : Scope) (e : Expr) : FailsOf Fault.OfUse (evaluate sc e) :=
  Carries.fails (evaluate_eases (.refl sc) e)

theorem TransBlock.follows_self (sc : Scope) (b : TransBlock) : b.Follows sc sc b where
  context := rfl
  names := rfl
  values := evaluateAll_eases (.refl sc) b.values
  singular := rfl
  plural := rfl
  count := by
    cases b.count with
    | none => exact .none
    | some e => exact .some (evaluate_eases (.refl sc) e)
  trimmed := rfl

theorem evaluateBlock_fails (sc : Scope) (b : TransBlock) :
    FailsOf Fault.OfUse (evaluateBlock sc b) :=
  (evaluateBlock_follow (.refl sc) (b.follows_self sc)).fails

theorem bindings_fail (target : Target) (v : Value) : FailsOf Fault.OfUse (target.bindings v) :=
  (bindings_eases target (.same v)).fails

theorem escaped_fails (v : Value) : FailsOf Fault.OfUse v.escaped :=
  (Value.escaped_eases (.same v)).fails

theorem truth_fails (v : Value) : FailsOf Fault.OfUse v.truth :=
  (Value.truth_eases (.same v)).fails

theorem items_fail (v : Value) : FailsOf Fault.OfUse v.items :=
  (Value.items_eases (.same v)).fails

theorem str_fails (v : Value) : FailsOf Fault.OfUse v.str := (Value.str_eases (.same v)).fails

theorem passes_fails (p : Place) (env : Env) (target : Target) (test : Option Expr) (v : Value) :
    FailsOf Fault.OfUse (passes r p env target test v) := by
  cases test with
  | none => exact .ok
  | some e =>
      exact (bindings_fail target v).bind fun _ => (evaluate_fails _ e).bind fun _ =>
        truth_fails _

end

/-! ## Statements -/

/-- An inclusion fails as loading does, and refuses a value that is undefined. -/
theorem loadIncluded_fails (hP : ∀ f, f.OfUse → P f) (hload : ∀ n, Fails P (r.load n))
    (ignoreMissing : Bool) (v : Value) : Fails P (loadIncluded r ignoreMissing v) := by
  have hsome (n : String) : Fails P (do return some (← r.load n)) :=
    (hload n).bind fun _ => .pure _
  unfold loadIncluded
  split
  · exact .throw (hP _ trivial)
  · split
    · refine (hsome _).tryCatch fun f hf => ?_
      split
      · exact .pure none
      · exact .throw hf
    · exact hsome _

mutual

/-- Statements fail of how values are used, or as loading and nested rendering fail. -/
theorem execute_fails (hP : ∀ f, f.OfUse → P f) (hload : ∀ n, Fails P (r.load n))
    {nested : Program → Bindings → Stateful σ String} (hnested : ∀ q b, Fails P (nested q b))
    (p : Place) (env : Env) (s : Stmt) : Fails P (execute r nested p env s) := by
  have hlift {α : Type} {x : Except Fault α} (h : FailsOf Fault.OfUse x) :
      Fails P (lift x : Stateful σ α) := .lift (h.mono hP)
  -- Each step is one of evaluation, which fails of how values are used, or loads or renders another
  -- template.
  match s with
  | .text _ => exact .pure _
  | .print e =>
      exact (hlift (evaluate_fails _ e)).bind fun v => (hlift (escaped_fails v)).bind
        fun _ => .pure _
  | .branch test body orelse _ =>
      refine (hlift (evaluate_fails _ test)).bind fun v => (hlift (truth_fails v)).bind
        fun b => ?_
      split
      · exact executeAll_fails hP hload hnested p env body
      · exact executeAll_fails hP hload hnested p env orelse
  | .set target _ e =>
      exact (hlift (evaluate_fails _ e)).bind fun v => (hlift (bindings_fail target v)).bind
        fun _ => .pure _
  | .trans b => exact (hlift (evaluateBlock_fails _ b)).bind fun _ => .pure _
  | .include e ignoreMissing _ =>
      refine (hlift (evaluate_fails _ e)).bind fun v =>
        (loadIncluded_fails hP hload ignoreMissing v).bind fun q => ?_
      cases q with
      | none => exact .pure _
      | some q => exact (hnested q _).bind fun _ => .pure _
  | .loop target _ iter test body orelse =>
      refine (hlift (evaluate_fails _ iter)).bind fun v => (hlift (items_fail v)).bind
        fun items => (Fails.foldlM (fun state x => ?_) items _).bind fun state => ?_
      · -- A round of the loop: its test, what it binds, and its body.
        refine (hlift (passes_fails r p env target test x)).bind fun b => ?_
        split
        · exact (hlift (bindings_fail target x)).bind fun _ =>
            (executeAll_fails hP hload hnested _ _ body).bind fun _ => .pure _
        · exact .pure _
      · obtain ⟨loopVars, text, rounds⟩ := state
        dsimp only
        split
        · exact (executeAll_fails hP hload hnested _ _ orelse).bind fun _ => .pure _
        · exact .pure _

theorem executeAll_fails (hP : ∀ f, f.OfUse → P f) (hload : ∀ n, Fails P (r.load n))
    {nested : Program → Bindings → Stateful σ String} (hnested : ∀ q b, Fails P (nested q b))
    (p : Place) (env : Env) (ss : List Stmt) : Fails P (executeAll r nested p env ss) := by
  match ss with
  | [] => exact .pure _
  | s :: ss =>
      exact (execute_fails hP hload hnested p env s).bind fun _ =>
        (executeAll_fails hP hload hnested p _ ss).bind fun _ => .pure _

end

/-- Templates fail of how values are used, of how deep they nest, or as loading fails. -/
theorem renderAt_fails (hP : ∀ f, f.OfUse → P f) (hload : ∀ n, Fails P (r.load n)) (depth : Nat)
    (q : Program) (b : Bindings) : Fails P (renderAt r depth q b) := by
  induction depth generalizing q b with
  | zero => exact .throw (hP _ trivial)
  | succ depth ih => exact (executeAll_fails hP hload ih _ _ q.body).bind fun _ => .pure _

theorem render_fails (hP : ∀ f, f.OfUse → P f) (hload : ∀ n, Fails P (r.load n)) (q : Program)
    (data : Bindings) : Fails P (render r q data) :=
  renderAt_fails hP hload deepest q _

end Template

end Stencil
