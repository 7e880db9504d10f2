import Stencil.Proofs.Relating
import Stencil.Stateful

/-!
# Watching a rendering

Which templates a rendering uses is only known when it is run, since an inclusion may name
any template. So the rendering is run once more with a list at its side, on which every
template is noted when it is loaded. The list changes nothing else, and it only grows.

What a rendering does with templates can then be said of those it used: if all of them have
a property, the result has another. Nothing has to be known of other templates.

## Main definitions

* `Stateful.beside`: An action on a part of the state.
* `Template.watched`: A renderer that notes what it loads.
* `Template.Promises`: A property of the result that the templates on the list imply.

## Theorems

* `Template.watched_perform`: Watching makes no difference.
* `Template.Promises.bind`, `Template.Promises.foldl`: Actions that are put together.
-/

namespace Stencil

/-- An action on the first part of a state. -/
def Stateful.beside {σ τ α : Type} (a : Stateful σ α) : Stateful (σ × τ) α := fun s =>
  ((a.perform s.1).1, (a.perform s.1).2, s.2)

@[simp] theorem Stateful.perform_beside {σ τ α : Type} (a : Stateful σ α) (s : σ × τ) :
    (beside a).perform s = ((a.perform s.1).1, (a.perform s.1).2, s.2) := rfl

namespace Template

variable {σ : Type}

/-- Loads a template and notes it. -/
def noted (a : Stateful σ Program) : Stateful (σ × List Program) Program := do
  let p ← Stateful.beside a
  modify fun s => (s.1, p :: s.2)
  return p

/-- A renderer that notes what it loads. -/
def watched (r : Renderer (Stateful σ)) : Renderer (Stateful (σ × List Program)) where
  load n := noted (r.load n)
  strict := r.strict
  globals := r.globals
  translations := r.translations
  transFilter := r.transFilter

/-- An action does what another does, apart from the list at its side. -/
def Watches {α : Type} (a : Stateful σ α) (b : Stateful (σ × List Program) α) : Prop :=
  ∀ s, (b.perform s).1 = (a.perform s.1).1 ∧ (b.perform s).2.1 = (a.perform s.1).2

namespace Watches

variable {α β : Type} {a : Stateful σ α} {b : Stateful (σ × List Program) α}

theorem bind {f : α → Stateful σ β} {g : α → Stateful (σ × List Program) β} (h : Watches a b)
    (hf : ∀ x, Watches (f x) (g x)) : Watches (a >>= f) (b >>= g) := by
  intro s
  obtain ⟨hresult, hstate⟩ := h s
  rw [Stateful.perform_bind, Stateful.perform_bind]
  rcases ha : a.perform s.1 with ⟨r, w⟩
  rcases hb : b.perform s with ⟨r', s'⟩
  rw [ha, hb] at hresult hstate
  obtain rfl : r' = r := hresult
  obtain rfl : s'.1 = w := hstate
  cases r' with
  | error e => exact ⟨rfl, rfl⟩
  | ok x => exact hf x s'

theorem tryCatch {f : Fault → Stateful σ α} {g : Fault → Stateful (σ × List Program) α}
    (h : Watches a b) (hf : ∀ e, Watches (f e) (g e)) :
    Watches (MonadExcept.tryCatch a f) (MonadExcept.tryCatch b g) := by
  intro s
  obtain ⟨hresult, hstate⟩ := h s
  rw [Stateful.perform_tryCatch, Stateful.perform_tryCatch]
  rcases ha : a.perform s.1 with ⟨r, w⟩
  rcases hb : b.perform s with ⟨r', s'⟩
  rw [ha, hb] at hresult hstate
  obtain rfl : r' = r := hresult
  obtain rfl : s'.1 = w := hstate
  cases r' with
  | error e => exact hf e s'
  | ok x => exact ⟨rfl, rfl⟩

theorem beside (a : Stateful σ α) : Watches a (Stateful.beside a) := fun _ => ⟨rfl, rfl⟩

theorem noted (a : Stateful σ Program) : Watches a (Template.noted a) := by
  intro s
  rw [Template.noted, Stateful.perform_bind, Stateful.perform_beside]
  rcases a.perform s.1 with ⟨_ | p, w⟩
  · exact ⟨rfl, rfl⟩
  · exact ⟨rfl, rfl⟩

end Watches

/-- Watching as a relation that rendering keeps. -/
def watching : Relation (Stateful σ) (Stateful (σ × List Program)) where
  holds := Watches
  pure _ _ := ⟨rfl, rfl⟩
  bind := Watches.bind
  throw _ _ := ⟨rfl, rfl⟩
  tryCatch := Watches.tryCatch

/-- Watching a rendering makes no difference to it. -/
theorem watched_perform (r : Renderer (Stateful σ)) (p : Program) (data : Bindings) :
    Watches (render r p data) (render (watched r) p data) := by
  have hr : watching.Renderers r (watched r) :=
    ⟨fun n => Watches.noted (r.load n), rfl, rfl, rfl, rfl⟩
  exact Relation.render hr p data

/-- The list at the side of an action only grows, and if all templates on it have a
    property when the action is done, the result has another. -/
structure Promises (C : Program → Prop) {α : Type} (a : Stateful (σ × List Program) α)
    (P : α → Prop) : Prop where
  grows : ∀ s, s.2 ⊆ (a.perform s).2.2
  result : ∀ s x, (a.perform s).1 = .ok x → (∀ p ∈ (a.perform s).2.2, C p) → P x

namespace Promises

variable {C : Program → Prop} {α β : Type} {P P' : α → Prop} {Q : β → Prop}
  {a : Stateful (σ × List Program) α}

theorem pure {x : α} (h : P x) : Promises C (Pure.pure x : Stateful (σ × List Program) α) P := by
  refine ⟨fun s => List.Subset.refl _, fun s y hy _ => ?_⟩
  cases hy
  exact h

theorem throw {f : Fault} :
    Promises C (MonadExcept.throw f : Stateful (σ × List Program) α) P :=
  ⟨fun _ => List.Subset.refl _, fun _ _ hx => nomatch hx⟩

theorem lift (r : Except Fault α) :
    Promises C (Template.lift r : Stateful (σ × List Program) α) fun x => r = .ok x := by
  cases r with
  | error f => exact throw
  | ok x => exact pure rfl

theorem mono (ha : Promises C a P) (h : ∀ x, P x → P' x) : Promises C a P' :=
  ⟨ha.grows, fun s x hx hC => h x (ha.result s x hx hC)⟩

/-- The second of two actions goes on with the list of the first, so whatever the list
    implies at its end it implies of both. -/
theorem bind {f : α → Stateful (σ × List Program) β} (ha : Promises C a P)
    (hf : ∀ x, Promises C (f x) fun y => P x → Q y) : Promises C (a >>= f) Q := by
  refine ⟨fun s => ?_, fun s y hy hC => ?_⟩
  · have hgrows := ha.grows s
    rw [Stateful.perform_bind]
    rcases h : a.perform s with ⟨_ | x, s'⟩
    · rw [h] at hgrows
      exact hgrows
    · rw [h] at hgrows
      exact List.Subset.trans hgrows ((hf x).grows s')
  · have hresult := ha.result s
    rw [Stateful.perform_bind] at hy hC
    rcases h : a.perform s with ⟨_ | x, s'⟩
    · rw [h] at hy
      cases hy
    · rw [h] at hy hC hresult
      exact (hf x).result s' y hy hC
        (hresult x rfl fun p hp => hC p ((hf x).grows s' hp))

theorem tryCatch {f : Fault → Stateful (σ × List Program) α} (ha : Promises C a P)
    (hf : ∀ e, Promises C (f e) P) : Promises C (MonadExcept.tryCatch a f) P := by
  refine ⟨fun s => ?_, fun s x hx hC => ?_⟩
  · have hgrows := ha.grows s
    rw [Stateful.perform_tryCatch]
    rcases h : a.perform s with ⟨e | x, s'⟩
    · rw [h] at hgrows
      exact List.Subset.trans hgrows ((hf e).grows s')
    · rw [h] at hgrows
      exact hgrows
  · have hresult := ha.result s
    rw [Stateful.perform_tryCatch] at hx hC
    rcases h : a.perform s with ⟨e | y, s'⟩
    · rw [h] at hx hC
      exact (hf e).result s' x hx hC
    · rw [h] at hx hC hresult
      cases hx
      exact hresult _ rfl hC

/-- An invariant that every round of a loop keeps for a certain kind of items. -/
theorem foldl {f : β → α → Stateful (σ × List Program) β}
    (h : ∀ b x, Promises C (f b x) fun b' => P x → Q b → Q b') (xs : List α) (b : β) :
    Promises C (xs.foldlM f b) fun b' => (∀ x ∈ xs, P x) → Q b → Q b' := by
  induction xs generalizing b with
  | nil => exact pure fun _ hb => hb
  | cons x xs ih =>
      rw [List.foldlM_cons]
      refine (h b x).bind fun b' => (ih b').mono fun b'' hrest hround hall hb => ?_
      obtain ⟨hx, hxs⟩ := List.forall_mem_cons.mp hall
      exact hrest hxs (hround hx hb)

/-- A template that is loaded is on the list. -/
theorem noted (a : Stateful σ Program) : Promises C (Template.noted a) C := by
  refine ⟨fun s => ?_, fun s p hp hC => ?_⟩
  · rw [Template.noted, Stateful.perform_bind, Stateful.perform_beside]
    rcases a.perform s.1 with ⟨_ | p, w⟩
    · exact List.Subset.refl _
    · exact List.subset_cons_self ..
  · rw [Template.noted, Stateful.perform_bind, Stateful.perform_beside] at hp hC
    rcases h : a.perform s.1 with ⟨_ | q, w⟩
    · rw [h] at hp
      cases hp
    · rw [h] at hp hC
      cases hp
      exact hC _ (List.mem_cons_self ..)

theorem beside (a : Stateful σ α) : Promises C (Stateful.beside a) fun _ => True :=
  ⟨fun _ => List.Subset.refl _, fun _ _ _ _ => trivial⟩

end Promises

end Template

end Stencil
