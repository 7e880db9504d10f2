import Stencil.Fault

/-!
# Computations on a state

The library acts on worlds, scenes and the states of scripts. All of these actions
have one form: from a state they come to a result or a fault, and to a state, and
what an action did before it failed stays done. Running one is said here once for
every kind of state, one equation for each way of putting actions together.

## Main definitions

* `Stateful`: Actions on states of a kind.
* `Stateful.perform`: Running one from a state.

## Theorems

* `exists_of_bind_eq_ok`: A computation of several succeeds through the first.
* `perform_bind`: An action after another starts in the state that the first left.
* `perform_tryCatch`: So does the handler of a fault.
-/

namespace Stencil

/-- A computation after another succeeds only if both do. -/
theorem exists_of_bind_eq_ok {ε α β : Type} {x : Except ε α} {f : α → Except ε β} {b : β}
    (h : x >>= f = .ok b) : ∃ a, x = .ok a ∧ f a = .ok b := by
  cases x with
  | error e => cases h
  | ok a => exact ⟨a, rfl, h⟩

/-- Whether a computation gives a result can be decided where results can be compared. -/
instance decidableEqOk {ε α : Type} [DecidableEq α] (r : Except ε α) (y : α) :
    Decidable (r = .ok y) :=
  match r with
  | .ok y' => decidable_of_iff (y' = y) ⟨congrArg _, Except.ok.inj⟩
  | .error _ => isFalse nofun

/-- Whether a computation fails in some way can be decided where the way can be. -/
instance decidableFails {ε α : Type} (r : Except ε α) (P : ε → Prop) [DecidablePred P] :
    Decidable (∃ f, r = .error f ∧ P f) :=
  match r with
  | .ok _ => isFalse nofun
  | .error f => decidable_of_iff (P f) ⟨fun h => ⟨f, rfl, h⟩, fun ⟨_, hf, h⟩ =>
      Except.error.inj hf ▸ h⟩

/-- Actions on states of a kind, which end with a result or a fault. -/
abbrev Stateful (σ α : Type) := ExceptT Fault (StateM σ) α

namespace Stateful

variable {σ α β : Type}

/-- Runs an action from a state. -/
def perform (a : Stateful σ α) (s : σ) : Except Fault α × σ := StateT.run a.run s

@[simp] theorem perform_pure (x : α) (s : σ) :
    perform (pure x : Stateful σ α) s = (.ok x, s) := rfl

@[simp] theorem perform_throw (f : Fault) (s : σ) :
    perform (throw f : Stateful σ α) s = (.error f, s) := rfl

@[simp] theorem perform_get (s : σ) : perform (get : Stateful σ σ) s = (.ok s, s) := rfl

@[simp] theorem perform_set (t s : σ) : perform (set t : Stateful σ Unit) s = (.ok (), t) := rfl

@[simp] theorem perform_modify (g : σ → σ) (s : σ) :
    perform (modify g : Stateful σ Unit) s = (.ok (), g s) := rfl

theorem perform_bind (a : Stateful σ α) (f : α → Stateful σ β) (s : σ) :
    perform (a >>= f) s =
      match perform a s with
      | (.ok x, s') => perform (f x) s'
      | (.error e, s') => (.error e, s') := by
  simp only [perform, bind, ExceptT.bind, ExceptT.run, ExceptT.mk, StateT.run, StateT.bind,
    ExceptT.bindCont]
  rcases h : (a s : Except Fault α × σ) with ⟨_ | x, s'⟩
  · simp; rfl
  · simp

theorem perform_tryCatch (a : Stateful σ α) (handler : Fault → Stateful σ α) (s : σ) :
    perform (tryCatch a handler) s =
      match perform a s with
      | (.ok x, s') => (.ok x, s')
      | (.error e, s') => perform (handler e) s' := by
  simp only [perform, tryCatch, tryCatchThe, MonadExceptOf.tryCatch, ExceptT.tryCatch,
    ExceptT.run, ExceptT.mk, StateT.run, bind, StateT.bind]
  rcases h : (a s : Except Fault α × σ) with ⟨_ | x, s'⟩
  · simp
  · simp; rfl

/-- An action goes on from where a successful one left. -/
theorem perform_bind_ok {a : Stateful σ α} {s s' : σ} {x : α} (h : perform a s = (.ok x, s'))
    (f : α → Stateful σ β) : perform (a >>= f) s = perform (f x) s' := by
  rw [perform_bind, h]

/-- A fault ends what was to follow. -/
theorem perform_bind_error {a : Stateful σ α} {s s' : σ} {e : Fault}
    (h : perform a s = (.error e, s')) (f : α → Stateful σ β) :
    perform (a >>= f) s = (.error e, s') := by
  rw [perform_bind, h]

/-- A fault ends what was to follow, whatever state it leaves. -/
theorem perform_bind_of_error {a : Stateful σ α} {s : σ} {e : Fault}
    (h : (perform a s).1 = .error e) (f : α → Stateful σ β) :
    (perform (a >>= f) s).1 = .error e := by
  rw [perform_bind]
  cases ha : perform a s with
  | mk r s' =>
      rw [ha] at h
      obtain rfl : r = .error e := h
      rfl

/-- An action after another succeeds only if both do. -/
theorem exists_of_perform_bind {a : Stateful σ α} {f : α → Stateful σ β} {s s'' : σ} {y : β}
    (h : perform (a >>= f) s = (.ok y, s'')) :
    ∃ x s', perform a s = (.ok x, s') ∧ perform (f x) s' = (.ok y, s'') := by
  rw [perform_bind] at h
  cases ha : perform a s with
  | mk r s' =>
      rw [ha] at h
      cases r with
      | error e => exact nomatch congrArg Prod.fst h
      | ok x => exact ⟨x, s', rfl, h⟩

end Stateful

end Stencil
