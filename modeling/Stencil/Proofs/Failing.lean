import Stencil.Proofs.Settling

/-!
# How compiling fails

Compiling computes constants, and so it may fail as using values fails. Besides, it refuses
what is not well formed, at a line. It looks for no template and reads no file, so no fault of
that kind comes of it.

## Main definitions

* `FailsOf`: A computation fails only with faults of some kind.
* `Fault.OfMarkup`: The faults of compiling.

## Theorems

* `fold_fails`: Folding fails of how values are used.
* `compile_fails`: Compiling fails of that, or refuses a line.
-/

namespace Stencil

/-- The faults of compiling: those of using values, and what is not well formed. -/
def Fault.OfMarkup (f : Fault) : Prop := f.OfUse ∨ ∃ line, f = .markupSyntax line

/-- A computation fails only with faults of some kind. -/
def FailsOf (P : Fault → Prop) {α : Type} (r : Except Fault α) : Prop := ∀ f, r = .error f → P f

namespace FailsOf

variable {P Q : Fault → Prop} {α β : Type} {r : Except Fault α}

theorem ok {x : α} : FailsOf P (.ok x) := nofun

theorem error {f : Fault} (h : P f) : FailsOf P (.error f : Except Fault α) :=
  fun _ hf => Except.error.inj hf ▸ h

theorem mono (h : FailsOf P r) (hPQ : ∀ f, P f → Q f) : FailsOf Q r := fun f hf => hPQ f (h f hf)

theorem bind {k : α → Except Fault β} (h : FailsOf P r) (hk : ∀ x, FailsOf P (k x)) :
    FailsOf P (r >>= k) := by
  cases r with
  | error f => exact error (h f rfl)
  | ok x => exact hk x

theorem mapM_option {f : α → Except Fault β} (h : ∀ x, FailsOf P (f x)) (x : Option α) :
    FailsOf P (x.mapM f) := by
  cases x with
  | none => exact ok
  | some x => exact (h x).bind fun _ => ok

theorem mapM {f : α → Except Fault β} (h : ∀ x, FailsOf P (f x)) (xs : List α) :
    FailsOf P (xs.mapM f) := by
  induction xs with
  | nil => exact ok
  | cons x xs ih =>
      rw [List.mapM_cons]
      exact (h x).bind fun _ => ih.bind fun _ => ok

end FailsOf

namespace Template

variable {s : Settings}

theorem Settings.Eases.refl (s : Settings) : s.Eases s := ⟨id, rfl⟩

/-! ## Expressions -/

theorem foldOne_fails (e : Expr) : FailsOf Fault.OfUse (foldOne s e) := by
  have hfails := (constant_carries (.refl s) e).fails
  unfold foldOne
  split
  · exact .ok
  · exact .ok
  · rename_i f hf
    exact .error (hfails f hf)

mutual

/-- Folding fails of how values are used. -/
theorem fold_fails (e : Expr) : FailsOf Fault.OfUse (fold s e) := by
  match e with
  | .const _ | .name _ => exact .ok
  | .list es | .tuple es | .concat es => exact (folds_fail es).bind fun _ => foldOne_fails _
  | .dict es fs =>
      exact (folds_fail es).bind fun _ => (folds_fail fs).bind fun _ => foldOne_fails _
  | .member e _ | .sign _ e | .not e => exact (fold_fails e).bind fun _ => foldOne_fails _
  | .item l r | .binary _ l r | .and l r | .or l r | .chooseSome l r _ =>
      exact (fold_fails l).bind fun _ => (fold_fails r).bind fun _ => foldOne_fails _
  | .call e es _ fs =>
      exact (fold_fails e).bind fun _ => (folds_fail es).bind fun _ => (folds_fail fs).bind
        fun _ => .ok
  | .filter e _ es _ fs _ _ | .test e _ es _ fs _ =>
      exact (fold_fails e).bind fun _ => (folds_fail es).bind fun _ => (folds_fail fs).bind
        fun _ => foldOne_fails _
  | .compare e _ es =>
      exact (fold_fails e).bind fun _ => (folds_fail es).bind fun _ => foldOne_fails _
  | .choose e l r =>
      exact (fold_fails e).bind fun _ => (fold_fails l).bind fun _ => (fold_fails r).bind
        fun _ => foldOne_fails _

theorem folds_fail (es : List Expr) : FailsOf Fault.OfUse (folds s es) := by
  match es with
  | [] => exact .ok
  | e :: es => exact (fold_fails e).bind fun _ => (folds_fail es).bind fun _ => .ok

end

mutual

theorem check_fails {soft : Bool} (e : Expr) : FailsOf Fault.OfMarkup (check s soft e) := by
  match e with
  | .const _ | .name _ => exact .ok
  | .list es | .tuple es | .concat es => exact (checks_fail es).bind fun _ => .ok
  | .dict es fs => exact (checks_fail es).bind fun _ => (checks_fail fs).bind fun _ => .ok
  | .member e _ | .sign _ e | .not e => exact (check_fails e).bind fun _ => .ok
  | .item l r | .binary _ l r | .and l r | .or l r =>
      exact (check_fails l).bind fun _ => (check_fails r).bind fun _ => .ok
  | .call e es _ fs =>
      exact (check_fails e).bind fun _ => (checks_fail es).bind fun _ => (checks_fail fs).bind
        fun _ => .ok
  | .filter e _ es _ fs _ _ | .test e _ es _ fs _ =>
      rw [check]
      split
      · exact .error (.inr ⟨_, rfl⟩)
      · exact (check_fails e).bind fun _ => (checks_fail es).bind fun _ => (checks_fail fs).bind
          fun _ => .ok
  | .compare e _ es => exact (check_fails e).bind fun _ => (checks_fail es).bind fun _ => .ok
  | .choose e l r =>
      exact (check_fails l).bind fun _ => (check_fails e).bind fun _ => (check_fails r).bind
        fun _ => .ok
  | .chooseSome e l _ => exact (check_fails l).bind fun _ => (check_fails e).bind fun _ => .ok

theorem checks_fail {soft : Bool} (es : List Expr) : FailsOf Fault.OfMarkup (checks s soft es) := by
  match es with
  | [] => exact .ok
  | e :: es => exact (check_fails e).bind fun _ => (checks_fail es).bind fun _ => .ok

end

theorem settle_fails {soft : Bool} (e : Expr) :
    FailsOf Fault.OfMarkup (fold s e >>= check s soft) :=
  ((fold_fails e).mono fun _ => .inl).bind fun _ => check_fails _

mutual

theorem prepare_fails {soft : Bool} (e : Expr) : FailsOf Fault.OfMarkup (prepare s soft e) := by
  match e with
  | .const _ | .name _ => exact .ok
  | .list es | .tuple es => exact (prepares_fail es).bind fun _ => .ok
  | .dict es fs => exact (prepares_fail es).bind fun _ => (prepares_fail fs).bind fun _ => .ok
  | .member .. | .item .. | .call .. | .filter .. | .test .. | .sign .. | .not .. | .binary ..
  | .and .. | .or .. | .concat .. | .compare .. | .choose .. | .chooseSome .. =>
      exact settle_fails _

theorem prepares_fail {soft : Bool} (es : List Expr) :
    FailsOf Fault.OfMarkup (prepares s soft es) := by
  match es with
  | [] => exact .ok
  | e :: es => exact (prepare_fails e).bind fun _ => (prepares_fail es).bind fun _ => .ok

end

/-! ## Statements -/

theorem prepareOutput_fails {soft : Bool} (e : Expr) :
    FailsOf Fault.OfMarkup (prepareOutput s soft e) := by
  unfold prepareOutput
  split
  · split
    · exact .ok
    · exact (prepare_fails e).bind fun _ => .ok
  · exact (prepare_fails e).bind fun _ => .ok

theorem prepareTest_fails (e : Option Expr) : FailsOf Fault.OfMarkup (prepareTest s e) := by
  cases e with
  | none => exact .ok
  | some e => exact (prepare_fails e).bind fun _ => .ok

theorem prepareBlock_fails {soft : Bool} (b : TransBlock) :
    FailsOf Fault.OfMarkup (prepareBlock s soft b) :=
  ((FailsOf.mapM_option fold_fails b.count).mono fun _ => .inl).bind fun _ =>
    ((folds_fail b.values).mono fun _ => .inl).bind fun _ =>
      (FailsOf.mapM_option check_fails _).bind fun _ => (checks_fail _).bind fun _ => .ok

mutual

theorem compileOne_fails {soft : Bool} (a : Stmt) :
    FailsOf Fault.OfMarkup (compileOne s soft a) := by
  match a with
  | .text _ => exact .ok
  | .print e => exact prepareOutput_fails e
  | .branch test body orelse _ =>
      exact (prepare_fails test).bind fun _ => (compileAll_fails body).bind fun _ =>
        (compileAll_fails orelse).bind fun _ => .ok
  | .loop target line iter test body orelse =>
      refine (prepareTest_fails test).bind fun _ => ?_
      split
      · exact .error (.inr ⟨_, rfl⟩)
      · exact (prepare_fails iter).bind fun _ => (compileAll_fails body).bind fun _ =>
          (compileAll_fails orelse).bind fun _ => .ok
  | .set _ _ e | .include e _ _ => exact (prepare_fails e).bind fun _ => .ok
  | .trans b => exact (prepareBlock_fails b).bind fun _ => .ok

theorem compileAll_fails {soft : Bool} (ss : List Stmt) :
    FailsOf Fault.OfMarkup (compileAll s soft ss) := by
  match ss with
  | [] => exact .ok
  | a :: ss => exact (compileOne_fails a).bind fun _ => (compileAll_fails ss).bind fun _ => .ok

end

/-- Compiling fails of how values are used in constants, or refuses a line. -/
theorem compile_fails (text : List Char) : FailsOf Fault.OfMarkup (compile s text) := by
  unfold compile
  split
  · exact compileAll_fails _
  · exact .error (.inr ⟨_, rfl⟩)

end Template

end Stencil
