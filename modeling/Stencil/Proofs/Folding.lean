import Mathlib.Data.List.Forall2
import Stencil.Stateful
import Stencil.Template.Eval

/-!
# Constants computed before rendering

Compiling computes what is constant in an expression and puts the value in its place. The
parts are folded first, then the whole, then filters and tests are checked; here this is
brought to one relation between an expression and what is made of it. Either its value took
its place, or it was put together again from what was made of its parts.

Folding is sound: what is constant is what the compiled expression gives, whatever scope it
is evaluated in. Joining is the one operator that computes something else beforehand, since
constants are joined to plain text; but a joining of constants never stays, because a text
can always be written into a compiled template.

## Main definitions

* `Settles`: What compiling makes of an expression.
* `Folds`: What folding makes of it, before it is checked.
* `Constancy.Computes`: If something is constant, it is what a computation gives.
* `Constancy.applied`: What a filter or a test of constants computes.

## Theorems

* `fold_folds`: Folding and then checking settles an expression.
* `Settles.names`: A settled expression mentions the same names.
* `Settles.computes`: A constant is what the settled expression evaluates to.
-/

namespace Stencil

namespace Template

variable {s : Settings}

/-! ## What compiling makes of an expression -/

mutual

/-- What compiling makes of an expression: its value, or the expression put together from what
    compiling makes of its parts. A joining is only put together again if it varies. -/
inductive Settles (s : Settings) : Expr → Expr → Prop
  | folded {e : Expr} {v : Value} (h : constant s e = .value v) : Settles s e (settled e.names v)
  | const (v : Value) : Settles s (.const v) (.const v)
  | name (n : String) : Settles s (.name n) (.name n)
  | list {es es' : List Expr} (hes : SettleAll s es es') : Settles s (.list es) (.list es')
  | tuple {es es' : List Expr} (hes : SettleAll s es es') : Settles s (.tuple es) (.tuple es')
  | dict {es es' fs fs' : List Expr} (hes : SettleAll s es es') (hfs : SettleAll s fs fs') :
      Settles s (.dict es fs) (.dict es' fs')
  | member {e e' : Expr} (he : Settles s e e') (n : String) :
      Settles s (.member e n) (.member e' n)
  | item {e e' f f' : Expr} (he : Settles s e e') (hf : Settles s f f') :
      Settles s (.item e f) (.item e' f')
  | call {e e' : Expr} {es es' fs fs' : List Expr} (he : Settles s e e') (hes : SettleAll s es es')
      (keywords : List String) (hfs : SettleAll s fs fs') :
      Settles s (.call e es keywords fs) (.call e' es' keywords fs')
  | filter {e e' : Expr} {es es' fs fs' : List Expr} (he : Settles s e e') (n : String)
      (hes : SettleAll s es es') (keywords : List String) (hfs : SettleAll s fs fs') (line : Nat)
      (c : Bool) :
      Settles s (.filter e n es keywords fs line c)
        (.filter e' n es' keywords fs' line (isContextual s n))
  | test {e e' : Expr} {es es' fs fs' : List Expr} (he : Settles s e e') (n : String)
      (hes : SettleAll s es es') (keywords : List String) (hfs : SettleAll s fs fs') (line : Nat) :
      Settles s (.test e n es keywords fs line) (.test e' n es' keywords fs' line)
  | sign (minus : Bool) {e e' : Expr} (he : Settles s e e') :
      Settles s (.sign minus e) (.sign minus e')
  | not {e e' : Expr} (he : Settles s e e') : Settles s (.not e) (.not e')
  | binary (op : BinaryOp) {l l' r r' : Expr} (hl : Settles s l l') (hr : Settles s r r') :
      Settles s (.binary op l r) (.binary op l' r')
  | and {l l' r r' : Expr} (hl : Settles s l l') (hr : Settles s r r') :
      Settles s (.and l r) (.and l' r')
  | or {l l' r r' : Expr} (hl : Settles s l l') (hr : Settles s r r') :
      Settles s (.or l r) (.or l' r')
  | concat {es es' : List Expr} (h : constant s (.concat es) = .varies)
      (hes : SettleAll s es es') : Settles s (.concat es) (.concat es')
  | compare {e e' : Expr} {es es' : List Expr} (he : Settles s e e') (ops : List Comparison)
      (hes : SettleAll s es es') : Settles s (.compare e ops es) (.compare e' ops es')
  | choose {e e' l l' r r' : Expr} (he : Settles s e e') (hl : Settles s l l')
      (hr : Settles s r r') : Settles s (.choose e l r) (.choose e' l' r')
  | chooseSome {e e' l l' : Expr} (he : Settles s e e') (hl : Settles s l l') (line : Nat) :
      Settles s (.chooseSome e l line) (.chooseSome e' l' line)

/-- What compiling makes of expressions, one by one. -/
inductive SettleAll (s : Settings) : List Expr → List Expr → Prop
  | nil : SettleAll s [] []
  | cons {e e' : Expr} {es es' : List Expr} (he : Settles s e e') (hes : SettleAll s es es') :
      SettleAll s (e :: es) (e' :: es')

end

/-- What is mentioned where a value took the place of an expression. -/
theorem names_settled (names : List String) (v : Value) : (settled names v).names = names := by
  have hnames (ns : List String) : namesOfAll (ns.map .name) = ns := by
    induction ns with
    | nil => rfl
    | cons n ns ih => rw [List.map_cons, namesOfAll, ih, Expr.names, List.singleton_append]
  unfold settled
  split
  · rename_i hempty
    exact (List.isEmpty_iff.mp hempty).symm
  · simp only [Expr.names, List.nil_append, hnames]

theorem evaluate_settled (sc : Scope) (names : List String) (v : Value) :
    evaluate sc (settled names v) = .ok v := by
  unfold settled
  split
  · rfl
  · simp only [evaluate, Value.truth, bind, Except.bind, if_true]

mutual

/-- Compiling changes nothing in what an expression mentions. -/
theorem Settles.names {e e' : Expr} (h : Settles s e e') : e'.names = e.names := by
  cases h with
  | folded => exact names_settled _ _
  | const | name => rfl
  | list hes | tuple hes | concat _ hes => exact hes.names
  | dict hes hfs => rw [Expr.names, Expr.names, hes.names, hfs.names]
  | member he | sign _ he | not he => exact he.names
  | item he hf => rw [Expr.names, Expr.names, he.names, hf.names]
  | call he hes _ hfs => rw [Expr.names, Expr.names, he.names, hes.names, hfs.names]
  | filter he _ hes _ hfs => rw [Expr.names, Expr.names, he.names, hes.names, hfs.names]
  | test he _ hes _ hfs => rw [Expr.names, Expr.names, he.names, hes.names, hfs.names]
  | binary _ hl hr | and hl hr | or hl hr => rw [Expr.names, Expr.names, hl.names, hr.names]
  | compare he _ hes => rw [Expr.names, Expr.names, he.names, hes.names]
  | choose he hl hr => rw [Expr.names, Expr.names, he.names, hl.names, hr.names]
  | chooseSome he hl => rw [Expr.names, Expr.names, he.names, hl.names]

theorem SettleAll.names {es es' : List Expr} (h : SettleAll s es es') :
    namesOfAll es' = namesOfAll es := by
  cases h with
  | nil => rfl
  | cons he hes => rw [namesOfAll, namesOfAll, he.names, hes.names]

end

/-! ## Folding and checking -/

/-- What folding makes of an expression: as constant as before, with the same mentions, and
    settled once it is checked. -/
structure Folds (s : Settings) (e f : Expr) : Prop where
  constant : constant s f = constant s e
  names : f.names = e.names
  settles : ∀ soft e', check s soft f = .ok e' → Settles s e e'

theorem constant_settled (s : Settings) (names : List String) (v : Value) :
    constant s (settled names v) = .value v := by
  unfold settled
  split <;> rfl

theorem check_settled (s : Settings) (soft : Bool) (names : List String) (v : Value) :
    check s soft (settled names v) = .ok (settled names v) := by
  have hchecks (ns : List String) : checks s true (ns.map .name) = .ok (ns.map .name) := by
    induction ns with
    | nil => rfl
    | cons n ns ih =>
        rw [List.map_cons, checks, check, ih]
        rfl
  unfold settled
  split
  · rfl
  · simp only [check, hchecks, bind, Except.bind, pure, Except.pure]

/-- A value takes the place of an expression, or it stays: then there is no value that lasts, and
    nothing has come up. -/
theorem folds_of_foldOne {e g f : Expr} (h : foldOne s g = .ok f)
    (hconstant : constant s g = constant s e) (hnames : g.names = e.names)
    (hcheck : (∀ flt, constant s e ≠ .fails flt) →
      (∀ v, constant s e = .value v → isLasting v = false) →
      ∀ soft e', check s soft g = .ok e' → Settles s e e') : Folds s e f := by
  unfold foldOne at h
  rw [hconstant] at h
  cases hc : constant s e with
  -- A fault that comes up for sure ends the folding, so there would be no `f`.
  | fails flt =>
      rw [hc] at h
      cases h
  | varies =>
      rw [hc] at h
      cases h
      exact ⟨hconstant, hnames, hcheck (by rw [hc]; exact nofun) (by rw [hc]; exact nofun)⟩
  | value v =>
      rw [hc] at h
      simp only [Except.ok.injEq] at h
      split at h
      · subst h
        -- The value takes the place of the expression, with the names that it mentioned.
        refine ⟨by rw [constant_settled, hc], by rw [names_settled, hnames], fun soft e' he => ?_⟩
        rw [check_settled] at he
        cases he
        rw [hnames]
        exact .folded hc
      · rename_i hlasting
        subst h
        refine ⟨hconstant, hnames, hcheck (by rw [hc]; exact nofun) fun w hw => ?_⟩
        rw [hc] at hw
        cases hw
        exact Bool.eq_false_iff.mpr hlasting

section

variable {es fs : List Expr}

theorem constants_of_folds (h : List.Forall₂ (Folds s) es fs) : constants s fs = constants s es := by
  induction h with
  | nil => rfl
  | cons he _ ih => rw [constants, constants, he.constant, ih]

theorem constantEach_of_folds (h : List.Forall₂ (Folds s) es fs) :
    constantEach s fs = constantEach s es := by
  induction h with
  | nil => rfl
  | cons he _ ih => rw [constantEach, constantEach, he.constant, ih]

theorem constantChain_of_folds (h : List.Forall₂ (Folds s) es fs) (v : Value)
    (ops : List Comparison) : constantChain s v ops fs = constantChain s v ops es := by
  induction h generalizing v ops with
  | nil => rfl
  | cons he _ ih =>
      rw [constantChain, constantChain, he.constant]
      cases ops <;> simp only [ih]

theorem names_of_folds (h : List.Forall₂ (Folds s) es fs) : namesOfAll fs = namesOfAll es := by
  induction h with
  | nil => rfl
  | cons he _ ih => rw [namesOfAll, namesOfAll, he.names, ih]

theorem settleAll_of_folds (h : List.Forall₂ (Folds s) es fs) {soft : Bool} {es' : List Expr}
    (hes : checks s soft fs = .ok es') : SettleAll s es es' := by
  induction h generalizing es' with
  | nil =>
      cases hes
      exact .nil
  | cons he _ ih =>
      obtain ⟨e', he', hes⟩ := exists_of_bind_eq_ok hes
      obtain ⟨es'', hes', hes⟩ := exists_of_bind_eq_ok hes
      cases hes
      exact .cons (he.settles soft e' he') (ih hes')

/-- Joining gives a text, which lasts. -/
theorem isLasting_joinPlain {vs : List Value} {v : Value} (h : joinPlain vs = .ok v) :
    isLasting v = true := by
  obtain ⟨texts, -, h⟩ := exists_of_bind_eq_ok h
  cases h
  rfl

/-- A joining that stays varies, because a text would have taken its place. -/
theorem concat_varies (hfails : ∀ flt, constant s (.concat es) ≠ .fails flt)
    (hlasting : ∀ v, constant s (.concat es) = .value v → isLasting v = false) :
    constant s (.concat es) = .varies := by
  cases hc : constant s (.concat es) with
  | varies => rfl
  | fails flt => exact absurd hc (hfails flt)
  | value v =>
      have hno := hlasting v hc
      obtain ⟨vs, -, hjoin⟩ : ∃ vs, constants s es = .value vs ∧
          Constancy.ofExcept (joinPlain vs) = .value v := by
        rw [constant] at hc
        cases hvs : constants s es with
        | value vs =>
            rw [hvs] at hc
            exact ⟨vs, rfl, hc⟩
        | varies => rw [hvs] at hc; cases hc
        | fails flt => rw [hvs] at hc; cases hc
      cases hj : joinPlain vs with
      | error flt => rw [hj] at hjoin; cases hjoin
      | ok w =>
          rw [hj] at hjoin
          cases hjoin
          rw [isLasting_joinPlain hj] at hno
          cases hno

end

/-! Each way to put an expression together that has its like is said once: the parts are folded,
then the whole. What makes it one of the kind is that its constant goes by those of the parts, that
it mentions what they mention, and that it is checked part by part. -/

section

variable {e f l l₁ r r₁ : Expr} {es fs es₁ fs₁ : List Expr}

/-- One part. -/
theorem folds_one {k : Expr → Expr}
    (hconstant : ∀ {l'}, constant s l' = constant s l → constant s (k l') = constant s (k l))
    (hnames : ∀ l, (k l).names = l.names)
    (hcheck : ∀ soft l, check s soft (k l) = do return k (← check s soft l))
    (hsettles : ∀ {l'}, Settles s l l' → Settles s (k l) (k l')) (hl : Folds s l l₁)
    (h : foldOne s (k l₁) = .ok f) : Folds s (k l) f := by
  refine folds_of_foldOne h (hconstant hl.constant) (by rw [hnames, hnames, hl.names])
    fun _ _ soft e' he => ?_
  rw [hcheck] at he
  obtain ⟨l', hl', he⟩ := exists_of_bind_eq_ok he
  cases he
  exact hsettles (hl.settles soft l' hl')

/-- Two parts. -/
theorem folds_two {k : Expr → Expr → Expr}
    (hconstant : ∀ {l' r'}, constant s l' = constant s l → constant s r' = constant s r →
      constant s (k l' r') = constant s (k l r))
    (hnames : ∀ l r, (k l r).names = l.names ++ r.names)
    (hcheck : ∀ soft l r,
      check s soft (k l r) = do return k (← check s soft l) (← check s soft r))
    (hsettles : ∀ {l' r'}, Settles s l l' → Settles s r r' → Settles s (k l r) (k l' r'))
    (hl : Folds s l l₁) (hr : Folds s r r₁) (h : foldOne s (k l₁ r₁) = .ok f) :
    Folds s (k l r) f := by
  refine folds_of_foldOne h (hconstant hl.constant hr.constant)
    (by rw [hnames, hnames, hl.names, hr.names]) fun _ _ soft e' he => ?_
  rw [hcheck] at he
  obtain ⟨l', hl', he⟩ := exists_of_bind_eq_ok he
  obtain ⟨r', hr', he⟩ := exists_of_bind_eq_ok he
  cases he
  exact hsettles (hl.settles soft l' hl') (hr.settles soft r' hr')

/-- Any number of parts. -/
theorem folds_many {k : List Expr → Expr}
    (hconstant : constants s fs = constants s es → constant s (k fs) = constant s (k es))
    (hnames : ∀ es, (k es).names = namesOfAll es)
    (hcheck : ∀ soft es, check s soft (k es) = do return k (← checks s soft es))
    (hsettles : (∀ flt, constant s (k es) ≠ .fails flt) →
      (∀ v, constant s (k es) = .value v → isLasting v = false) →
      ∀ {es'}, SettleAll s es es' → Settles s (k es) (k es'))
    (hes : List.Forall₂ (Folds s) es fs) (h : foldOne s (k fs) = .ok f) : Folds s (k es) f := by
  refine folds_of_foldOne h (hconstant (constants_of_folds hes))
    (by rw [hnames, hnames, names_of_folds hes]) fun hfails hlasting soft e' he => ?_
  rw [hcheck] at he
  obtain ⟨es', hes', he⟩ := exists_of_bind_eq_ok he
  cases he
  exact hsettles hfails hlasting (settleAll_of_folds hes hes')

/-- A filter or a test with its arguments, which is checked if it is known. -/
theorem folds_applied {k k' : Expr → List Expr → List Expr → Expr}
    (hconstant : constant s l₁ = constant s l → constants s fs = constants s es →
      constants s fs₁ = constants s es₁ → constant s (k l₁ fs fs₁) = constant s (k l es es₁))
    (hnames : ∀ l es es₁, (k l es es₁).names = l.names ++ namesOfAll es ++ namesOfAll es₁)
    (hcheck : ∀ soft l es es₁ e', check s soft (k l es es₁) = .ok e' →
      (do return k' (← check s soft l) (← checks s soft es) (← checks s soft es₁)) = .ok e')
    (hsettles : ∀ {l' es' es₁'}, Settles s l l' → SettleAll s es es' → SettleAll s es₁ es₁' →
      Settles s (k l es es₁) (k' l' es' es₁'))
    (hl : Folds s l l₁) (hes : List.Forall₂ (Folds s) es fs)
    (hes₁ : List.Forall₂ (Folds s) es₁ fs₁) (h : foldOne s (k l₁ fs fs₁) = .ok f) :
    Folds s (k l es es₁) f := by
  refine folds_of_foldOne h
    (hconstant hl.constant (constants_of_folds hes) (constants_of_folds hes₁))
    (by rw [hnames, hnames, hl.names, names_of_folds hes, names_of_folds hes₁])
    fun _ _ soft e' he => ?_
  obtain ⟨l', hl', he⟩ := exists_of_bind_eq_ok (hcheck _ _ _ _ _ he)
  obtain ⟨es', hes', he⟩ := exists_of_bind_eq_ok he
  obtain ⟨es₁', hes₁', he⟩ := exists_of_bind_eq_ok he
  cases he
  exact hsettles (hl.settles soft l' hl') (settleAll_of_folds hes hes')
    (settleAll_of_folds hes₁ hes₁')

end

mutual

/-- Folding leaves an expression as constant as it was. -/
theorem fold_folds {e f : Expr} (h : fold s e = .ok f) : Folds s e f := by
  -- The cases are those of folding, which folds the parts before it looks at the whole. How the
  -- parts are bound in `h` tells which of the kinds above a case is of.
  match e with
  | .const v =>
      cases h
      exact ⟨rfl, rfl, fun _ _ he => by cases he; exact .const v⟩
  | .name n =>
      cases h
      exact ⟨rfl, rfl, fun _ _ he => by cases he; exact .name n⟩
  | .list es =>
      obtain ⟨fs, hes, h⟩ := exists_of_bind_eq_ok h
      exact folds_many (fun hes => by rw [constant, constant, hes]) (fun _ => rfl)
        (fun _ _ => rfl) (fun _ _ _ => .list) (folds_fold hes) h
  | .tuple es =>
      obtain ⟨fs, hes, h⟩ := exists_of_bind_eq_ok h
      exact folds_many (fun hes => by rw [constant, constant, hes]) (fun _ => rfl)
        (fun _ _ => rfl) (fun _ _ _ => .tuple) (folds_fold hes) h
  | .concat es =>
      obtain ⟨fs, hes, h⟩ := exists_of_bind_eq_ok h
      exact folds_many (fun hes => by rw [constant, constant, hes]) (fun _ => rfl)
        (fun _ _ => rfl) (fun hfails hlasting _ => .concat (concat_varies hfails hlasting))
        (folds_fold hes) h
  | .dict es es₁ =>
      obtain ⟨fs, hes, h⟩ := exists_of_bind_eq_ok h
      obtain ⟨fs₁, hes₁, h⟩ := exists_of_bind_eq_ok h
      have hes := folds_fold hes
      have hes₁ := folds_fold hes₁
      refine folds_of_foldOne h
        (by rw [constant, constant, constantEach_of_folds hes, constantEach_of_folds hes₁])
        (by rw [Expr.names, Expr.names, names_of_folds hes, names_of_folds hes₁])
        fun _ _ soft e' hcheck => ?_
      obtain ⟨es', hes', hcheck⟩ := exists_of_bind_eq_ok hcheck
      obtain ⟨es₁', hes₁', hcheck⟩ := exists_of_bind_eq_ok hcheck
      cases hcheck
      exact .dict (settleAll_of_folds hes hes') (settleAll_of_folds hes₁ hes₁')
  | .member e n =>
      obtain ⟨f₁, he, h⟩ := exists_of_bind_eq_ok h
      exact folds_one (k := fun e => .member e n) (fun he => by rw [constant, constant, he])
        (fun _ => rfl) (fun _ _ => rfl) (fun he => .member he n) (fold_folds he) h
  | .sign minus e =>
      obtain ⟨f₁, he, h⟩ := exists_of_bind_eq_ok h
      exact folds_one (fun he => by rw [constant, constant, he]) (fun _ => rfl) (fun _ _ => rfl)
        (.sign minus) (fold_folds he) h
  | .not e =>
      obtain ⟨f₁, he, h⟩ := exists_of_bind_eq_ok h
      exact folds_one (fun he => by rw [constant, constant, he]) (fun _ => rfl) (fun _ _ => rfl)
        .not (fold_folds he) h
  | .item l r =>
      obtain ⟨l₁, hl, h⟩ := exists_of_bind_eq_ok h
      obtain ⟨r₁, hr, h⟩ := exists_of_bind_eq_ok h
      exact folds_two (fun hl hr => by rw [constant, constant, hl, hr]) (fun _ _ => rfl)
        (fun _ _ _ => rfl) .item (fold_folds hl) (fold_folds hr) h
  | .binary op l r =>
      obtain ⟨l₁, hl, h⟩ := exists_of_bind_eq_ok h
      obtain ⟨r₁, hr, h⟩ := exists_of_bind_eq_ok h
      exact folds_two (fun hl hr => by rw [constant, constant, hl, hr]) (fun _ _ => rfl)
        (fun _ _ _ => rfl) (.binary op) (fold_folds hl) (fold_folds hr) h
  | .and l r =>
      obtain ⟨l₁, hl, h⟩ := exists_of_bind_eq_ok h
      obtain ⟨r₁, hr, h⟩ := exists_of_bind_eq_ok h
      exact folds_two (fun hl hr => by rw [constant, constant, hl, hr]) (fun _ _ => rfl)
        (fun _ _ _ => rfl) .and (fold_folds hl) (fold_folds hr) h
  | .or l r =>
      obtain ⟨l₁, hl, h⟩ := exists_of_bind_eq_ok h
      obtain ⟨r₁, hr, h⟩ := exists_of_bind_eq_ok h
      exact folds_two (fun hl hr => by rw [constant, constant, hl, hr]) (fun _ _ => rfl)
        (fun _ _ _ => rfl) .or (fold_folds hl) (fold_folds hr) h
  | .filter e n es keywords es₁ line c =>
      obtain ⟨f₁, he, h⟩ := exists_of_bind_eq_ok h
      obtain ⟨fs, hes, h⟩ := exists_of_bind_eq_ok h
      obtain ⟨fs₁, hes₁, h⟩ := exists_of_bind_eq_ok h
      -- An unknown filter is refused where it is checked, and the check says whether a known one
      -- needs the state of the rendering, so the two sides differ in that mark.
      refine folds_applied (k := fun e es es₁ => .filter e n es keywords es₁ line c)
        (fun he hes hes₁ => by rw [constant, constant, he, hes, hes₁]) (fun _ _ _ => rfl)
        (fun soft e es es₁ e' hcheck => ?_)
        (fun he hes hes₁ => .filter he n hes keywords hes₁ line c)
        (fold_folds he) (folds_fold hes) (folds_fold hes₁) h
      rw [check] at hcheck
      split at hcheck
      · cases hcheck
      · exact hcheck
  | .test e n es keywords es₁ line =>
      obtain ⟨f₁, he, h⟩ := exists_of_bind_eq_ok h
      obtain ⟨fs, hes, h⟩ := exists_of_bind_eq_ok h
      obtain ⟨fs₁, hes₁, h⟩ := exists_of_bind_eq_ok h
      refine folds_applied (k := fun e es es₁ => .test e n es keywords es₁ line)
        (fun he hes hes₁ => by rw [constant, constant, he, hes, hes₁]) (fun _ _ _ => rfl)
        (fun soft e es es₁ e' hcheck => ?_) (fun he hes hes₁ => .test he n hes keywords hes₁ line)
        (fold_folds he) (folds_fold hes) (folds_fold hes₁) h
      rw [check] at hcheck
      split at hcheck
      · cases hcheck
      · exact hcheck
  | .call e es keywords es₁ =>
      obtain ⟨f₁, he, h⟩ := exists_of_bind_eq_ok h
      obtain ⟨fs, hes, h⟩ := exists_of_bind_eq_ok h
      obtain ⟨fs₁, hes₁, h⟩ := exists_of_bind_eq_ok h
      -- A call is never constant, so there is no value that could take its place.
      have he := fold_folds he
      have hes := folds_fold hes
      have hes₁ := folds_fold hes₁
      cases h
      refine ⟨rfl, by rw [Expr.names, Expr.names, he.names, names_of_folds hes,
        names_of_folds hes₁], fun soft e' hcheck => ?_⟩
      obtain ⟨e₁, he₁, hcheck⟩ := exists_of_bind_eq_ok hcheck
      obtain ⟨es', hes', hcheck⟩ := exists_of_bind_eq_ok hcheck
      obtain ⟨es₁', hes₁', hcheck⟩ := exists_of_bind_eq_ok hcheck
      cases hcheck
      exact .call (he.settles soft e₁ he₁) (settleAll_of_folds hes hes') keywords
        (settleAll_of_folds hes₁ hes₁')
  | .compare e ops es =>
      obtain ⟨f₁, he, h⟩ := exists_of_bind_eq_ok h
      obtain ⟨fs, hes, h⟩ := exists_of_bind_eq_ok h
      have he := fold_folds he
      have hes := folds_fold hes
      refine folds_of_foldOne h (by simp only [constant, he.constant, constantChain_of_folds hes])
        (by rw [Expr.names, Expr.names, he.names, names_of_folds hes]) fun _ _ soft e' hcheck => ?_
      obtain ⟨e₁, he₁, hcheck⟩ := exists_of_bind_eq_ok hcheck
      obtain ⟨es', hes', hcheck⟩ := exists_of_bind_eq_ok hcheck
      cases hcheck
      exact .compare (he.settles soft e₁ he₁) ops (settleAll_of_folds hes hes')
  | .choose e l r =>
      obtain ⟨f₁, he, h⟩ := exists_of_bind_eq_ok h
      obtain ⟨f₂, hl, h⟩ := exists_of_bind_eq_ok h
      obtain ⟨f₃, hr, h⟩ := exists_of_bind_eq_ok h
      have he := fold_folds he
      have hl := fold_folds hl
      have hr := fold_folds hr
      refine folds_of_foldOne h (by rw [constant, constant, he.constant, hl.constant, hr.constant])
        (by rw [Expr.names, Expr.names, he.names, hl.names, hr.names]) fun _ _ soft e' hcheck => ?_
      -- The first branch is checked before its condition, and all three are checked softly.
      obtain ⟨l', hl', hcheck⟩ := exists_of_bind_eq_ok hcheck
      obtain ⟨e₁, he₁, hcheck⟩ := exists_of_bind_eq_ok hcheck
      obtain ⟨r', hr', hcheck⟩ := exists_of_bind_eq_ok hcheck
      cases hcheck
      exact .choose (he.settles true e₁ he₁) (hl.settles true l' hl') (hr.settles true r' hr')
  | .chooseSome e l line =>
      obtain ⟨f₁, he, h⟩ := exists_of_bind_eq_ok h
      obtain ⟨f₂, hl, h⟩ := exists_of_bind_eq_ok h
      have he := fold_folds he
      have hl := fold_folds hl
      refine folds_of_foldOne h (by rw [constant, constant, he.constant, hl.constant])
        (by rw [Expr.names, Expr.names, he.names, hl.names]) fun _ _ soft e' hcheck => ?_
      obtain ⟨l', hl', hcheck⟩ := exists_of_bind_eq_ok hcheck
      obtain ⟨e₁, he₁, hcheck⟩ := exists_of_bind_eq_ok hcheck
      cases hcheck
      exact .chooseSome (he.settles true e₁ he₁) (hl.settles true l' hl') line

theorem folds_fold {es fs : List Expr} (h : folds s es = .ok fs) :
    List.Forall₂ (Folds s) es fs := by
  match es with
  | [] =>
      cases h
      exact .nil
  | e :: es =>
      obtain ⟨f, hf, h⟩ := exists_of_bind_eq_ok h
      obtain ⟨fs', hfs, h⟩ := exists_of_bind_eq_ok h
      cases h
      exact .cons (fold_folds hf) (folds_fold hfs)

end

/-! ## Constants are what is evaluated -/

/-- If something is constant, it is what a computation gives. -/
def Constancy.Computes {α : Type} (c : Constancy α) (r : Except Fault α) : Prop :=
  ∀ x, c = .value x → r = .ok x

namespace Constancy.Computes

variable {α β : Type} {c : Constancy α} {r : Except Fault α}

theorem value (x : α) : (Pure.pure x : Constancy α).Computes (.ok x) := by
  intro y hy
  cases hy
  rfl

theorem varies : (Constancy.varies : Constancy α).Computes r := nofun

theorem bind {f : α → Constancy β} {g : α → Except Fault β} (h : c.Computes r)
    (hf : ∀ x, (f x).Computes (g x)) : (c >>= f).Computes (r >>= g) := by
  cases c with
  | value x =>
      rw [h x rfl]
      exact hf x
  | varies => exact varies
  | fails e => exact nofun

theorem lenient (h : c.Computes r) : c.lenient.Computes r := by
  cases c with
  | fails e => exact varies
  | _ => exact h

theorem ofExcept (r : Except Fault α) : (Constancy.ofExcept r).Computes r := by
  cases r with
  | ok x => exact value x
  | error e => exact nofun

theorem ite {p : Prop} [Decidable p] {c₁ c₂ : Constancy α} {r₁ r₂ : Except Fault α}
    (h₁ : c₁.Computes r₁) (h₂ : c₂.Computes r₂) :
    (if p then c₁ else c₂).Computes (if p then r₁ else r₂) := by
  split
  · exact h₁
  · exact h₂

end Constancy.Computes

theorem Constancy.exists_of_bind_eq_value {α β : Type} {c : Constancy α} {f : α → Constancy β}
    {y : β} (h : c >>= f = .value y) : ∃ x, c = .value x ∧ f x = .value y := by
  cases c with
  | value x => exact ⟨x, rfl, h⟩
  | varies => cases h
  | fails e => cases h

/-- The filter that translates is not among those that can be computed beforehand. -/
theorem ne_transName {n : String} (h : Filter.names.contains n = true) : n ≠ Filter.transName := by
  rintro rfl
  exact absurd h (by decide)

variable {sc : Scope}

theorem applyFilter_of_run? {n : String} (hn : Filter.names.contains n = true) (c : Bool)
    (args : List Value) (keywords : List (String × Value)) :
    applyFilter sc n c args keywords =
      (Filter.run? sc.strict n args keywords).getD (.error (.noFilter n)) :=
  if_neg (ne_transName hn)

theorem applyTest_of_run? {n : String} {args : List Value} {keywords : List (String × Value)}
    {r : Except Fault Value} (h : Test.run? n args keywords = some r) :
    applyTest n args keywords = r := by
  rw [applyTest, h]
  rfl

/-- A known filter or test, computed from what its arguments are if they are constant. -/
def Constancy.applied (known : Bool) (args values : Constancy (List Value)) (v : Constancy Value)
    (run : List Value → List Value → Option (Except Fault Value)) : Constancy Value :=
  if known then do
    let args ← args
    let values ← values
    let v ← v
    match run (v :: args) values with
    | some r => lenient (ofExcept r)
    | none => .varies
  else .varies

theorem constant_filter (s : Settings) (e : Expr) (n : String) (es : List Expr)
    (keywords : List String) (fs : List Expr) (line : Nat) (c : Bool) :
    constant s (.filter e n es keywords fs line c) =
      .applied (Filter.names.contains n) (constants s es) (constants s fs) (constant s e)
        fun args values => Filter.run? s.strict n args (keywords.zip values) := by
  rw [constant]
  rfl

theorem constant_test (s : Settings) (e : Expr) (n : String) (es : List Expr)
    (keywords : List String) (fs : List Expr) (line : Nat) :
    constant s (.test e n es keywords fs line) =
      .applied (Test.names.contains n) (constants s es) (constants s fs) (constant s e)
        fun args values => Test.run? n args (keywords.zip values) := by
  rw [constant]
  rfl

/-- The parts are computed in another order than they are evaluated in. -/
theorem Constancy.applied_computes {known : Bool} {args values : Constancy (List Value)}
    {v : Constancy Value} {run : List Value → List Value → Option (Except Fault Value)}
    {args' values' : Except Fault (List Value)} {v' : Except Fault Value}
    {f : List Value → List Value → Except Fault Value} (hargs : args.Computes args')
    (hvalues : values.Computes values') (hv : v.Computes v')
    (hf : known = true → ∀ vs us r, run vs us = some r → f vs us = r) :
    (applied known args values v run).Computes (do
      let v ← v'
      let args ← args'
      f (v :: args) (← values')) := by
  intro x hx
  unfold applied at hx
  split at hx
  · rename_i hknown
    obtain ⟨as, has, hx⟩ := exists_of_bind_eq_value hx
    obtain ⟨us, hus, hx⟩ := exists_of_bind_eq_value hx
    obtain ⟨w, hw, hx⟩ := exists_of_bind_eq_value hx
    -- All three are values, so the order does not show.
    rw [hv w hw, hargs as has, hvalues us hus]
    split at hx
    · rename_i r hr
      exact (hf hknown _ _ r hr).trans ((Computes.ofExcept r).lenient x hx)
    · cases hx
  · cases hx

/-- A mapping that could be made has no key that is refused. -/
theorem keyFault?_of_makeDict {keys values : List Value} {v : Value}
    (h : makeDict keys values = .ok v) : keys.findSome? Value.keyFault? = none := by
  unfold makeDict at h
  split at h
  · cases h
  · assumption

/-- The keys that are checked one by one are those that can be put into a mapping. -/
theorem Constancy.entriesInOrder_computes {ks vs : List (Constancy Value)}
    {ks' vs' : List (Except Fault Value)} (hks : List.Forall₂ Computes ks ks')
    (hvs : List.Forall₂ Computes vs vs') :
    Computes (entriesInOrder (fun k => ((Value.keyFault? k).map .fails).getD (.value ())) ks vs)
      (entriesInOrder (fun _ => .ok ()) ks' vs') := by
  induction hks generalizing vs vs' with
  | nil => exact .value _
  | cons hk _ ih =>
      cases hvs with
      | nil => exact .value _
      | cons hv hvs =>
          refine hk.bind fun k => hv.bind fun v => ?_
          -- Folding checks each key where it stands, evaluation all of them when the mapping is
          -- made.
          have hcheck : Computes (((Value.keyFault? k).map .fails).getD (.value ())) (.ok ()) :=
            fun _ _ => rfl
          exact hcheck.bind fun _ => (ih hvs).bind fun _ => .value _

mutual

/-- What is constant is what the compiled expression gives, wherever it is evaluated. -/
theorem Settles.computes {e e' : Expr} (hsc : sc.strict = s.strict) (h : Settles s e e') :
    (constant s e).Computes (evaluate sc e') := by
  cases h with
  | folded h =>
      intro x hx
      rw [h] at hx
      cases hx
      exact evaluate_settled sc _ _
  | const v => exact .value v
  | name | call => exact .varies
  | list hes => exact (hes.computes hsc).bind fun _ => .value _
  | tuple hes => exact (hes.computes hsc).bind fun _ => .value _
  | dict hes hfs =>
      exact (Constancy.entriesInOrder_computes (hes.computesEach hsc) (hfs.computesEach hsc)).bind
        fun _ => .ofExcept _
  | member he n =>
      refine .lenient ((he.computes hsc).bind fun v => ?_)
      rw [hsc]
      exact .ofExcept _
  | item he hf =>
      refine .lenient ((he.computes hsc).bind fun v => (hf.computes hsc).bind fun w => ?_)
      rw [hsc]
      exact .ofExcept _
  | filter he n hes keywords hfs line c =>
      rw [constant_filter, evaluate]
      refine Constancy.applied_computes (hes.computes hsc) (hfs.computes hsc) (he.computes hsc)
        (f := fun args values => applyFilter sc n (isContextual s n) args (keywords.zip values))
        fun hn vs us r hr => ?_
      rw [applyFilter_of_run? hn, hsc, hr]
      rfl
  | test he n hes keywords hfs line =>
      rw [constant_test, evaluate]
      exact Constancy.applied_computes (hes.computes hsc) (hfs.computes hsc) (he.computes hsc)
        fun _ _ _ _ hr => applyTest_of_run? hr
  | sign minus he => exact .lenient ((he.computes hsc).bind fun _ => .ofExcept _)
  | not he =>
      exact .lenient ((he.computes hsc).bind fun _ => (Constancy.Computes.ofExcept _).bind
        fun _ => .value _)
  | binary op hl hr =>
      exact .lenient ((hl.computes hsc).bind fun _ => (hr.computes hsc).bind fun _ => .ofExcept _)
  | and hl hr =>
      exact (hl.computes hsc).bind fun v => (Constancy.Computes.ofExcept _).bind fun _ =>
        .ite (hr.computes hsc) (.value v)
  | or hl hr =>
      exact (hl.computes hsc).bind fun v => (Constancy.Computes.ofExcept _).bind fun _ =>
        .ite (.value v) (hr.computes hsc)
  | concat h hes =>
      rw [h]
      exact .varies
  | compare he ops hes =>
      exact .lenient ((he.computes hsc).bind fun v => (hes.computesChain hsc v ops).bind
        fun _ => .value _)
  | choose he hl hr =>
      exact (he.computes hsc).bind fun _ => (Constancy.Computes.ofExcept _).bind fun _ =>
        .ite (hl.computes hsc) (hr.computes hsc)
  | chooseSome he hl line =>
      exact (he.computes hsc).bind fun _ => (Constancy.Computes.ofExcept _).bind fun _ =>
        .ite (hl.computes hsc) .varies

theorem SettleAll.computes {es es' : List Expr} (hsc : sc.strict = s.strict)
    (h : SettleAll s es es') : (constants s es).Computes (evaluateAll sc es') := by
  cases h with
  | nil => exact .value []
  | cons he hes => exact (he.computes hsc).bind fun _ => (hes.computes hsc).bind fun _ => .value _

theorem SettleAll.computesEach {es es' : List Expr} (hsc : sc.strict = s.strict)
    (h : SettleAll s es es') :
    List.Forall₂ Constancy.Computes (constantEach s es) (evaluateEach sc es') := by
  cases h with
  | nil => exact .nil
  | cons he hes => exact .cons (he.computes hsc) (hes.computesEach hsc)

theorem SettleAll.computesChain {es es' : List Expr} (hsc : sc.strict = s.strict)
    (h : SettleAll s es es') (v : Value) (ops : List Comparison) :
    (constantChain s v ops es).Computes (evaluateChain sc v ops es') := by
  cases h with
  | nil => exact .value true
  | cons he hes =>
      rw [constantChain, evaluateChain]
      refine (he.computes hsc).bind fun w => ?_
      cases ops with
      | nil => exact .value true
      | cons op ops =>
          exact (Constancy.Computes.ofExcept _).bind fun _ =>
            .ite (hes.computesChain hsc w ops) (.value false)

end

end Template

end Stencil
