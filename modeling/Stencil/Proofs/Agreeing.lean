import Stencil.Proofs.Pairing

/-!
# Two compilations for one rendering

The same expression is compiled in one way where it is printed and in another where it
belongs to a translatable block. An output takes the items of lists, tuples and mappings
one by one, a block folds the whole. So one may have a value where the other has an
expression. They evaluate alike all the same, also in two scopes that differ in names that
the expression does not mention.

## Main definitions

* `Scope.AgreeOn`: Two scopes in which some names are bound alike.
* `Expr.Evaluates`: An expression that has a value in a scope.

## Theorems

* `Settles.agree`: Two compilations of an expression evaluate alike.
* `Expr.Evaluates.folded`: The value of an expression in a block.
* `Expr.Evaluates.output`: What its output shows.
-/

namespace Stencil

namespace Template

/-- Two scopes that differ at most in names beyond the given ones. -/
structure Scope.AgreeOn (ns : List String) (sc sc' : Scope) : Prop where
  strict : sc'.strict = sc.strict
  template : sc'.template = sc.template
  translations : sc'.translations = sc.translations
  transFilter : sc'.transFilter = sc.transFilter
  gettext : sc'.findOuter "gettext" = sc.findOuter "gettext"
  find : ∀ n ∈ ns, sc'.find n = sc.find n

namespace Scope.AgreeOn

variable {ns ms : List String} {sc sc' : Scope}

theorem refl (ns : List String) (sc : Scope) : AgreeOn ns sc sc :=
  ⟨rfl, rfl, rfl, rfl, rfl, fun _ _ => rfl⟩

theorem left (h : AgreeOn (ns ++ ms) sc sc') : AgreeOn ns sc sc' :=
  { h with find := fun n hn => h.find n (List.mem_append_left _ hn) }

theorem right (h : AgreeOn (ns ++ ms) sc sc') : AgreeOn ms sc sc' :=
  { h with find := fun n hn => h.find n (List.mem_append_right _ hn) }

theorem mem {e : Expr} {es : List Expr} (h : AgreeOn (namesOfAll es) sc sc') (he : e ∈ es) :
    AgreeOn e.names sc sc' := by
  induction es with
  | nil => cases he
  | cons f es ih =>
      rw [namesOfAll] at h
      rcases List.mem_cons.mp he with rfl | he
      · exact h.left
      · exact ih h.right he

theorem value (h : AgreeOn ns sc sc') {n : String} (hn : n ∈ ns) : sc'.value n = sc.value n := by
  rw [Scope.value, Scope.value, h.find n hn, h.strict]

theorem applyCall (h : AgreeOn ns sc sc') (f : Value) (args : List Value)
    (keywords : List (String × Value)) :
    applyCall sc' f args keywords = applyCall sc f args keywords := by
  unfold Template.applyCall
  rw [h.gettext, h.translations, h.strict]

theorem applyFilter (h : AgreeOn ns sc sc') (n : String) (c : Bool) (args : List Value)
    (keywords : List (String × Value)) :
    applyFilter sc' n c args keywords = applyFilter sc n c args keywords := by
  unfold Template.applyFilter Template.transFilter
  rw [h.transFilter, h.translations, h.strict]

end Scope.AgreeOn

/-! ## Evaluating alike -/

section

variable {s : Settings} {sc sc' : Scope}

/-- Computations that start alike and go on alike. -/
theorem then_eq {α β : Type} {x y : Except Fault α} {f g : α → Except Fault β} (h : y = x)
    (hf : ∀ a, g a = f a) : y >>= g = x >>= f := by
  rw [h, funext hf]

/-- What compiling makes of an expression that is not constant: it is put together again. -/
def Remade (s : Settings) : Expr → Expr → Prop
  | .const _, _ => False
  | .name n, e' => e' = .name n
  | .list es, e' => ∃ es', SettleAll s es es' ∧ e' = .list es'
  | .tuple es, e' => ∃ es', SettleAll s es es' ∧ e' = .tuple es'
  | .dict es fs, e' => ∃ es' fs', SettleAll s es es' ∧ SettleAll s fs fs' ∧ e' = .dict es' fs'
  | .member e n, e' => ∃ f, Settles s e f ∧ e' = .member f n
  | .item e f, e' => ∃ g h, Settles s e g ∧ Settles s f h ∧ e' = .item g h
  | .call e es keywords fs, e' => ∃ f es' fs', Settles s e f ∧ SettleAll s es es' ∧
      SettleAll s fs fs' ∧ e' = .call f es' keywords fs'
  | .filter e n es keywords fs line _, e' => ∃ f es' fs', Settles s e f ∧ SettleAll s es es' ∧
      SettleAll s fs fs' ∧ e' = .filter f n es' keywords fs' line (isContextual s n)
  | .test e n es keywords fs line, e' => ∃ f es' fs', Settles s e f ∧ SettleAll s es es' ∧
      SettleAll s fs fs' ∧ e' = .test f n es' keywords fs' line
  | .sign minus e, e' => ∃ f, Settles s e f ∧ e' = .sign minus f
  | .not e, e' => ∃ f, Settles s e f ∧ e' = .not f
  | .binary op l r, e' => ∃ l' r', Settles s l l' ∧ Settles s r r' ∧ e' = .binary op l' r'
  | .and l r, e' => ∃ l' r', Settles s l l' ∧ Settles s r r' ∧ e' = .and l' r'
  | .or l r, e' => ∃ l' r', Settles s l l' ∧ Settles s r r' ∧ e' = .or l' r'
  | .concat es, e' => ∃ es', SettleAll s es es' ∧ e' = .concat es'
  | .compare e ops es, e' => ∃ f es', Settles s e f ∧ SettleAll s es es' ∧ e' = .compare f ops es'
  | .choose e l r, e' => ∃ f l' r', Settles s e f ∧ Settles s l l' ∧ Settles s r r' ∧
      e' = .choose f l' r'
  | .chooseSome e l line, e' => ∃ f l', Settles s e f ∧ Settles s l l' ∧ e' = .chooseSome f l' line

theorem Settles.remade {e e' : Expr} (h : Settles s e e')
    (hvaries : ¬ ∃ v, constant s e = .value v) : Remade s e e' := by
  cases h with
  | folded hv => exact absurd ⟨_, hv⟩ hvaries
  | const v => exact hvaries ⟨v, rfl⟩
  | name => rfl
  | list hes | tuple hes | concat _ hes => exact ⟨_, hes, rfl⟩
  | dict hes hfs => exact ⟨_, _, hes, hfs, rfl⟩
  | member he | sign _ he | not he => exact ⟨_, he, rfl⟩
  | item he hf => exact ⟨_, _, he, hf, rfl⟩
  | call he hes _ hfs | filter he _ hes _ hfs | test he _ hes _ hfs =>
      exact ⟨_, _, _, he, hes, hfs, rfl⟩
  | binary _ hl hr | and hl hr | or hl hr | chooseSome hl hr => exact ⟨_, _, hl, hr, rfl⟩
  | compare he _ hes => exact ⟨_, _, he, hes, rfl⟩
  | choose he hl hr => exact ⟨_, _, _, he, hl, hr, rfl⟩

theorem SettleAll.exists_of_cons {e : Expr} {es es' : List Expr} (h : SettleAll s (e :: es) es') :
    ∃ f fs, Settles s e f ∧ SettleAll s es fs ∧ es' = f :: fs := by
  cases h with
  | cons he hes => exact ⟨_, _, he, hes, rfl⟩

theorem SettleAll.eq_nil {es : List Expr} (h : SettleAll s [] es) : es = [] := by
  cases h
  rfl

mutual

/-- Two compilations of an expression evaluate alike, in scopes that bind its names alike. -/
theorem Settles.agree (hsc : sc.strict = s.strict) {e e₁ e₂ : Expr}
    (h : Scope.AgreeOn e.names sc sc') (h₁ : Settles s e e₁) (h₂ : Settles s e e₂) :
    evaluate sc' e₂ = evaluate sc e₁ := by
  by_cases hvaries : ∃ v, constant s e = .value v
  · -- Both have the value, or what computes it.
    obtain ⟨v, hv⟩ := hvaries
    rw [h₁.computes hsc v hv, h₂.computes (h.strict.trans hsc) v hv]
  · replace h₁ := h₁.remade hvaries
    replace h₂ := h₂.remade hvaries
    -- Both are put together again from the same parts. The induction is on the expression and not
    -- on how it was compiled, because there are two compilations of it.
    match e with
    | .const v => exact absurd ⟨v, rfl⟩ hvaries
    | .name n =>
        cases h₁
        cases h₂
        exact congrArg Except.ok (h.value (List.mem_singleton_self n))
    | .list es =>
        obtain ⟨es₁, hes, rfl⟩ := h₁
        obtain ⟨es₂, hes', rfl⟩ := h₂
        exact then_eq (SettleAll.agree hsc h hes hes') fun _ => rfl
    | .tuple es =>
        obtain ⟨es₁, hes, rfl⟩ := h₁
        obtain ⟨es₂, hes', rfl⟩ := h₂
        exact then_eq (SettleAll.agree hsc h hes hes') fun _ => rfl
    | .dict es fs =>
        obtain ⟨es₁, fs₁, hes, hfs, rfl⟩ := h₁
        obtain ⟨es₂, fs₂, hes', hfs', rfl⟩ := h₂
        rw [Expr.names] at h
        rw [evaluate, evaluate, SettleAll.agreeEach hsc h.left hes hes',
          SettleAll.agreeEach hsc h.right hfs hfs']
    | .member e n =>
        obtain ⟨e₁, he, rfl⟩ := h₁
        obtain ⟨e₂, he', rfl⟩ := h₂
        rw [Expr.names] at h
        exact then_eq (Settles.agree hsc h he he') fun v => by rw [h.strict]
    | .item e f =>
        obtain ⟨e₁, f₁, he, hf, rfl⟩ := h₁
        obtain ⟨e₂, f₂, he', hf', rfl⟩ := h₂
        rw [Expr.names] at h
        exact then_eq (Settles.agree hsc h.left he he') fun v =>
          then_eq (Settles.agree hsc h.right hf hf') fun w => by rw [h.strict]
    | .call e es keywords fs =>
        obtain ⟨e₁, es₁, fs₁, he, hes, hfs, rfl⟩ := h₁
        obtain ⟨e₂, es₂, fs₂, he', hes', hfs', rfl⟩ := h₂
        rw [Expr.names] at h
        exact then_eq (Settles.agree hsc h.left.left he he') fun f =>
          then_eq (SettleAll.agree hsc h.left.right hes hes') fun vs =>
            then_eq (SettleAll.agree hsc h.right hfs hfs') fun us => h.applyCall f vs _
    | .filter e n es keywords fs line c =>
        obtain ⟨e₁, es₁, fs₁, he, hes, hfs, rfl⟩ := h₁
        obtain ⟨e₂, es₂, fs₂, he', hes', hfs', rfl⟩ := h₂
        rw [Expr.names] at h
        exact then_eq (Settles.agree hsc h.left.left he he') fun v =>
          then_eq (SettleAll.agree hsc h.left.right hes hes') fun vs =>
            then_eq (SettleAll.agree hsc h.right hfs hfs') fun us => h.applyFilter n _ _ _
    | .test e n es keywords fs line =>
        obtain ⟨e₁, es₁, fs₁, he, hes, hfs, rfl⟩ := h₁
        obtain ⟨e₂, es₂, fs₂, he', hes', hfs', rfl⟩ := h₂
        rw [Expr.names] at h
        exact then_eq (Settles.agree hsc h.left.left he he') fun v =>
          then_eq (SettleAll.agree hsc h.left.right hes hes') fun vs =>
            then_eq (SettleAll.agree hsc h.right hfs hfs') fun us => rfl
    | .sign minus e =>
        obtain ⟨e₁, he, rfl⟩ := h₁
        obtain ⟨e₂, he', rfl⟩ := h₂
        rw [Expr.names] at h
        exact then_eq (Settles.agree hsc h he he') fun _ => rfl
    | .not e =>
        obtain ⟨e₁, he, rfl⟩ := h₁
        obtain ⟨e₂, he', rfl⟩ := h₂
        rw [Expr.names] at h
        exact then_eq (Settles.agree hsc h he he') fun _ => rfl
    | .binary op l r =>
        obtain ⟨l₁, r₁, hl, hr, rfl⟩ := h₁
        obtain ⟨l₂, r₂, hl', hr', rfl⟩ := h₂
        rw [Expr.names] at h
        exact then_eq (Settles.agree hsc h.left hl hl') fun v =>
          then_eq (Settles.agree hsc h.right hr hr') fun w => rfl
    | .and l r =>
        obtain ⟨l₁, r₁, hl, hr, rfl⟩ := h₁
        obtain ⟨l₂, r₂, hl', hr', rfl⟩ := h₂
        rw [Expr.names] at h
        -- The right operand is evaluated in one branch only.
        exact then_eq (Settles.agree hsc h.left hl hl') fun v => then_eq rfl fun b =>
          if_congr Iff.rfl (Settles.agree hsc h.right hr hr') rfl
    | .or l r =>
        obtain ⟨l₁, r₁, hl, hr, rfl⟩ := h₁
        obtain ⟨l₂, r₂, hl', hr', rfl⟩ := h₂
        rw [Expr.names] at h
        exact then_eq (Settles.agree hsc h.left hl hl') fun v => then_eq rfl fun b =>
          if_congr Iff.rfl rfl (Settles.agree hsc h.right hr hr')
    | .concat es =>
        obtain ⟨es₁, hes, rfl⟩ := h₁
        obtain ⟨es₂, hes', rfl⟩ := h₂
        exact then_eq (SettleAll.agree hsc h hes hes') fun _ => rfl
    | .compare e ops es =>
        obtain ⟨e₁, es₁, he, hes, rfl⟩ := h₁
        obtain ⟨e₂, es₂, he', hes', rfl⟩ := h₂
        rw [Expr.names] at h
        exact then_eq (Settles.agree hsc h.left he he') fun v =>
          then_eq (SettleAll.agreeChain hsc h.right hes hes' v ops) fun _ => rfl
    | .choose e l r =>
        obtain ⟨e₁, l₁, r₁, he, hl, hr, rfl⟩ := h₁
        obtain ⟨e₂, l₂, r₂, he', hl', hr', rfl⟩ := h₂
        rw [Expr.names] at h
        exact then_eq (Settles.agree hsc h.left.left he he') fun v => then_eq rfl fun b =>
          if_congr Iff.rfl (Settles.agree hsc h.left.right hl hl')
            (Settles.agree hsc h.right hr hr')
    | .chooseSome e l line =>
        obtain ⟨e₁, l₁, he, hl, rfl⟩ := h₁
        obtain ⟨e₂, l₂, he', hl', rfl⟩ := h₂
        rw [Expr.names] at h
        exact then_eq (Settles.agree hsc h.left he he') fun v => then_eq rfl fun b =>
          if_congr Iff.rfl (Settles.agree hsc h.right hl hl') (by rw [h.template])
termination_by structural e

theorem SettleAll.agree (hsc : sc.strict = s.strict) {es es₁ es₂ : List Expr}
    (h : Scope.AgreeOn (namesOfAll es) sc sc') (h₁ : SettleAll s es es₁)
    (h₂ : SettleAll s es es₂) : evaluateAll sc' es₂ = evaluateAll sc es₁ := by
  match es with
  | [] =>
      cases h₁.eq_nil
      cases h₂.eq_nil
      rfl
  | e :: es =>
      obtain ⟨e₁, fs₁, he, hes, rfl⟩ := h₁.exists_of_cons
      obtain ⟨e₂, fs₂, he', hes', rfl⟩ := h₂.exists_of_cons
      rw [namesOfAll] at h
      exact then_eq (Settles.agree hsc h.left he he') fun v =>
        then_eq (SettleAll.agree hsc h.right hes hes') fun _ => rfl
termination_by structural es

theorem SettleAll.agreeEach (hsc : sc.strict = s.strict) {es es₁ es₂ : List Expr}
    (h : Scope.AgreeOn (namesOfAll es) sc sc') (h₁ : SettleAll s es es₁)
    (h₂ : SettleAll s es es₂) : evaluateEach sc' es₂ = evaluateEach sc es₁ := by
  match es with
  | [] =>
      cases h₁.eq_nil
      cases h₂.eq_nil
      rfl
  | e :: es =>
      obtain ⟨e₁, fs₁, he, hes, rfl⟩ := h₁.exists_of_cons
      obtain ⟨e₂, fs₂, he', hes', rfl⟩ := h₂.exists_of_cons
      rw [namesOfAll] at h
      rw [evaluateEach, evaluateEach, Settles.agree hsc h.left he he',
        SettleAll.agreeEach hsc h.right hes hes']
termination_by structural es

theorem SettleAll.agreeChain (hsc : sc.strict = s.strict) {es es₁ es₂ : List Expr}
    (h : Scope.AgreeOn (namesOfAll es) sc sc') (h₁ : SettleAll s es es₁)
    (h₂ : SettleAll s es es₂) (v : Value) (ops : List Comparison) :
    evaluateChain sc' v ops es₂ = evaluateChain sc v ops es₁ := by
  match es with
  | [] =>
      cases h₁.eq_nil
      cases h₂.eq_nil
      rfl
  | e :: es =>
      obtain ⟨e₁, fs₁, he, hes, rfl⟩ := h₁.exists_of_cons
      obtain ⟨e₂, fs₂, he', hes', rfl⟩ := h₂.exists_of_cons
      rw [namesOfAll] at h
      refine then_eq (Settles.agree hsc h.left he he') fun w => ?_
      cases ops with
      | nil => rfl
      | cons op ops =>
          exact then_eq rfl fun b =>
            if_congr Iff.rfl (SettleAll.agreeChain hsc h.right hes hes' w ops) rfl
termination_by structural es

end

/-! ## Expressions with a value -/

variable {soft : Bool} {e : Expr} {v : Value}

/-- An expression can be compiled, and evaluates to a value in a scope. -/
def Expr.Evaluates (s : Settings) (soft : Bool) (sc : Scope) (e : Expr) (v : Value) : Prop :=
  ∃ e', prepare s soft e = .ok e' ∧ evaluate sc e' = .ok v

namespace Expr.Evaluates

/-- A name always has a value. -/
theorem name (n : String) : (Expr.name n).Evaluates s soft sc (sc.value n) :=
  ⟨.name n, rfl, rfl⟩

/-- Inside a block the expression has the same value, there and wherever its names are bound
    alike. -/
theorem folded (hsc : sc.strict = s.strict) (hp : e.Paired) (h : e.Evaluates s soft sc v)
    (hag : Scope.AgreeOn e.names sc sc') :
    ∃ f e', fold s e = .ok f ∧ check s soft f = .ok e' ∧ evaluate sc' e' = .ok v := by
  obtain ⟨e₁, he₁, hv⟩ := h
  obtain ⟨f, e₂, hf, he₂⟩ := hp.folded hsc he₁ hv
  refine ⟨f, e₂, hf, he₂, ?_⟩
  rw [(prepare_settles he₁).agree hsc hag ((fold_folds hf).settles soft e₂ he₂), hv]

/-- An output of the expression shows the escaped value, whether it was computed or not. -/
theorem output (hsc : sc.strict = s.strict) (h : e.Evaluates s soft sc v) :
    ∃ a, prepareOutput s soft e = .ok a ∧
      ((∃ x, a = .text x ∧ v.escaped = .ok x) ∨
        ∃ e', a = .print e' ∧ sc.output e' = v.escaped) := by
  obtain ⟨e', he', hv⟩ := h
  have hprint : sc.output e' = v.escaped := by
    rw [Scope.output, hv]
    rfl
  -- Only a constant with a text is put in the place of its output; whether it stays an output then
  -- depends on the names that it mentioned.
  cases hc : constant s e with
  | varies | fails =>
      exact ⟨.print e', by simp only [prepareOutput, hc, he']; rfl, .inr ⟨e', rfl, hprint⟩⟩
  | value w =>
      obtain rfl : w = v := by
        have hw := (prepare_settles he').computes hsc w hc
        rw [hv] at hw
        exact (Except.ok.inj hw).symm
      cases hx : w.escaped with
      | error f =>
          exact ⟨.print e', by simp only [prepareOutput, hc, hx, he']; rfl,
            .inr ⟨e', rfl, hprint.trans hx⟩⟩
      | ok x =>
          refine ⟨settledOutput e.names x, by simp only [prepareOutput, hc, hx], ?_⟩
          unfold settledOutput
          split
          · exact .inl ⟨x, rfl, rfl⟩
          · refine .inr ⟨_, rfl, ?_⟩
            rw [Scope.output, evaluate_settled]
            rfl

end Expr.Evaluates

end

end Template

end Stencil
