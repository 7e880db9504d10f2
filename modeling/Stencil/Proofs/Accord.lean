import Mathlib.Data.List.Forall2
import Stencil.Proofs.Filters
import Stencil.Proofs.Traits

/-!
# Expressions in two scopes

An expression is evaluated in two scopes. Its names stand for the same values in both, and
these values, like all constants of the expression, have a property that is kept by what
templates do to values. Then both evaluations come to the same, and to a value with the
property, as long as this is so of the calls and the filters of the expression, which are all
that may depend on the rest of a scope.

That the value of an expression has a property is the case of a scope beside itself.

## Main definitions

* `Same`: Two computations that come to the same, and to something with a property.
* `Scope.Same`: Two scopes in which some names stand for the same values.

## Theorems

* `Same.bind`: Computations one after the other.
* `applyCall_kept`, `applyFilter_kept`: Calls and filters keep what is kept.
* `evaluate_same`: Expressions evaluate to the same in both scopes.
-/

namespace Stencil

/-- Two computations come to the same, and what they give has a property if they give
    anything. -/
structure Same {ε α : Type} (P : α → Prop) (a b : Except ε α) : Prop where
  eq : b = a
  ensures : Ensures a P

namespace Same

variable {ε α β : Type} {P : α → Prop} {Q : β → Prop} {a b : Except ε α}

theorem refl (h : Ensures a P) : Same P a a := ⟨rfl, h⟩

theorem ok {x : α} (h : P x) : Same P (.ok x : Except ε α) (.ok x) := refl (.ok h)

theorem any : Same (fun _ => True) a a := refl .any

theorem bind {f g : α → Except ε β} (h : Same P a b) (hf : ∀ x, P x → Same Q (f x) (g x)) :
    Same Q (a >>= f) (b >>= g) := by
  obtain ⟨rfl, h⟩ := h
  refine ⟨?_, h.bind fun x hx => (hf x hx).ensures⟩
  cases b with
  | error e => rfl
  | ok x => exact (hf x (h x rfl)).eq

theorem ite {c : Prop} [Decidable c] {a₁ a₂ b₁ b₂ : Except ε α} (h₁ : Same P a₁ b₁)
    (h₂ : Same P a₂ b₂) : Same P (if c then a₁ else a₂) (if c then b₁ else b₂) := by
  split
  · exact h₁
  · exact h₂

end Same

namespace Template

/-! ## Calls and filters -/

section

variable {P : Value → Prop} (hP : Value.Kept P) {args : List Value}
  {keywords : List (String × Value)}
include hP

theorem lookUp_kept (t : Translations) (key : Value) {own : Value} (h : P own) :
    Ensures (lookUp t key own) P := by
  unfold lookUp
  refine .ite (.ok h) ?_
  split
  · exact Ensures.error
  · refine Ensures.ok ?_
    cases key.text?.bind t.message? with
    | none => exact h
    | some s => exact hP.text s

theorem lookUpCounted_kept (t : Translations) (key n : Value) {one many : Value} (hone : P one)
    (hmany : P many) : Ensures (lookUpCounted t key one many n) P := by
  refine Ensures.any.bind fun found _ => ?_
  split
  · exact Ensures.ok (hP.text _)
  · -- Without a translation the count chooses one of the two messages.
    exact Ensures.any.bind fun isOne _ => .ite (.ok hone) (.ok hmany)

/-- The function of the loop object gives one of its arguments. -/
theorem cycle_kept (t : Translations) (i n : Nat) (hargs : ∀ v ∈ args, P v) :
    Ensures (translate t (.cycle i n) args keywords) P := by
  simp only [translate]
  split
  · exact Ensures.error
  · exact Ensures.error
  · refine Ensures.ok ?_
    rw [List.getD_eq_getElem?_getD]
    cases hv : args[i % args.length]? with
    | none => exact hP.null
    | some v => exact hargs v (List.mem_of_getElem? hv)

theorem translate_kept (t : Translations) (f : Lookup) (hargs : ∀ v ∈ args, P v)
    (hkeywords : ∀ e ∈ keywords, P e.2) : Ensures (translate t f args keywords) P := by
  have hparams (names : List String) :
      ∀ p ∈ names.map (·, (none : Option Value)), ∀ v, p.2 = some v → P v := by simp
  have hbind (s : String) (names : List String) :=
    Signature.forall_bind (s := ⟨s, 1, names.map (·, none)⟩) (hparams names) hargs hkeywords
  -- A function gives one of its messages back, or a text of a catalog.
  cases f with
  | gettext =>
      refine (hbind _ _).bind fun vs hvs => ?_
      split
      · exact lookUp_kept hP t _ (hvs _ (by simp))
      · exact Ensures.ok hP.null
  | ngettext =>
      refine (hbind _ _).bind fun vs hvs => ?_
      split
      · exact lookUpCounted_kept hP t _ _ (hvs _ (by simp)) (hvs _ (by simp))
      · exact Ensures.ok hP.null
  | pgettext =>
      refine (hbind _ _).bind fun vs hvs => ?_
      split
      · exact Ensures.any.bind fun key _ => lookUp_kept hP t key (hvs _ (by simp))
      · exact Ensures.ok hP.null
  | npgettext =>
      refine (hbind _ _).bind fun vs hvs => ?_
      split
      · exact Ensures.any.bind fun key _ =>
          lookUpCounted_kept hP t key _ (hvs _ (by simp)) (hvs _ (by simp))
      · exact Ensures.ok hP.null
  | cycle i n => exact cycle_kept hP t i n hargs
  | byName => exact Ensures.error

omit hP in
/-- What can be called are the functions in reach of templates, so a call gives what one
    of them gives. -/
theorem applyCall_ensures (s : Scope) (f : Value)
    (h : ∀ g, Ensures (translate s.translations g args keywords) P) :
    Ensures (applyCall s f args keywords) P := by
  unfold applyCall
  split
  · split
    · exact h _
    · exact Ensures.error
    · exact Ensures.error
    · exact Ensures.error
  · exact h _
  · exact Ensures.error
  · exact Ensures.error

theorem applyCall_kept (s : Scope) (f : Value) (hargs : ∀ v ∈ args, P v)
    (hkeywords : ∀ e ∈ keywords, P e.2) : Ensures (applyCall s f args keywords) P :=
  applyCall_ensures s f fun g => translate_kept hP _ g hargs hkeywords

/-- The filter that translates gives plain text, also for markup. -/
theorem transFilter_kept (s : Scope) : Ensures (transFilter s args keywords) P := by
  refine Ensures.any.bind fun vs _ => ?_
  split
  · refine Ensures.any.bind fun m _ => translate_kept hP _ _ ?_ (List.forall_mem_nil _)
    exact List.forall_mem_singleton.mpr (hP.text m)
  · exact Ensures.ok hP.null

theorem applyFilter_kept (s : Scope) {name : String}
    (hname : name = "safe" → ∀ s, P (.markup s)) (contextual : Bool) (hargs : ∀ v ∈ args, P v)
    (hkeywords : ∀ e ∈ keywords, P e.2) :
    Ensures (applyFilter s name contextual args keywords) P := by
  unfold applyFilter
  refine .ite (.ite (.ite (transFilter_kept hP s) .error) .error) ?_
  cases hrun : Filter.run? s.strict name args keywords with
  | none => exact Ensures.error
  | some r => exact hP.filter hname hargs hkeywords hrun

theorem applyTest_kept (name : String) : Ensures (applyTest name args keywords) P := by
  unfold applyTest
  cases hrun : Test.run? name args keywords with
  | none => exact Ensures.error
  | some r => exact hP.test hrun

end

/-! ## Scopes -/

/-- Two scopes in which names of a kind stand for the same values, which meet a condition, and in
    which calls and filters of such values come to the same. -/
structure Scope.Same (t : Traits) (N : String → Prop) (s s' : Scope) : Prop where
  strict : s'.strict = s.strict
  template : s'.template = s.template
  find (n : String) : N n → s'.find n = s.find n
  found (n : String) (v : Value) : N n → s.find n = some v → t.constant v
  call (f : Value) (args : List Value) (keywords : List (String × Value)) : t.constant f →
    (∀ v ∈ args, t.constant v) → (∀ e ∈ keywords, t.constant e.2) →
    Stencil.Same t.constant (applyCall s f args keywords) (applyCall s' f args keywords)
  filter (n : String) (c : Bool) (args : List Value) (keywords : List (String × Value)) :
    t.filter n → (∀ v ∈ args, t.constant v) → (∀ e ∈ keywords, t.constant e.2) →
    Stencil.Same t.constant (applyFilter s n c args keywords) (applyFilter s' n c args keywords)

variable {t : Traits} {N : String → Prop} {s s' : Scope}

/-- What a name stands for, or what stands for a missing one. -/
theorem Scope.Same.value (hs : s.Same t N s') (hP : Value.Kept t.constant) {n : String}
    (hn : N n) : Stencil.Same t.constant (.ok (s.value n) : Except Fault Value)
      (.ok (s'.value n)) := by
  unfold Scope.value
  rw [hs.find n hn, hs.strict]
  refine .ok ?_
  cases hv : s.find n with
  | none => exact hP.undefined _
  | some v => exact hs.found n v hn hv

theorem Scope.Same.item (hs : s.Same t N s') (hP : Value.Kept t.constant) {v : Value}
    (hv : t.constant v) (key : Value) :
    Stencil.Same t.constant (Value.item s.strict v key) (Value.item s'.strict v key) := by
  rw [hs.strict]
  exact .refl (hP.item _ hv key)

/-! ## Expressions -/

/-- Keys and values that are computed alike are put in order alike. -/
theorem entriesInOrder_same {P : Value → Prop} (check : Value → Except Fault Unit)
    {ks ks' vs vs' : List (Except Fault Value)} (hks : List.Forall₂ (Same P) ks ks')
    (hvs : List.Forall₂ (Same P) vs vs') :
    Same (fun es => (∀ k ∈ es.1, P k) ∧ ∀ v ∈ es.2, P v) (entriesInOrder check ks vs)
      (entriesInOrder check ks' vs') := by
  have hnone : (∀ k ∈ ([] : List Value), P k) ∧ ∀ v ∈ ([] : List Value), P v := ⟨nofun, nofun⟩
  induction hks generalizing vs vs' with
  | nil => exact .ok hnone
  | cons hk _ ih =>
      cases hvs with
      | nil => exact .ok hnone
      | cons hv hvs =>
          refine hk.bind fun k hk => hv.bind fun v hv => Same.any.bind fun _ _ =>
            (ih hvs).bind fun es hes => .ok ⟨?_, ?_⟩
          · exact List.forall_mem_cons.mpr ⟨hk, hes.1⟩
          · exact List.forall_mem_cons.mpr ⟨hv, hes.2⟩

/-- A condition on a value, and two ways to go on. -/
theorem choose_same {P : Value → Prop} {v : Value} {a a' b b' : Except Fault Value}
    (ha : Same P a a') (hb : Same P b b') :
    Same P (do if ← v.truth then a else b) (do if ← v.truth then a' else b') :=
  Same.any.bind fun _ _ => .ite ha hb

mutual

/-- An expression whose names stand for the same in two scopes evaluates to the same in both. -/
theorem evaluate_same (hP : Value.Kept t.constant) (hs : s.Same t N s') (e : Expr)
    (he : e.Has t) (hn : ∀ n ∈ e.names, N n) :
    Same t.constant (evaluate s e) (evaluate s' e) := by
  -- That the values are kept has to go through the induction with their being the same: a filter or
  -- a call comes to the same only for values that meet the condition.
  match e with
  | .const v => exact .ok he
  | .name n => exact hs.value hP (hn n (List.mem_singleton_self n))
  | .list items =>
      exact (evaluateAll_same hP hs items he hn).bind fun _ h => .ok (hP.list.mpr h)
  | .tuple items =>
      exact (evaluateAll_same hP hs items he hn).bind fun _ h => .ok (hP.tuple.mpr h)
  | .dict keys values =>
      obtain ⟨hk, hv⟩ := List.forall_mem_append.mp hn
      exact (entriesInOrder_same _ (evaluateEach_same hP hs keys he.1 hk)
        (evaluateEach_same hP hs values he.2 hv)).bind fun _ h => .refl (hP.makeDict h.1 h.2)
  | .member e name =>
      exact (evaluate_same hP hs e he hn).bind fun _ h => hs.item hP h _
  | .item e index =>
      obtain ⟨hn, hi⟩ := List.forall_mem_append.mp hn
      exact (evaluate_same hP hs e he.1 hn).bind fun _ h =>
        (evaluate_same hP hs index he.2 hi).bind fun _ _ => hs.item hP h _
  | .call f args keywords values =>
      obtain ⟨hn, hv⟩ := List.forall_mem_append.mp hn
      obtain ⟨hf, ha⟩ := List.forall_mem_append.mp hn
      exact (evaluate_same hP hs f he.1 hf).bind fun _ h =>
        (evaluateAll_same hP hs args he.2.1 ha).bind fun _ ha =>
          (evaluateAll_same hP hs values he.2.2 hv).bind fun _ hv =>
            hs.call _ _ _ h ha (forall_keywords hv)
  | .filter e name args keywords values _ contextual =>
      obtain ⟨hn, hv⟩ := List.forall_mem_append.mp hn
      obtain ⟨hn, ha⟩ := List.forall_mem_append.mp hn
      exact (evaluate_same hP hs e he.2.1 hn).bind fun _ h =>
        (evaluateAll_same hP hs args he.2.2.1 ha).bind fun _ ha =>
          (evaluateAll_same hP hs values he.2.2.2 hv).bind fun _ hv =>
            hs.filter _ _ _ _ he.1 (List.forall_mem_cons.mpr ⟨h, ha⟩) (forall_keywords hv)
  | .test e name args keywords values _ =>
      obtain ⟨hn, hv⟩ := List.forall_mem_append.mp hn
      obtain ⟨hn, ha⟩ := List.forall_mem_append.mp hn
      exact (evaluate_same hP hs e he.1 hn).bind fun _ _ =>
        (evaluateAll_same hP hs args he.2.1 ha).bind fun _ _ =>
          (evaluateAll_same hP hs values he.2.2 hv).bind fun _ _ => .refl (applyTest_kept hP name)
  | .sign minus e =>
      exact (evaluate_same hP hs e he hn).bind fun v _ => .refl (hP.sign minus v)
  | .not e =>
      exact (evaluate_same hP hs e he hn).bind fun _ _ => Same.any.bind fun _ _ =>
        .ok (hP.bool _)
  | .binary op l r =>
      obtain ⟨hl, hr⟩ := List.forall_mem_append.mp hn
      exact (evaluate_same hP hs l he.1 hl).bind fun _ h =>
        (evaluate_same hP hs r he.2 hr).bind fun _ h' => .refl (hP.binary op h h')
  | .and l r =>
      obtain ⟨hl, hr⟩ := List.forall_mem_append.mp hn
      exact (evaluate_same hP hs l he.1 hl).bind fun v h =>
        choose_same (evaluate_same hP hs r he.2 hr) (.ok h)
  | .or l r =>
      obtain ⟨hl, hr⟩ := List.forall_mem_append.mp hn
      exact (evaluate_same hP hs l he.1 hl).bind fun v h =>
        choose_same (.ok h) (evaluate_same hP hs r he.2 hr)
  | .concat pieces =>
      exact (evaluateAll_same hP hs pieces he hn).bind fun _ h => .refl (hP.joinMarkup h)
  | .compare e ops operands =>
      obtain ⟨hn, ho⟩ := List.forall_mem_append.mp hn
      exact (evaluate_same hP hs e he.1 hn).bind fun v _ =>
        (evaluateChain_same hP hs v ops operands he.2 ho).bind fun _ _ => .ok (hP.bool _)
  | .choose test yes no =>
      obtain ⟨hn, hno⟩ := List.forall_mem_append.mp hn
      obtain ⟨ht, hy⟩ := List.forall_mem_append.mp hn
      exact (evaluate_same hP hs test he.1 ht).bind fun _ _ =>
        choose_same (evaluate_same hP hs yes he.2.1 hy) (evaluate_same hP hs no he.2.2 hno)
  | .chooseSome test yes line =>
      obtain ⟨ht, hy⟩ := List.forall_mem_append.mp hn
      have hmissing : Same t.constant
          (.ok (.undefined (noAlternative line s.template)) : Except Fault Value)
          (.ok (.undefined (noAlternative line s'.template))) := by
        rw [hs.template]
        exact .ok (hP.undefined _)
      exact (evaluate_same hP hs test he.1 ht).bind fun _ _ =>
        choose_same (evaluate_same hP hs yes he.2 hy) hmissing

theorem evaluateChain_same (hP : Value.Kept t.constant) (hs : s.Same t N s') (v : Value)
    (ops : List Comparison) (es : List Expr) (hes : AllHave t es)
    (hn : ∀ n ∈ namesOfAll es, N n) :
    Same (fun _ => True) (evaluateChain s v ops es) (evaluateChain s' v ops es) := by
  match es with
  | [] => exact .any
  | e :: es =>
      obtain ⟨he, hn⟩ := List.forall_mem_append.mp hn
      refine (evaluate_same hP hs e hes.1 he).bind fun w _ => ?_
      cases ops with
      | nil => exact .any
      | cons op ops =>
          exact Same.any.bind fun _ _ => .ite (evaluateChain_same hP hs w ops es hes.2 hn) .any

theorem evaluateAll_same (hP : Value.Kept t.constant) (hs : s.Same t N s') (es : List Expr)
    (hes : AllHave t es) (hn : ∀ n ∈ namesOfAll es, N n) :
    Same (fun vs => ∀ v ∈ vs, t.constant v) (evaluateAll s es) (evaluateAll s' es) := by
  match es with
  | [] => exact .ok nofun
  | e :: es =>
      obtain ⟨he, hn⟩ := List.forall_mem_append.mp hn
      exact (evaluate_same hP hs e hes.1 he).bind fun _ h =>
        (evaluateAll_same hP hs es hes.2 hn).bind fun _ hvs =>
          .ok (List.forall_mem_cons.mpr ⟨h, hvs⟩)

theorem evaluateEach_same (hP : Value.Kept t.constant) (hs : s.Same t N s') (es : List Expr)
    (hes : AllHave t es) (hn : ∀ n ∈ namesOfAll es, N n) :
    List.Forall₂ (Same t.constant) (evaluateEach s es) (evaluateEach s' es) := by
  match es with
  | [] => exact .nil
  | e :: es =>
      obtain ⟨he, hn⟩ := List.forall_mem_append.mp hn
      exact .cons (evaluate_same hP hs e hes.1 he) (evaluateEach_same hP hs es hes.2 hn)

end

end Template

end Stencil
