import Stencil.Proofs.Abstaining
import Stencil.Proofs.Escaping
import Stencil.Proofs.Executing
import Stencil.Proofs.LastWrite

/-!
# Rendering with other translations

Templates that translate nothing are rendered twice side by side, with renderers that may differ
in the functions for translations, the catalogs and the filter that translates. Both run through
the same statements in the same state. The scopes are the same on both sides, and so is all that
the data bind, except under the names of the functions for translations, which no template
mentions. No value that is met is a function, so there is nothing to be called.

Then both come to the same text, or fail with the same fault, whatever the state is that
templates are loaded from, and leave the same state.

## Main definitions

* `EndAlike`: Two results that are related, or the same fault.
* `KeepPace`: Two actions on one kind of state that end alike and leave the same state.
* `Insulated`: What data bind on the two sides.
* `Env.Insulated`, `Renderer.Insulated`: What is bound, and renderers, on the two sides.

## Theorems

* `KeepPace.bind`, `KeepPace.foldlM`: Actions that are put together.
* `execute_keepPace`: Statements side by side.
* `render_keepPace`: Rendering over data.
-/

namespace Stencil

/-- Two results that are related, or the same fault. -/
inductive EndAlike {ε α β : Type} (R : α → β → Prop) : Except ε α → Except ε β → Prop
  | ok {x : α} {y : β} (h : R x y) : EndAlike R (.ok x) (.ok y)
  | error (e : ε) : EndAlike R (.error e) (.error e)

theorem EndAlike.eq {ε α : Type} {a b : Except ε α} (h : EndAlike Eq a b) : a = b := by
  cases h with
  | ok h => rw [h]
  | error e => rfl

/-- Two actions that end alike from every state, and leave the same state. -/
def KeepPace {σ α β : Type} (R : α → β → Prop) (a : Stateful σ α) (b : Stateful σ β) : Prop :=
  ∀ s, (b.perform s).2 = (a.perform s).2 ∧ EndAlike R (a.perform s).1 (b.perform s).1

namespace KeepPace

variable {σ α β γ δ : Type} {R : α → β → Prop} {S : γ → δ → Prop} {a : Stateful σ α}
  {b : Stateful σ β}

theorem pure {x : α} {y : β} (h : R x y) :
    KeepPace R (Pure.pure x : Stateful σ α) (Pure.pure y) := fun _ => ⟨rfl, .ok h⟩

theorem throw (f : Fault) :
    KeepPace R (MonadExcept.throw f : Stateful σ α) (MonadExcept.throw f) := fun _ =>
  ⟨rfl, .error f⟩

theorem bind {f : α → Stateful σ γ} {g : β → Stateful σ δ} (h : KeepPace R a b)
    (hf : ∀ x y, R x y → KeepPace S (f x) (g y)) : KeepPace S (a >>= f) (b >>= g) := by
  intro s
  have hs := h s
  rw [Stateful.perform_bind, Stateful.perform_bind]
  generalize a.perform s = p at hs ⊢
  generalize b.perform s = q at hs ⊢
  obtain ⟨r, t⟩ := p
  obtain ⟨r', t'⟩ := q
  obtain ⟨rfl, hr⟩ : t' = t ∧ EndAlike R r r' := hs
  cases hr with
  | ok h => exact hf _ _ h t'
  | error e => exact ⟨rfl, .error e⟩

theorem perform_eq {a b : Stateful σ α} (h : KeepPace Eq a b) (s : σ) :
    b.perform s = a.perform s :=
  Prod.ext (h s).2.eq.symm (h s).1

theorem tryCatch {f : Fault → Stateful σ α} {g : Fault → Stateful σ β} (h : KeepPace R a b)
    (hf : ∀ e, KeepPace R (f e) (g e)) :
    KeepPace R (MonadExcept.tryCatch a f) (MonadExcept.tryCatch b g) := by
  intro s
  have hs := h s
  rw [Stateful.perform_tryCatch, Stateful.perform_tryCatch]
  generalize a.perform s = p at hs ⊢
  generalize b.perform s = q at hs ⊢
  obtain ⟨r, t⟩ := p
  obtain ⟨r', t'⟩ := q
  obtain ⟨rfl, hr⟩ : t' = t ∧ EndAlike R r r' := hs
  cases hr with
  | ok h => exact ⟨rfl, .ok h⟩
  | error e => exact hf e t'

theorem refl {R : α → α → Prop} (h : ∀ x, R x x) (a : Stateful σ α) : KeepPace R a a := by
  intro s
  refine ⟨rfl, ?_⟩
  cases (a.perform s).1 with
  | ok x => exact .ok (h x)
  | error e => exact .error e

/-- Computations that come to the same keep pace. -/
theorem lift {P : α → Prop} {a b : Except Fault α} (h : Same P a b) :
    KeepPace (fun x y => y = x ∧ P x) (Template.lift a : Stateful σ α) (Template.lift b) := by
  obtain ⟨rfl, h⟩ := h
  cases b with
  | ok x => exact pure ⟨rfl, h x rfl⟩
  | error f => exact throw f

theorem ite {p : Prop} [Decidable p] {a' : Stateful σ α} {b' : Stateful σ β}
    (h : KeepPace R a b) (h' : KeepPace R a' b') :
    KeepPace R (if p then a else a') (if p then b else b') := by
  split
  · exact h
  · exact h'

/-- Rounds that keep pace make loops that do. -/
theorem foldlM {P : γ → Prop} {f : α → γ → Stateful σ α} {g : β → γ → Stateful σ β}
    (h : ∀ x y u, R x y → P u → KeepPace R (f x u) (g y u)) {us : List γ} (hus : ∀ u ∈ us, P u)
    {x : α} {y : β} (hxy : R x y) : KeepPace R (us.foldlM f x) (us.foldlM g y) := by
  induction us generalizing x y with
  | nil => exact pure hxy
  | cons u us ih =>
      obtain ⟨hu, hus⟩ := List.forall_mem_cons.mp hus
      rw [List.foldlM_cons, List.foldlM_cons]
      exact (h x y u hxy hu).bind fun _ _ hxy => ih hus hxy

end KeepPace

namespace Template

open Value (FunctionFree)

/-! ## What is bound -/

/-- What data bind on two sides is the same and no function for translations, but for the names
    of these functions. -/
structure Insulated (b b' : Bindings) : Prop where
  get? (n : String) : n ∉ installedNames → b'.get? n = b.get? n
  free (n : String) (v : Value) : n ∉ installedNames → b.get? n = some v → v.FunctionFree

namespace Insulated

variable {b b' new : Bindings}

theorem update (h : Insulated b b') (hnew : ∀ e ∈ new, e.2.FunctionFree) :
    Insulated (b.update new) (b'.update new) where
  get? n hn := by rw [Bindings.get?_update, Bindings.get?_update, h.get? n hn]
  free n v hn hv := by
    rw [Bindings.get?_update] at hv
    rcases Option.or_eq_some_iff.mp hv with hv | ⟨-, hv⟩
    · have hreversed : ∀ e ∈ new.reverse, e.2.FunctionFree := fun e he =>
        hnew e (List.mem_reverse.mp he)
      exact Bindings.forall_get? (P := fun _ => FunctionFree) hreversed hv
    · exact h.free n v hn hv

theorem set (h : Insulated b b') (k : String) {v : Value} (hv : v.FunctionFree) :
    Insulated (b.set k v) (b'.set k v) := by
  have hnew : ∀ e ∈ [(k, v)], e.2.FunctionFree := List.forall_mem_singleton.mpr hv
  exact h.update hnew

end Insulated

/-- What is bound on two sides: the same scopes, in which no function is bound, and insulated
    data. What loops assigned is seen by functions only. -/
structure Env.Insulated (env env' : Env) : Prop where
  frames : env'.frames = env.frames
  free : ∀ f ∈ env.frames, ∀ e ∈ f, ∀ v, e.2 = some v → v.FunctionFree
  context : Template.Insulated env.context env'.context

namespace Env.Insulated

variable {env env' : Env} (h : env.Insulated env')
include h

theorem find {n : String} (hn : n ∉ installedNames) : env'.find n = env.find n := by
  rw [Env.find, Env.find, h.frames, h.context.get? n hn]

theorem find_free {n : String} (hn : n ∉ installedNames) {v : Value}
    (hv : env.find n = some v) : v.FunctionFree := by
  unfold Env.find at hv
  split at hv
  · rename_i x hx
    exact forall_findFrame (P := fun _ => FunctionFree) h.free (hv ▸ hx)
  · exact h.context.free n v hn hv

theorem assign (p : Place) (n : String) {v : Value} (hv : v.FunctionFree) :
    (env.assign p n v).Insulated (env'.assign p n v) := by
  have hframes : (env'.bindLocal n v).frames = (env.bindLocal n v).frames := by
    unfold Env.bindLocal
    rw [h.frames]
    split <;> rfl
  have hfree := forall_bindLocal (P := fun _ => FunctionFree) h.free n hv
  have hcontext : Template.Insulated (env.bindLocal n v).context (env'.bindLocal n v).context := by
    rw [context_bindLocal, context_bindLocal]
    exact h.context
  unfold Env.assign
  dsimp only
  split
  · exact ⟨hframes, hfree, hcontext⟩
  · split
    · exact ⟨hframes, hfree, hcontext.set n hv⟩
    · exact ⟨hframes, hfree, hcontext⟩

theorem assignAll (p : Place) {bound : Bindings} (hbound : ∀ b ∈ bound, b.2.FunctionFree) :
    (bound.foldl (fun env b => env.assign p b.1 b.2) env).Insulated
      (bound.foldl (fun env b => env.assign p b.1 b.2) env') := by
  induction bound generalizing env env' with
  | nil => exact h
  | cons b bound ih =>
      obtain ⟨hb, hbound⟩ := List.forall_mem_cons.mp hbound
      exact ih (h.assign p b.1 hb) hbound

/-- One more scope with the same parameters on both sides. -/
theorem enter {parameters : Bindings} (hp : ∀ e ∈ parameters, e.2.FunctionFree) (refs : Refs)
    (loopVars loopVars' : Bindings) :
    Env.Insulated ⟨Template.enter parameters refs :: env.frames, env.context, loopVars⟩
      ⟨Template.enter parameters refs :: env'.frames, env'.context, loopVars'⟩ :=
  ⟨by rw [h.frames], forall_enter (P := fun _ => FunctionFree) hp refs h.free, h.context⟩

/-- What an included template sees. -/
theorem visible : Template.Insulated env.visible env'.visible := by
  unfold Env.visible
  rw [h.frames]
  exact h.context.update (forall_locals (P := fun _ => FunctionFree) h.free _)

end Env.Insulated

/-! ## Scopes -/

/-- Renderers that may differ in what translates, and that load templates which translate
    nothing side by side. -/
structure Renderer.Insulated {σ : Type} (r r' : Renderer (Stateful σ)) : Prop where
  load (n : String) : KeepPace (fun p q => q = p ∧ Abstains p.body) (r.load n) (r'.load n)
  strict : r'.strict = r.strict
  globals : Template.Insulated r.globals r'.globals

variable {σ : Type} {r r' : Renderer (Stateful σ)} {env env' : Env}

/-- Of what is no function for translations, only that of the loop object can be called, and
    it does the same everywhere. -/
theorem applyCall_same (s s' : Scope) {f : Value} (hf : f.FunctionFree) {args : List Value}
    (hargs : ∀ v ∈ args, v.FunctionFree) (keywords : List (String × Value)) :
    Same FunctionFree (applyCall s f args keywords) (applyCall s' f args keywords) := by
  cases f with
  | function g =>
      cases g with
      | cycle i n => exact ⟨rfl, cycle_kept Value.functionFree_kept s.translations i n hargs⟩
      | _ => exact False.elim hf
  | _ => exact .refl .error

/-- A filter that does not translate depends on the strictness only. -/
theorem applyFilter_same {s s' : Scope} (hs : s'.strict = s.strict) {n : String}
    (hn : n ≠ Filter.transName) (c : Bool) {args : List Value}
    {keywords : List (String × Value)} (hargs : ∀ v ∈ args, v.FunctionFree)
    (hkeywords : ∀ e ∈ keywords, e.2.FunctionFree) :
    Same FunctionFree (applyFilter s n c args keywords) (applyFilter s' n c args keywords) := by
  refine ⟨?_, applyFilter_kept Value.functionFree_kept s (fun _ _ => trivial) c hargs hkeywords⟩
  unfold applyFilter
  rw [if_neg hn, if_neg hn, hs]

theorem scopeAt_same (hr : r.Insulated r') (p : Place) (henv : env.Insulated env') :
    (scopeAt r p env).Same plain (· ∉ installedNames) (scopeAt r' p env') where
  strict := hr.strict
  template := rfl
  find _ hn := henv.find hn
  found _ _ hn hv := henv.find_free hn hv
  call _ _ keywords hf hargs _ := applyCall_same _ _ hf hargs keywords
  filter _ c _ _ hn hargs hkeywords := applyFilter_same hr.strict hn c hargs hkeywords

/-- An expression that mentions none of some names. -/
theorem forall_names {e : Expr} (h : ∀ n ∈ installedNames, e.names.contains n = false) :
    ∀ n ∈ e.names, n ∉ installedNames := by
  intro n hn hinstalled
  have hcontains := h n hinstalled
  rw [List.contains_iff_mem.mpr hn] at hcontains
  cases hcontains

theorem evaluate_insulated (hr : r.Insulated r') (p : Place) (henv : env.Insulated env')
    {e : Expr} (he : e.Has plain) (hn : ∀ n ∈ installedNames, e.names.contains n = false) :
    Same FunctionFree (evaluate (scopeAt r p env) e) (evaluate (scopeAt r' p env') e) :=
  evaluate_same Value.functionFree_kept (scopeAt_same hr p henv) e he (forall_names hn)

theorem bindings_same (target : Target) {v : Value} (hv : v.FunctionFree) :
    Same (fun bound => ∀ b ∈ bound, b.2.FunctionFree) (target.bindings v) (target.bindings v) :=
  .refl ((Target.forall_bindings Value.functionFree_kept hv target).mono fun _ h e he =>
    (h e he).2)

theorem passes_same (hr : r.Insulated r') (p : Place) (henv : env.Insulated env')
    (target : Target) {test : Option Expr} (htest : ∀ e, test = some e → e.Has plain)
    (hn : ∀ n ∈ installedNames, (test.any fun e => e.names.contains n) = false) {v : Value}
    (hv : v.FunctionFree) :
    Same (fun _ => True) (passes r p env target test v) (passes r' p env' target test v) := by
  cases test with
  | none => exact .any
  | some e =>
      refine (bindings_same target hv).bind fun bound hbound => ?_
      exact (evaluate_insulated hr _ (henv.enter hbound [] _ _) (htest e rfl) hn).bind fun _ _ =>
        .any

/-! ## Statements -/

/-- A translatable block calls one of the functions for translations, so it mentions it. -/
theorem functionName_installed (b : TransBlock) : b.functionName ∈ installedNames := by
  unfold TransBlock.functionName
  cases b.count.isSome <;> cases b.context.isSome <;> decide

/-- An inclusion loads the same template on both sides, which translates nothing, or passes over
    the same missing one. -/
theorem loadIncluded_keepPace (hr : r.Insulated r') (ignoreMissing : Bool) (v : Value) :
    KeepPace (fun p q => q = p ∧ ∀ program, p = some program → Abstains program.body)
      (loadIncluded r ignoreMissing v) (loadIncluded r' ignoreMissing v) := by
  have hsome (n : String) :
      KeepPace (fun p q => q = p ∧ ∀ program, p = some program → Abstains program.body)
        (do return some (← r.load n)) (do return some (← r'.load n)) := by
    refine (hr.load n).bind ?_
    rintro _ program ⟨rfl, habstains⟩
    refine .pure ⟨rfl, fun program' h => ?_⟩
    cases h
    exact habstains
  unfold loadIncluded
  split
  · exact .throw _
  · refine .ite ((hsome _).tryCatch fun f => ?_) (hsome _)
    split
    · exact .pure ⟨rfl, fun _ h => absurd h.symm (Option.some_ne_none _)⟩
    · exact .throw _

/-- What mentions none of some names in one part or the other mentions none of them in both. -/
theorem forall_or_eq_false {ns : List String} {f g : String → Bool} :
    (∀ n ∈ ns, (f n || g n) = false) ↔ (∀ n ∈ ns, f n = false) ∧ ∀ n ∈ ns, g n = false := by
  simp only [Bool.or_eq_false_iff, forall_and]

/-- What statements leave behind on the two sides. -/
def OutcomeInsulated (x y : Env × String) : Prop := x.1.Insulated y.1 ∧ y.2 = x.2

section

variable {n n' : Program → Bindings → Stateful σ String}

mutual

/-- A statement that translates nothing does the same on both sides. -/
theorem execute_keepPace (hr : r.Insulated r')
    (hn : ∀ q b b', Abstains q.body → Insulated b b' → KeepPace Eq (n q b) (n' q b'))
    (p : Place) {env env' : Env} (henv : env.Insulated env') (a : Stmt) (ha : a.Has plain)
    (hm : ∀ k ∈ installedNames, mentionsOne k a = false) :
    KeepPace OutcomeInsulated (execute r n p env a) (execute r' n' p env' a) := by
  -- What is evaluated has the same value on both sides, and that value has no function in it, so
  -- what is bound on either side stays free of functions.
  match a with
  | .text x =>
      rw [execute, execute]
      exact .pure ⟨henv, rfl⟩
  | .print e =>
      rw [execute, execute]
      refine (KeepPace.lift (evaluate_insulated hr p henv ha hm)).bind ?_
      rintro _ v ⟨rfl, hv⟩
      refine (KeepPace.lift Same.any).bind ?_
      rintro _ text ⟨rfl, -⟩
      exact .pure ⟨henv, rfl⟩
  | .branch test body orelse _ =>
      rw [execute, execute]
      obtain ⟨hm, horelse⟩ := forall_or_eq_false.mp hm
      obtain ⟨htest, hbody⟩ := forall_or_eq_false.mp hm
      refine (KeepPace.lift (evaluate_insulated hr p henv ha.1 htest)).bind ?_
      rintro _ v ⟨rfl, hv⟩
      refine (KeepPace.lift Same.any).bind ?_
      rintro _ b ⟨rfl, -⟩
      exact .ite (executeAll_keepPace hr hn p henv body ha.2.1 hbody)
        (executeAll_keepPace hr hn p henv orelse ha.2.2 horelse)
  | .set target _ e =>
      rw [execute, execute]
      refine (KeepPace.lift (evaluate_insulated hr p henv ha hm)).bind ?_
      rintro _ v ⟨rfl, hv⟩
      refine (KeepPace.lift (bindings_same target hv)).bind ?_
      rintro _ bound ⟨rfl, hbound⟩
      exact .pure ⟨henv.assignAll p hbound, rfl⟩
  | .include e ignoreMissing withContext =>
      rw [execute, execute]
      refine (KeepPace.lift (evaluate_insulated hr p henv ha hm)).bind ?_
      rintro _ v ⟨rfl, hv⟩
      refine (loadIncluded_keepPace hr ignoreMissing v).bind ?_
      rintro _ (_ | program) ⟨rfl, hprogram⟩
      · exact .pure ⟨henv, rfl⟩
      · -- With the context or without it, the template sees insulated data.
        have hgiven : Insulated (if withContext then env.visible else r.globals)
            (if withContext then env'.visible else r'.globals) := by
          split
          · exact henv.visible
          · exact hr.globals
        refine (hn program _ _ (hprogram program rfl) hgiven).bind ?_
        rintro text _ rfl
        exact .pure ⟨henv, rfl⟩
  | .trans b =>
      -- A translatable block mentions a function for translations, and there is no mention of one.
      exact absurd (hm _ (functionName_installed b)) (by simp [mentionsOne, TransBlock.allNames])
  | .loop target _ iter test body orelse =>
      rw [execute, execute]
      obtain ⟨hm, horelse⟩ := forall_or_eq_false.mp hm
      obtain ⟨hm, hbody⟩ := forall_or_eq_false.mp hm
      obtain ⟨hiter, htest⟩ := forall_or_eq_false.mp hm
      have hpasses (x : Value) (hx : x.FunctionFree) :=
        passes_same hr p henv target ha.2.1 htest hx
      refine (KeepPace.lift (evaluate_insulated hr p henv ha.1 hiter)).bind ?_
      rintro _ v ⟨rfl, hv⟩
      refine (KeepPace.lift (Same.refl (Value.functionFree_kept.items hv))).bind ?_
      rintro _ items ⟨rfl, hitems⟩
      -- The test picks the same items on both sides.
      have hpassing : (items.filter fun x => Value.isTrue (passes r' p env' target test x)) =
          items.filter fun x => Value.isTrue (passes r p env target test x) :=
        List.filter_congr fun x hx => by rw [(hpasses x (hitems x hx)).eq]
      rw [hpassing]
      -- What the rounds assigned may differ so far, but there is no function to see it.
      refine KeepPace.bind (R := fun s s' => s'.2 = s.2) (KeepPace.foldlM ?round hitems rfl) ?after
      case round =>
        rintro ⟨loopVars, text, index⟩ ⟨loopVars', _⟩ x rfl hx
        refine (KeepPace.lift (hpasses x hx)).bind ?_
        rintro _ passed ⟨rfl, -⟩
        refine .ite ?_ (.pure rfl)
        refine (KeepPace.lift (bindings_same target hx)).bind ?_
        rintro _ bound ⟨rfl, hbound⟩
        have hscope := forall_extended (P := fun _ => FunctionFree) hbound
        refine (executeAll_keepPace hr hn _ (henv.enter (hscope _ trivial) _ _ _) body ha.2.2.1
          hbody).bind ?_
        rintro ⟨env₁, _⟩ ⟨env₁', more⟩ ⟨-, rfl⟩
        exact .pure rfl
      case after =>
        rintro ⟨loopVars, text, index⟩ ⟨loopVars', _⟩ rfl
        refine .ite ?_ (.pure ⟨⟨henv.frames, henv.free, henv.context⟩, rfl⟩)
        refine (executeAll_keepPace hr hn _ (henv.enter (List.forall_mem_nil _) _ _ _) orelse
          ha.2.2.2 horelse).bind ?_
        rintro ⟨env₁, _⟩ ⟨env₁', more⟩ ⟨-, rfl⟩
        exact .pure ⟨⟨henv.frames, henv.free, henv.context⟩, rfl⟩

theorem executeAll_keepPace (hr : r.Insulated r')
    (hn : ∀ q b b', Abstains q.body → Insulated b b' → KeepPace Eq (n q b) (n' q b'))
    (p : Place) {env env' : Env} (henv : env.Insulated env') (ss : List Stmt)
    (hs : StatementsHave plain ss) (hm : ∀ k ∈ installedNames, mentionsAny k ss = false) :
    KeepPace OutcomeInsulated (executeAll r n p env ss) (executeAll r' n' p env' ss) := by
  match ss with
  | [] =>
      rw [executeAll, executeAll]
      exact .pure ⟨henv, rfl⟩
  | a :: ss =>
      rw [executeAll, executeAll]
      obtain ⟨hfirst, hrest⟩ := forall_or_eq_false.mp hm
      refine (execute_keepPace hr hn p henv a hs.1 hfirst).bind ?_
      rintro ⟨env₁, _⟩ ⟨env₁', text⟩ ⟨henv₁, rfl⟩
      refine (executeAll_keepPace hr hn p henv₁ ss hs.2 hrest).bind ?_
      rintro ⟨env₂, _⟩ ⟨env₂', more⟩ ⟨henv₂, rfl⟩
      exact .pure ⟨henv₂, rfl⟩

end

/-- Templates that translate nothing keep pace, however deep inclusions may nest. -/
theorem renderAt_keepPace (hr : r.Insulated r') (depth : Nat) (q : Program) (b b' : Bindings)
    (hq : Abstains q.body) (hb : Insulated b b') :
    KeepPace Eq (renderAt r depth q b) (renderAt r' depth q b') := by
  induction depth generalizing q b b' with
  | zero =>
      rw [renderAt, renderAt]
      exact .throw _
  | succ depth ih =>
      rw [renderAt, renderAt]
      have hstart (refs : Refs) :
          Env.Insulated ⟨[enter [] refs], b, []⟩ ⟨[enter [] refs], b', []⟩ :=
        ⟨rfl, forall_enter (P := fun _ => FunctionFree) (List.forall_mem_nil _) refs
          (List.forall_mem_nil _), hb⟩
      refine (executeAll_keepPace hr ih _ (hstart _) q.body hq.plain hq.names).bind ?_
      rintro ⟨env, text⟩ ⟨env', _⟩ ⟨-, rfl⟩
      exact .pure rfl

/-- Over the same data, in which there is no function. -/
theorem render_keepPace (hr : r.Insulated r') {q : Program} (hq : Abstains q.body)
    {data : Bindings} (hdata : ∀ e ∈ data, e.2.FunctionFree) :
    KeepPace Eq (render r q data) (render r' q data) :=
  renderAt_keepPace hr deepest q _ _ hq (hr.globals.update hdata)

end

end Template

end Stencil
