import Stencil.Proofs.Lenience
import Stencil.Template.Render

/-!
# Rendering less strictly

A strict rendering and one that is not run side by side over the same data. As long as the
strict one goes on, both stand at the same statement with the same text behind them, and what
is bound on the one side is bound on the other, up to easing. So if the strict rendering comes
to its end, so does the other one, with the same text.

There is one way out. The less strict engine may be unable to compile a template that the
strict one can, and then the inclusion of it fails. Such a fault is never that of a missing
template, which an inclusion may pass over: which templates are there is the same for both.

## Main definitions

* `Yields`: If a computation gives a result so does another one, or it fails for a reason that
  is allowed.
* `Env.Leads`: What is bound on the two sides.
* `Renderer.Softens`: Renderers whose templates lead each other.

## Theorems

* `Yields.foldlM`: Loops side by side.
* `executeAll_yields`: Statements side by side.
* `render_yields`: Rendering over data.
-/

namespace Stencil

namespace Template

open Value (Eases NamedEase)

/-- What one computation gives another one gives as well, up to a relation, unless it fails with
    a fault of a certain kind. -/
def Yields (broken : Fault → Prop) {α β : Type} (R : α → β → Prop) (a : Except Fault α)
    (b : Except Fault β) : Prop :=
  ∀ x, a = .ok x → (∃ y, b = .ok y ∧ R x y) ∨ ∃ f, b = .error f ∧ broken f

theorem lift_eq {α : Type} (r : Except Fault α) : (lift r : Except Fault α) = r := by
  cases r <;> rfl

namespace Yields

variable {broken : Fault → Prop} {α β γ δ : Type} {R : α → β → Prop} {S : γ → δ → Prop}
  {a : Except Fault α} {b : Except Fault β}

theorem ok {x : α} {y : β} (h : R x y) : Yields broken R (.ok x) (.ok y) := by
  intro x' hx
  cases hx
  exact .inl ⟨y, rfl, h⟩

theorem error {f : Fault} : Yields broken R (.error f) b := nofun

theorem refl {R : α → α → Prop} (h : ∀ x, R x x) : Yields broken R a a :=
  fun x hx => .inl ⟨x, hx, h x⟩

theorem mono {broken' : Fault → Prop} (h : Yields broken R a b)
    (hbroken : ∀ f, broken f → broken' f) : Yields broken' R a b :=
  fun x hx => (h x hx).imp_right fun ⟨f, hf, hb⟩ => ⟨f, hf, hbroken f hb⟩

theorem of_carries (h : Carries R a b) : Yields broken R a b := fun x hx => .inl (h.gives x hx)

/-- Only what happens if the first computation gives a result has to be looked at. -/
theorem of_ok (h : ∀ x, a = .ok x → Yields broken R a b) : Yields broken R a b :=
  fun x hx => h x hx x hx

theorem bind {f : α → Except Fault γ} {g : β → Except Fault δ} (h : Yields broken R a b)
    (hf : ∀ x y, R x y → Yields broken S (f x) (g y)) : Yields broken S (a >>= f) (b >>= g) := by
  intro z hz
  obtain ⟨x, hx, hz⟩ := exists_of_bind_eq_ok hz
  rcases h x hx with ⟨y, rfl, hxy⟩ | ⟨e, rfl, he⟩
  · exact hf x y hxy z hz
  · exact .inr ⟨e, rfl, he⟩

theorem lift (h : Carries R a b) :
    Yields broken R (Template.lift a : Except Fault α) (Template.lift b) := by
  rw [lift_eq, lift_eq]
  exact of_carries h

theorem ite {p : Prop} [Decidable p] {a₁ a₂ : Except Fault α} {b₁ b₂ : Except Fault β}
    (h₁ : Yields broken R a₁ b₁) (h₂ : Yields broken R a₂ b₂) :
    Yields broken R (if p then a₁ else a₂) (if p then b₁ else b₂) := by
  split
  · exact h₁
  · exact h₂

/-- Rounds that yield each other make loops that do. -/
theorem foldlM {f : α → γ → Except Fault α} {g : β → δ → Except Fault β}
    (h : ∀ x y u v, R x y → S u v → Yields broken R (f x u) (g y v)) {us : List γ} {vs : List δ}
    (hus : List.Forall₂ S us vs) {x : α} {y : β} (hxy : R x y) :
    Yields broken R (us.foldlM f x) (vs.foldlM g y) := by
  induction hus generalizing x y with
  | nil => exact ok hxy
  | cons huv _ ih =>
      rw [List.foldlM_cons, List.foldlM_cons]
      exact (h _ _ _ _ hxy huv).bind fun _ _ => ih

end Yields

/-- A loop that comes to its end has made every round. -/
theorem exists_of_foldlM {α β : Type} {f : β → α → Except Fault β} {xs : List α} {b c : β}
    (h : xs.foldlM f b = .ok c) : ∀ x ∈ xs, ∃ b' c', f b' x = .ok c' := by
  induction xs generalizing b with
  | nil => exact nofun
  | cons x xs ih =>
      rw [List.foldlM_cons] at h
      obtain ⟨b', hb, h⟩ := exists_of_bind_eq_ok h
      exact List.forall_mem_cons.mpr ⟨⟨b, b', hb⟩, ih h⟩

/-! ## What is bound -/

/-- Names with the same names and related values look alike. -/
theorem lookup_rel {α β : Type} {R : α → β → Prop} {xs : List (String × α)}
    {ys : List (String × β)} (h : List.Forall₂ (fun e f => e.1 = f.1 ∧ R e.2 f.2) xs ys)
    (n : String) : Option.Rel R (xs.lookup n) (ys.lookup n) := by
  induction h with
  | nil => exact .none
  | @cons e f xs ys hef _ ih =>
      obtain ⟨k, v⟩ := e
      obtain ⟨k', v'⟩ := f
      obtain ⟨hk, hv⟩ := hef
      obtain rfl : k = k' := hk
      rw [List.lookup_cons, List.lookup_cons]
      split
      · exact .some hv
      · exact ih

section

variable {b b' new new' : Bindings}

theorem namedEase_refl (b : Bindings) : NamedEase b b :=
  List.forall₂_same.mpr fun _ _ => ⟨rfl, .same _⟩

theorem set_ease (h : NamedEase b b') (k : String) {v w : Value} (hvw : Eases v w) :
    NamedEase (b.set k v) (b'.set k w) := by
  induction h with
  | nil => exact .cons ⟨rfl, hvw⟩ .nil
  | @cons e f es fs hef hrest ih =>
      obtain ⟨j, u⟩ := e
      obtain ⟨j', u'⟩ := f
      obtain ⟨hj, hu⟩ := hef
      obtain rfl : j = j' := hj
      rw [Bindings.set, Bindings.set]
      split
      · exact .cons ⟨rfl, hvw⟩ hrest
      · exact .cons ⟨rfl, hu⟩ ih

theorem update_ease (h : NamedEase b b') (hnew : NamedEase new new') :
    NamedEase (b.update new) (b'.update new') := by
  unfold Bindings.update
  induction hnew generalizing b b' with
  | nil => exact h
  | @cons e f es fs hef _ ih =>
      rw [List.foldl_cons, List.foldl_cons, ← hef.1]
      exact ih (set_ease h e.1 hef.2)

end

/-- Scopes with the same names, whose values are eased. -/
abbrev FrameLeads : Frame → Frame → Prop :=
  List.Forall₂ fun e f => e.1 = f.1 ∧ Option.Rel Eases e.2 f.2

/-- The same is bound on two sides, up to easing. -/
structure Env.Leads (env env' : Env) : Prop where
  frames : List.Forall₂ FrameLeads env.frames env'.frames
  context : NamedEase env.context env'.context
  loopVars : NamedEase env.loopVars env'.loopVars

theorem findFrame_leads {fs fs' : List Frame} (h : List.Forall₂ FrameLeads fs fs') (n : String) :
    Option.Rel (Option.Rel Eases) (findFrame n fs) (findFrame n fs') := by
  induction h with
  | nil => exact .none
  | cons hf _ ih =>
      rw [findFrame, findFrame]
      rcases rel_cases (lookup_rel hf n) with ⟨hx, hy⟩ | ⟨x, y, hx, hy, hxy⟩
      · rw [hx, hy]
        exact ih
      · rw [hx, hy]
        exact .some hxy

theorem filter_leads (n : String) {f f' : Frame} (h : FrameLeads f f') :
    FrameLeads (f.filter (·.1 != n)) (f'.filter (·.1 != n)) := by
  induction h with
  | nil => exact .nil
  | cons he _ ih =>
      rw [List.filter_cons, List.filter_cons, ← he.1]
      split
      · exact .cons he ih
      · exact ih

namespace Env.Leads

variable {env env' : Env}

theorem find (h : env.Leads env') (n : String) : Option.Rel Eases (env.find n) (env'.find n) := by
  unfold Env.find
  rcases rel_cases (findFrame_leads h.frames n) with ⟨hx, hy⟩ | ⟨x, y, hx, hy, hxy⟩
  · rw [hx, hy]
    exact lookup_rel h.context n
  · rw [hx, hy]
    exact hxy

theorem findOuter (h : env.Leads env') (inLoop : Bool) (n : String) :
    Option.Rel Eases (env.findOuter inLoop n) (env'.findOuter inLoop n) := by
  have hcontext := lookup_rel h.context n
  unfold Env.findOuter
  cases inLoop with
  | false => exact hcontext
  | true =>
      rcases rel_cases (lookup_rel h.loopVars n) with ⟨hx, hy⟩ | ⟨x, y, hx, hy, hxy⟩
      · simp only [if_true, Bindings.get?, hx, hy, Option.none_or]
        exact hcontext
      · simp only [if_true, Bindings.get?, hx, hy, Option.some_or]
        exact .some hxy

theorem bindLocal (h : env.Leads env') (n : String) {v w : Value} (hvw : Eases v w) :
    (env.bindLocal n v).Leads (env'.bindLocal n w) := by
  obtain ⟨frames, context, loopVars⟩ := env
  obtain ⟨frames', context', loopVars'⟩ := env'
  obtain ⟨hframes, hcontext, hloopVars⟩ := h
  cases hframes with
  | nil => exact ⟨.cons (.cons ⟨rfl, .some hvw⟩ .nil) .nil, hcontext, hloopVars⟩
  | @cons f f' fs fs' hf hfs =>
      exact ⟨.cons (.cons ⟨rfl, .some hvw⟩ (filter_leads n hf)) hfs, hcontext, hloopVars⟩

theorem assign (h : env.Leads env') (p : Place) (n : String) {v w : Value} (hvw : Eases v w) :
    (env.assign p n v).Leads (env'.assign p n w) := by
  have hlocal := h.bindLocal n hvw
  unfold Env.assign
  dsimp only
  split
  · exact ⟨hlocal.frames, hlocal.context, set_ease hlocal.loopVars n hvw⟩
  · split
    · exact ⟨hlocal.frames, set_ease hlocal.context n hvw, hlocal.loopVars⟩
    · exact hlocal

theorem assignAll (h : env.Leads env') (p : Place) {bound bound' : Bindings}
    (hbound : NamedEase bound bound') :
    (bound.foldl (fun env b => env.assign p b.1 b.2) env).Leads
      (bound'.foldl (fun env b => env.assign p b.1 b.2) env') := by
  induction hbound generalizing env env' with
  | nil => exact h
  | @cons e f es fs hef _ ih =>
      rw [List.foldl_cons, List.foldl_cons, ← hef.1]
      exact ih (h.assign p e.1 hef.2)

/-- What an included template sees. -/
theorem visible (h : env.Leads env') : NamedEase env.visible env'.visible := by
  have hnames : env.frames.flatten.map (·.1) = env'.frames.flatten.map (·.1) := by
    have hflat := List.rel_flatten h.frames
    refine List.forall₂_eq_eq_eq ▸ List.rel_map (fun e f hef => hef.1) hflat
  unfold Env.visible
  rw [hnames]
  refine update_ease h.context ?_
  generalize (env'.frames.flatten.map (·.1)).eraseDups = names
  induction names with
  | nil => exact .nil
  | cons n names ih =>
      rw [List.filterMap_cons, List.filterMap_cons]
      rcases rel_cases (findFrame_leads h.frames n) with ⟨hx, hy⟩ | ⟨x, y, hx, hy, hxy⟩
      · rw [hx, hy]
        exact ih
      · rw [hx, hy]
        cases hxy with
        | none => exact ih
        | some hvw => exact .cons ⟨rfl, hvw⟩ ih

end Env.Leads

theorem enter_leads {bound bound' : Bindings} (h : NamedEase bound bound') (refs : Refs) :
    FrameLeads (enter bound refs) (enter bound' refs) := by
  refine List.rel_append (List.rel_map (fun e f hef => ⟨hef.1, .some hef.2⟩) h) ?_
  exact List.forall₂_same.mpr fun e he => by
    obtain ⟨n, -, rfl⟩ := List.mem_map.mp he
    exact ⟨rfl, .none⟩

/-! ## What assignments and loops bind -/

theorem unpack_eases {v w : Value} (h : Eases v w) :
    Carries (List.Forall₂ Eases) (unpack v) (unpack w) := by
  have hitems := Value.items_eases h
  unfold unpack
  cases hv : v.items with
  | ok xs =>
      obtain ⟨ys, hw, hxs⟩ := hitems.gives xs hv
      rw [hw]
      exact .ok hxs
  | error f =>
      have huse := hitems.fails f hv
      split
      · exact .error trivial
      · exact ⟨nofun, fun g hg => by cases hg; exact huse⟩

mutual

theorem bindings_eases (target : Target) {v w : Value} (h : Eases v w) :
    Carries NamedEase (target.bindings v) (target.bindings w) := by
  match target with
  | .name n => exact .ok (.cons ⟨rfl, h⟩ .nil)
  | .tuple ts =>
      rw [Target.bindings, Target.bindings]
      refine (unpack_eases h).bind fun vs ws hvs => ?_
      rw [← hvs.length_eq]
      exact .ite (.error trivial) (.ite (.error trivial) (bindingsOfAll_ease ts hvs))

theorem bindingsOfAll_ease (ts : List Target) {vs ws : List Value}
    (h : List.Forall₂ Eases vs ws) :
    Carries NamedEase (bindingsOfAll vs ts) (bindingsOfAll ws ts) := by
  match ts with
  | [] => exact .ok .nil
  | t :: ts =>
      cases h with
      | nil => exact .ok .nil
      | cons hv hvs =>
          rw [bindingsOfAll, bindingsOfAll]
          exact (bindings_eases t hv).bind fun _ _ hb => (bindingsOfAll_ease ts hvs).bind
            fun _ _ hbs => .ok (List.rel_append hb hbs)

end

/-! ## Rendering -/

/-- Templates of one name whose statements lead each other. -/
structure Program.Leads (p q : Program) : Prop where
  name : p.name = q.name
  body : StmtsLead p.body q.body

/-- A strict renderer, and one that is not strict and loads the same templates, as far as they
    can be compiled. -/
structure Renderer.Softens (broken : Fault → Prop) (r r' : Renderer (Except Fault)) : Prop where
  load : ∀ n, Yields broken Program.Leads (r.load n) (r'.load n)
  missing : ∀ n m searched, r.load n = .error (.includeMissing m searched) →
    r'.load n = .error (.includeMissing m searched)
  broken_ne : ∀ m searched, ¬ broken (.includeMissing m searched)
  strict : r.strict = true
  lenient : r'.strict = false
  globals : r.globals = r'.globals
  translations : r.translations = r'.translations
  transFilter : r.transFilter = r'.transFilter

variable {broken : Fault → Prop} {r r' : Renderer (Except Fault)} {env env' : Env}

theorem scopeAt_softens (hr : r.Softens broken r') (p : Place) (henv : env.Leads env') :
    (scopeAt r p env).Softens (scopeAt r' p env') where
  eases := ⟨fun h => absurd (hr.lenient.symm.trans h) Bool.false_ne_true, rfl, henv.find,
    henv.findOuter p.inLoop, hr.translations, hr.transFilter⟩
  strict := hr.strict
  lenient := hr.lenient

theorem passes_carries (hr : r.Softens broken r') (p : Place) (henv : env.Leads env')
    (target : Target) {test test' : Option Expr} (htest : Option.Rel Expr.Leads test test')
    {v w : Value} (hvw : Eases v w) :
    Carries Eq (passes r p env target test v) (passes r' p env' target test' w) := by
  unfold passes
  rcases rel_cases htest with ⟨ht, ht'⟩ | ⟨e, e', ht, ht', he⟩
  · rw [ht, ht']
    exact .ok rfl
  · rw [ht, ht']
    refine (bindings_eases target hvw).bind fun bound bound' hbound => ?_
    have hinside : Env.Leads { env with frames := enter bound [] :: env.frames }
        { env' with frames := enter bound' [] :: env'.frames } :=
      ⟨.cons (enter_leads hbound []) henv.frames, henv.context, henv.loopVars⟩
    exact (he.follows _ _ (scopeAt_softens hr _ hinside)).bind fun _ _ hv => Value.truth_eases hv

/-- An inclusion that may pass over a missing template does so on both sides. -/
theorem passedOver_yields (hr : r.Softens broken r') (n : String) :
    Yields broken (Option.Rel Program.Leads)
      (tryCatch (do return some (← r.load n)) fun f =>
        match f with
        | .includeMissing .. => return none
        | f => throw f)
      (tryCatch (do return some (← r'.load n)) fun f =>
        match f with
        | .includeMissing .. => return none
        | f => throw f) := by
  cases hload : r.load n with
  | ok q =>
      rcases hr.load n q hload with ⟨q', hload', hq⟩ | ⟨f, hload', hf⟩
      · rw [hload']
        exact .ok (.some hq)
      · rw [hload']
        intro x hx
        refine .inr ⟨f, ?_, hf⟩
        cases f with
        | includeMissing m searched => exact absurd hf (hr.broken_ne m searched)
        | _ => rfl
  | error f =>
      cases f with
      | includeMissing m searched =>
          rw [hr.missing n m searched hload]
          exact .ok .none
      | _ => exact .error

/-- A template that is missing on one side is missing on the other, and one that is there leads
    the other, if that can be compiled. -/
theorem loadIncluded_yields (hr : r.Softens broken r') (ignoreMissing : Bool) {v w : Value}
    (hvw : Eases v w) :
    Yields broken (Option.Rel Program.Leads) (loadIncluded r ignoreMissing v)
      (loadIncluded r' ignoreMissing w) := by
  have hsome (n : String) : Yields broken (Option.Rel Program.Leads)
      (do return some (← r.load n)) (do return some (← r'.load n)) :=
    (hr.load n).bind fun _ _ hpq => .ok (.some hpq)
  have hshown := Value.shown_eases hvw
  have hload : Yields broken (Option.Rel Program.Leads)
      (if ignoreMissing then
        tryCatch (do return some (← r.load v.shown)) fun f =>
          match f with
          | .includeMissing .. => return none
          | f => throw f
      else do return some (← r.load v.shown))
      (if ignoreMissing then
        tryCatch (do return some (← r'.load w.shown)) fun f =>
          match f with
          | .includeMissing .. => return none
          | f => throw f
      else do return some (← r'.load w.shown)) := by
    rw [← hshown]
    exact .ite (passedOver_yields hr _) (hsome _)
  cases v with
  | undefined u => exact .error
  | _ => cases hvw <;> exact hload

theorem refsOf_eq (outer parameters : List String) {ss ss' : List Stmt} (h : StmtsLead ss ss') :
    refsOf outer parameters ss' = refsOf outer parameters ss :=
  refsAll_eq outer _ h

theorem usesLoop_eq {ss ss' : List Stmt} (h : StmtsLead ss ss') : usesLoop ss' = usesLoop ss :=
  mentionsAny_eq _ h

/-- A round may bind the loop object besides. -/
theorem withLoop_ease {bound bound' : Bindings} (h : NamedEase bound bound') {extended : Bool}
    {v : Value} :
    NamedEase (if extended then bound ++ [(loopName, v)] else bound)
      (if extended then bound' ++ [(loopName, v)] else bound') := by
  split
  · exact List.rel_append h (.cons ⟨rfl, .same _⟩ .nil)
  · exact h

/-- The same number of items passes on both sides, if it is known for all on the strict one. -/
theorem passing_eq {α β : Type} {f : α → Except Fault Bool} {g : β → Except Fault Bool}
    {R : α → β → Prop} {xs : List α} {ys : List β} (h : List.Forall₂ R xs ys)
    (hfg : ∀ x y, R x y → Carries Eq (f x) (g y)) (hknown : ∀ x ∈ xs, ∃ b, f x = .ok b) :
    (ys.filter fun y => Value.isTrue (g y)).length =
      (xs.filter fun x => Value.isTrue (f x)).length := by
  induction h with
  | nil => rfl
  | @cons x y xs ys hxy _ ih =>
      obtain ⟨⟨b, hb⟩, hknown⟩ := List.forall_mem_cons.mp hknown
      obtain ⟨b', hb', rfl⟩ := (hfg x y hxy).gives b hb
      rw [List.filter_cons, List.filter_cons, hb, hb']
      split
      · rw [List.length_cons, List.length_cons, ih hknown]
      · exact ih hknown

theorem execute_print (r : Renderer (Except Fault)) (n : Program → Bindings → Except Fault String)
    (p : Place) (env : Env) (e : Expr) :
    execute r n p env (.print e) =
      (do return (env, ← (scopeAt r p env).output e) : Except Fault (Env × String)) := by
  simp only [execute, lift_eq, Scope.output, bind_assoc]

/-- What statements leave behind on the two sides. -/
abbrev Outcome.Leads (x y : Env × String) : Prop := x.1.Leads y.1 ∧ x.2 = y.2

mutual

/-- A statement that gives a text gives it where rendering is less strict, too. -/
theorem execute_yields (hr : r.Softens broken r') {n n' : Program → Bindings → Except Fault String}
    (hn : ∀ q q' b b', q.Leads q' → NamedEase b b' → Yields broken Eq (n q b) (n' q' b'))
    (p : Place) {env env' : Env} (henv : env.Leads env') {a a' : Stmt} (h : a.Leads a') :
    Yields broken Outcome.Leads (execute r n p env a) (execute r' n' p env' a') := by
  have hscope := scopeAt_softens hr p henv
  cases h with
  | text x => exact .ok ⟨henv, rfl⟩
  | print _ h =>
      rw [execute_print, execute_print]
      refine (Yields.of_carries (h _ _ hscope)).bind ?_
      rintro x _ rfl
      exact .ok ⟨henv, rfl⟩
  -- The less strict compilation has the text of an output that the strict one evaluates.
  | settled _ h =>
      rw [execute_print]
      refine (Yields.of_carries (h _ hr.strict)).bind (g := fun x => .ok (env', x)) ?_
      rintro x _ rfl
      exact .ok ⟨henv, rfl⟩
  | branch htest hbody horelse chained =>
      rw [execute, execute]
      refine (Yields.lift (htest.follows _ _ hscope)).bind fun v w hvw =>
        (Yields.lift (Value.truth_eases hvw)).bind ?_
      rintro b _ rfl
      exact .ite (executeAll_yields hr hn p henv hbody) (executeAll_yields hr hn p henv horelse)
  | set target line he =>
      rw [execute, execute]
      exact (Yields.lift (he.follows _ _ hscope)).bind fun v w hvw =>
        (Yields.lift (bindings_eases target hvw)).bind fun bound bound' hbound =>
          .ok ⟨henv.assignAll p hbound, rfl⟩
  | trans hb =>
      rw [execute, execute]
      refine (Yields.lift (evaluateBlock_follow hscope.eases (hb.follows hscope))).bind ?_
      rintro x _ rfl
      exact .ok ⟨henv, rfl⟩
  | inclusion he ignoreMissing withContext =>
      rw [execute, execute]
      refine (Yields.lift (he.follows _ _ hscope)).bind fun v w hvw =>
        (loadIncluded_yields hr ignoreMissing hvw).bind fun q q' hq => ?_
      cases hq with
      | none => exact .ok ⟨henv, rfl⟩
      | some hq =>
        have hgiven : NamedEase (if withContext then env.visible else r.globals)
            (if withContext then env'.visible else r'.globals) := by
          split
          · exact henv.visible
          · exact hr.globals ▸ namedEase_refl _
        refine (hn _ _ _ _ hq hgiven).bind ?_
        rintro x _ rfl
        exact .ok ⟨henv, rfl⟩
  | loop target line hiter htest hbody horelse =>
      rw [execute, execute]
      refine (Yields.lift (hiter.follows _ _ hscope)).bind fun v w hvw =>
        (Yields.lift (Value.items_eases hvw)).bind fun items items' hitems => ?_
      simp only [usesLoop_eq hbody, refsOf_eq _ _ hbody, refsOf_eq _ _ horelse]
      have hpasses (x y : Value) (hxy : Eases x y) := passes_carries hr p henv target htest hxy
      -- On the strict side the whole loop runs, so it is known of each item whether it passes.
      refine Yields.of_ok fun out hout => ?_
      obtain ⟨state, hstate, -⟩ := exists_of_bind_eq_ok hout
      rw [passing_eq hitems hpasses fun x hx => by
        obtain ⟨_, _, hround⟩ := exists_of_foldlM hstate x hx
        obtain ⟨b, hb, -⟩ := exists_of_bind_eq_ok hround
        exact ⟨b, (lift_eq _).symm.trans hb⟩]
      -- From round to round the variables are eased, and the texts and the counts are equal.
      refine Yields.bind (R := fun s s' => NamedEase s.1 s'.1 ∧ s.2 = s'.2)
        (Yields.foldlM ?_ hitems ⟨henv.loopVars, rfl⟩) ?_
      · rintro ⟨loopVars, text, index⟩ ⟨loopVars', _⟩ x y ⟨hvars, rfl⟩ hxy
        refine (Yields.lift (hpasses x y hxy)).bind ?_
        rintro b _ rfl
        refine .ite ?_ (.ok ⟨hvars, rfl⟩)
        refine (Yields.lift (bindings_eases target hxy)).bind fun bound bound' hbound => ?_
        refine Yields.bind (executeAll_yields hr hn _ ?_ hbody) fun x y hxy =>
          .ok ⟨hxy.1.loopVars, by rw [hxy.2]⟩
        exact ⟨.cons (enter_leads (withLoop_ease hbound) _) henv.frames, henv.context, .nil⟩
      · rintro ⟨loopVars, text, index⟩ ⟨loopVars', _⟩ ⟨hvars, rfl⟩
        refine .ite ?_ (.ok ⟨⟨henv.frames, henv.context, hvars⟩, rfl⟩)
        refine Yields.bind (executeAll_yields hr hn _ ?_ horelse) fun x y hxy =>
          .ok ⟨⟨henv.frames, henv.context, hxy.1.loopVars⟩, congrArg (text ++ ·) hxy.2⟩
        exact ⟨.cons (enter_leads .nil _) henv.frames, henv.context, henv.loopVars⟩

theorem executeAll_yields (hr : r.Softens broken r')
    {n n' : Program → Bindings → Except Fault String}
    (hn : ∀ q q' b b', q.Leads q' → NamedEase b b' → Yields broken Eq (n q b) (n' q' b'))
    (p : Place) {env env' : Env} (henv : env.Leads env') {ss ss' : List Stmt}
    (h : StmtsLead ss ss') :
    Yields broken Outcome.Leads (executeAll r n p env ss) (executeAll r' n' p env' ss') := by
  cases h with
  | nil => exact .ok ⟨henv, rfl⟩
  | cons ha hss =>
      rw [executeAll, executeAll]
      refine (execute_yields hr hn p henv ha).bind fun x y hxy => ?_
      refine (executeAll_yields hr hn p hxy.1 hss).bind fun x' y' hxy' => ?_
      exact .ok ⟨hxy'.1, congrArg₂ (· ++ ·) hxy.2 hxy'.2⟩

end

/-- However deep inclusions may nest. -/
theorem renderAt_yields (hr : r.Softens broken r') (depth : Nat) {q q' : Program}
    {b b' : Bindings} (hq : q.Leads q') (hb : NamedEase b b') :
    Yields broken Eq (renderAt r depth q b) (renderAt r' depth q' b') := by
  induction depth generalizing q q' b b' with
  | zero => exact .error
  | succ depth ih =>
      rw [renderAt, renderAt, refsOf_eq _ _ hq.body, hq.name]
      refine Yields.bind (executeAll_yields hr (fun _ _ _ _ hq hb => ih hq hb) _ ?_ hq.body)
        fun x y hxy => .ok hxy.2
      exact ⟨.cons (enter_leads .nil _) .nil, hb, .nil⟩

/-- What a strict rendering gives, one that is less strict gives as well, if it can compile the
    templates. -/
theorem render_yields (hr : r.Softens broken r') {q q' : Program} (hq : q.Leads q')
    (data : Bindings) : Yields broken Eq (render r q data) (render r' q' data) := by
  rw [render, render, ← hr.globals]
  exact renderAt_yields hr deepest hq (namedEase_refl _)

end Template

end Stencil
