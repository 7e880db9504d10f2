import Stencil.Proofs.Expressing
import Stencil.Proofs.Folding

/-!
# Expressions compiled for less strict rendering

What is constant depends on how strict undefined values are: some of what cannot be computed
where they are strict can be computed where they are not. So one expression may be compiled
to a value by the one engine and left as it is by the other, and only rendering shows whether
the two come to the same.

They do. If a strict rendering gives a value where the less strict engine has computed one
beforehand, the strict engine could have computed it as well, and then it is the same up to
easing. The converse direction is immediate: what is constant for strict settings is constant
for less strict ones.

## Main definitions

* `Settings.Eases`: Settings that are less strict, and otherwise the same.
* `Constancy.Carries`, `Constancy.Returns`: Constants carried over to less strict settings,
  and found again by evaluating strictly.

## Theorems

* `constant_carries`: What is constant stays constant.
* `Settles.returns`: What evaluates strictly, and is constant otherwise, was constant already.
* `Settles.follows`: Two compilations of one expression evaluate alike, up to easing.
-/

namespace Stencil

namespace Template

open Value (Eases NamedEase)

/-! ## Constants -/

/-- What is constant on one side is constant on the other, up to a relation, and what fails
    there fails of how values are used. -/
structure Constancy.Carries {α β : Type} (R : α → β → Prop) (a : Constancy α) (b : Constancy β) :
    Prop where
  gives : ∀ x, a = .value x → ∃ y, b = .value y ∧ R x y
  fails : ∀ f, a = .fails f → f.OfUse

namespace Constancy.Carries

variable {α β γ δ : Type} {R : α → β → Prop} {S : γ → δ → Prop} {a : Constancy α}
  {b : Constancy β}

theorem value {x : α} {y : β} (h : R x y) :
    Carries R (Pure.pure x : Constancy α) (Pure.pure y : Constancy β) := by
  refine ⟨fun x' hx => ⟨y, rfl, ?_⟩, nofun⟩
  cases hx
  exact h

theorem varies : Carries R (.varies : Constancy α) b := ⟨nofun, nofun⟩

theorem bind {f : α → Constancy γ} {g : β → Constancy δ} (h : Carries R a b)
    (hf : ∀ x y, R x y → Carries S (f x) (g y)) : Carries S (a >>= f) (b >>= g) := by
  cases a with
  | value x =>
      obtain ⟨y, rfl, hxy⟩ := h.gives x rfl
      exact hf x y hxy
  | varies => exact varies
  | fails e => exact ⟨nofun, fun g hg => by cases hg; exact h.fails e rfl⟩

theorem lenient (h : Carries R a b) : Carries R a.lenient b.lenient := by
  cases a with
  | value x =>
      obtain ⟨y, rfl, hxy⟩ := h.gives x rfl
      exact value hxy
  | varies => exact varies
  | fails e => exact varies

theorem ofExcept {a : Except Fault α} {b : Except Fault β} (h : Stencil.Carries R a b) :
    Carries R (Constancy.ofExcept a) (Constancy.ofExcept b) := by
  cases a with
  | ok x =>
      obtain ⟨y, rfl, hxy⟩ := h.gives x rfl
      exact value hxy
  | error e => exact ⟨nofun, fun f hf => by cases hf; exact h.fails e rfl⟩

theorem ite {p : Prop} [Decidable p] {a₁ a₂ : Constancy α} {b₁ b₂ : Constancy β}
    (h₁ : Carries R a₁ b₁) (h₂ : Carries R a₂ b₂) :
    Carries R (if p then a₁ else a₂) (if p then b₁ else b₂) := by
  split
  · exact h₁
  · exact h₂

/-- A known filter or test of arguments that are carried over. -/
theorem applied {known : Bool} {args args' values values' : Constancy (List Value)}
    {v v' : Constancy Value} {run run' : List Value → List Value → Option (Except Fault Value)}
    (hargs : Carries (List.Forall₂ Eases) args args')
    (hvalues : Carries (List.Forall₂ Eases) values values') (hv : Carries Eases v v')
    (hrun : ∀ {vs ws us us'}, List.Forall₂ Eases vs ws → List.Forall₂ Eases us us' →
      Option.Rel (Stencil.Carries Eases) (run vs us) (run' ws us')) :
    Carries Eases (applied known args values v run) (applied known args' values' v' run') := by
  refine .ite ?_ .varies
  refine hargs.bind fun as as' has => hvalues.bind fun us us' hus => hv.bind fun w w' hw => ?_
  rcases rel_cases (hrun (.cons hw has) hus) with ⟨hr, hr'⟩ | ⟨r, r', hr, hr', hcarries⟩
  · rw [hr]
    exact .varies
  · rw [hr, hr']
    exact .lenient (.ofExcept hcarries)

end Constancy.Carries

/-- How a template is compiled where undefined values may be less strict. -/
structure Settings.Eases (s t : Settings) : Prop where
  strict : t.strict → s.strict
  tags : s.tags = t.tags

variable {s t : Settings}

theorem keyCheck_carries {k k' : Value} (h : Eases k k') :
    Constancy.Carries (fun _ _ => True) (((Value.keyFault? k).map Constancy.fails).getD (.value ()))
      (((Value.keyFault? k').map Constancy.fails).getD (.value ())) := by
  cases hk : k.keyFault? with
  | none =>
      obtain rfl := Value.eq_of_keyFault? h hk
      rw [hk]
      exact .value trivial
  | some f => exact ⟨nofun, fun g hg => by cases hg; exact Value.keyFault?_ofUse hk⟩

theorem Constancy.entriesInOrder_carries {ks ks' vs vs' : List (Constancy Value)}
    (hks : List.Forall₂ (Carries Eases) ks ks') (hvs : List.Forall₂ (Carries Eases) vs vs') :
    Carries (fun es fs => List.Forall₂ Eases es.1 fs.1 ∧ List.Forall₂ Eases es.2 fs.2)
      (entriesInOrder (fun k => ((Value.keyFault? k).map .fails).getD (.value ())) ks vs)
      (entriesInOrder (fun k => ((Value.keyFault? k).map .fails).getD (.value ())) ks' vs') := by
  induction hks generalizing vs vs' with
  | nil => exact .value ⟨.nil, .nil⟩
  | cons hk _ ih =>
      cases hvs with
      | nil => exact .value ⟨.nil, .nil⟩
      | cons hv hvs =>
          exact hk.bind fun _ _ hk => hv.bind fun _ _ hv => (keyCheck_carries hk).bind
            fun _ _ _ => (ih hvs).bind fun _ _ h => .value ⟨.cons hk h.1, .cons hv h.2⟩

mutual

/-- A constant expression stays constant where undefined values are less strict. -/
theorem constant_carries (hs : s.Eases t) (e : Expr) :
    Constancy.Carries Eases (constant s e) (constant t e) := by
  match e with
  | .const v => exact .value (.same v)
  | .name n => exact .varies
  | .list es => exact (constants_carries hs es).bind fun _ _ h => .value (.list h)
  | .tuple es => exact (constants_carries hs es).bind fun _ _ h => .value (.tuple h)
  | .dict es fs =>
      exact (Constancy.entriesInOrder_carries (constantEach_carries hs es)
        (constantEach_carries hs fs)).bind fun _ _ h => .ofExcept (makeDict_eases h.1 h.2)
  | .member e n =>
      exact .lenient ((constant_carries hs e).bind fun _ _ h =>
        .ofExcept (Value.item_eases hs.strict h (.same _)))
  | .item e f =>
      exact .lenient ((constant_carries hs e).bind fun _ _ h => (constant_carries hs f).bind
        fun _ _ h' => .ofExcept (Value.item_eases hs.strict h h'))
  | .call .. => exact .varies
  | .filter e n es keywords fs _ _ =>
      rw [constant_filter, constant_filter]
      exact .applied (constants_carries hs es) (constants_carries hs fs) (constant_carries hs e)
        fun has hvs => Filter.run?_eases hs.strict n has (keywords_ease keywords hvs)
  | .test e n es keywords fs _ =>
      rw [constant_test, constant_test]
      exact .applied (constants_carries hs es) (constants_carries hs fs) (constant_carries hs e)
        fun has hvs => Test.run?_eases n has (keywords_ease keywords hvs)
  | .sign minus e =>
      exact .lenient ((constant_carries hs e).bind fun _ _ h => .ofExcept (applySign_eases minus h))
  | .not e =>
      exact .lenient ((constant_carries hs e).bind fun _ _ h =>
        (Constancy.Carries.ofExcept (Value.truth_eases h)).bind fun _ _ hb =>
          .value (hb ▸ .same _))
  | .binary op l r =>
      exact .lenient ((constant_carries hs l).bind fun _ _ h => (constant_carries hs r).bind
        fun _ _ h' => .ofExcept (op.apply_eases h h'))
  | .and l r =>
      refine (constant_carries hs l).bind fun v w h =>
        (Constancy.Carries.ofExcept (Value.truth_eases h)).bind ?_
      rintro b _ rfl
      exact .ite (constant_carries hs r) (.value h)
  | .or l r =>
      refine (constant_carries hs l).bind fun v w h =>
        (Constancy.Carries.ofExcept (Value.truth_eases h)).bind ?_
      rintro b _ rfl
      exact .ite (.value h) (constant_carries hs r)
  | .concat es =>
      exact (constants_carries hs es).bind fun _ _ h => .ofExcept (joinPlain_eases h)
  | .compare e ops es =>
      exact .lenient ((constant_carries hs e).bind fun _ _ h =>
        (constantChain_carries hs h ops es).bind fun _ _ hb => .value (hb ▸ .same _))
  | .choose e l r =>
      refine (constant_carries hs e).bind fun v w h =>
        (Constancy.Carries.ofExcept (Value.truth_eases h)).bind ?_
      rintro b _ rfl
      exact .ite (constant_carries hs l) (constant_carries hs r)
  | .chooseSome e l _ =>
      refine (constant_carries hs e).bind fun v w h =>
        (Constancy.Carries.ofExcept (Value.truth_eases h)).bind ?_
      rintro b _ rfl
      exact .ite (constant_carries hs l) .varies

theorem constantChain_carries (hs : s.Eases t) {v w : Value} (h : Eases v w)
    (ops : List Comparison) (es : List Expr) :
    Constancy.Carries Eq (constantChain s v ops es) (constantChain t w ops es) := by
  match es with
  | [] => exact .value rfl
  | e :: es =>
      rw [constantChain, constantChain]
      refine (constant_carries hs e).bind fun v' w' h' => ?_
      cases ops with
      | nil => exact .value rfl
      | cons op ops =>
          refine (Constancy.Carries.ofExcept (op.apply_eases h h')).bind ?_
          rintro b _ rfl
          exact .ite (constantChain_carries hs h' ops es) (.value rfl)

theorem constants_carries (hs : s.Eases t) (es : List Expr) :
    Constancy.Carries (List.Forall₂ Eases) (constants s es) (constants t es) := by
  match es with
  | [] => exact .value .nil
  | e :: es =>
      exact (constant_carries hs e).bind fun _ _ h => (constants_carries hs es).bind
        fun _ _ h' => .value (.cons h h')

theorem constantEach_carries (hs : s.Eases t) (es : List Expr) :
    List.Forall₂ (Constancy.Carries Eases) (constantEach s es) (constantEach t es) := by
  match es with
  | [] => exact .nil
  | e :: es => exact .cons (constant_carries hs e) (constantEach_carries hs es)

end

variable {sc : Scope}

/-! ## What is constant where undefined values are less strict -/

/-- If something is constant, and a computation gives a result, that result is constant already,
    and related to the constant. -/
def Constancy.Returns {α β : Type} (R : α → β → Prop) (c : Constancy α) (r : Except Fault α)
    (d : Constancy β) : Prop :=
  ∀ x y, r = .ok x → d = .value y → c = .value x ∧ R x y

namespace Constancy.Returns

variable {α β γ δ : Type} {R : α → β → Prop} {S : γ → δ → Prop} {c : Constancy α}
  {r : Except Fault α} {d : Constancy β}

theorem value {x : α} {y : β} (h : R x y) :
    Returns R (Pure.pure x) (.ok x) (Pure.pure y) := by
  intro x' y' hx hy
  cases hx
  cases hy
  exact ⟨rfl, h⟩

theorem varies : Returns R c r (.varies : Constancy β) := fun _ _ _ h => nomatch h

theorem bind {f : α → Constancy γ} {g : α → Except Fault γ} {h : β → Constancy δ}
    (hc : Returns R c r d) (hf : ∀ x y, R x y → Returns S (f x) (g x) (h y)) :
    Returns S (c >>= f) (r >>= g) (d >>= h) := by
  intro x y hx hy
  obtain ⟨x', hr, hx⟩ := exists_of_bind_eq_ok hx
  obtain ⟨y', hd, hy⟩ := exists_of_bind_eq_value hy
  obtain ⟨rfl, hxy⟩ := hc x' y' hr hd
  exact hf x' y' hxy x y hx hy

theorem lenient (h : Returns R c r d) : Returns R c.lenient r d.lenient := by
  intro x y hx hy
  cases d with
  | value y' =>
      obtain ⟨rfl, hxy⟩ := h x y hx hy
      exact ⟨rfl, hxy⟩
  | varies => cases hy
  | fails e => cases hy

theorem ofExcept {a : Except Fault α} {b : Except Fault β} (h : Stencil.Carries R a b) :
    Returns R (Constancy.ofExcept a) a (Constancy.ofExcept b) := by
  rintro x y rfl hy
  obtain ⟨y', rfl, hxy⟩ := h.gives x rfl
  cases hy
  exact ⟨rfl, hxy⟩

theorem ite {p : Prop} [Decidable p] {c₁ c₂ : Constancy α} {r₁ r₂ : Except Fault α}
    {d₁ d₂ : Constancy β} (h₁ : Returns R c₁ r₁ d₁) (h₂ : Returns R c₂ r₂ d₂) :
    Returns R (if p then c₁ else c₂) (if p then r₁ else r₂) (if p then d₁ else d₂) := by
  split
  · exact h₁
  · exact h₂

/-- A known filter or test of arguments that were constant already. -/
theorem applied {known : Bool} {args args' values values' : Constancy (List Value)}
    {v v' : Constancy Value} {run run' : List Value → List Value → Option (Except Fault Value)}
    {argsGiven valuesGiven : Except Fault (List Value)} {given : Except Fault Value}
    {f : List Value → List Value → Except Fault Value}
    (hargs : Returns (List.Forall₂ Eases) args argsGiven args')
    (hvalues : Returns (List.Forall₂ Eases) values valuesGiven values')
    (hv : Returns Eases v given v')
    (hrun : ∀ {vs ws us us'}, List.Forall₂ Eases vs ws → List.Forall₂ Eases us us' →
      Option.Rel (Stencil.Carries Eases) (run vs us) (run' ws us'))
    (hf : known = true → ∀ vs us r, run vs us = some r → f vs us = r) :
    Returns Eases (applied known args values v run)
      (do
        let v ← given
        let args ← argsGiven
        f (v :: args) (← valuesGiven))
      (applied known args' values' v' run') := by
  intro x y hx hy
  unfold Constancy.applied at hy ⊢
  split at hy
  · rename_i hknown
    obtain ⟨as', has', hy⟩ := exists_of_bind_eq_value hy
    obtain ⟨us', hus', hy⟩ := exists_of_bind_eq_value hy
    obtain ⟨w', hw', hy⟩ := exists_of_bind_eq_value hy
    obtain ⟨w, hw, hx⟩ := exists_of_bind_eq_ok hx
    obtain ⟨as, has, hx⟩ := exists_of_bind_eq_ok hx
    obtain ⟨us, hus, hx⟩ := exists_of_bind_eq_ok hx
    -- Each part was constant already, so the whole is applied to the same.
    obtain ⟨rfl, hww⟩ := hv w w' hw hw'
    obtain ⟨rfl, hass⟩ := hargs as as' has has'
    obtain ⟨rfl, huss⟩ := hvalues us us' hus hus'
    rw [if_pos hknown]
    rcases rel_cases (hrun (.cons hww hass) huss) with ⟨-, hr'⟩ | ⟨r, r', hr, hr', hcarries⟩
    · rw [hr'] at hy
      cases hy
    · rw [hr'] at hy
      rw [hf hknown _ _ r hr] at hx
      have hback := (ofExcept hcarries).lenient x y hx hy
      refine ⟨?_, hback.2⟩
      simp only [Bind.bind, Constancy.bind, hr]
      exact hback.1
  · cases hy

end Constancy.Returns

/-- What compiling makes of an expression gives, where it is constant for less strict settings,
    what was constant already. -/
def Expr.Returns (s t : Settings) (sc : Scope) (e e' : Expr) : Prop :=
  Constancy.Returns Eases (constant s e) (evaluate sc e') (constant t e)

/-- The entries of a mapping that was made were constant already. -/
theorem entriesInOrder_returns {es es' fs fs' : List Expr}
    (hes : List.Forall₂ (Expr.Returns s t sc) es es')
    (hfs : List.Forall₂ (Expr.Returns s t sc) fs fs') {x : List Value × List Value}
    {y : List Value × List Value}
    (hx : entriesInOrder (fun _ => .ok ()) (evaluateEach sc es') (evaluateEach sc fs') = .ok x)
    (hkeys : x.1.findSome? Value.keyFault? = none)
    (hy : entriesInOrder (fun k => ((Value.keyFault? k).map .fails).getD (.value ()))
      (constantEach t es) (constantEach t fs) = .value y) :
    entriesInOrder (fun k => ((Value.keyFault? k).map .fails).getD (.value ()))
        (constantEach s es) (constantEach s fs) = .value x ∧
      List.Forall₂ Eases x.1 y.1 ∧ List.Forall₂ Eases x.2 y.2 := by
  induction hes generalizing fs fs' x y with
  | nil =>
      cases hx
      cases hy
      exact ⟨rfl, .nil, .nil⟩
  | cons he _ ih =>
      cases hfs with
      | nil =>
          cases hx
          cases hy
          exact ⟨rfl, .nil, .nil⟩
      | cons hf hfs =>
          -- What either side made says that each of its steps succeeded.
          obtain ⟨k, hk, hx⟩ := exists_of_bind_eq_ok hx
          obtain ⟨v, hv, hx⟩ := exists_of_bind_eq_ok hx
          obtain ⟨-, -, hx⟩ := exists_of_bind_eq_ok hx
          obtain ⟨xs, hxs, hx⟩ := exists_of_bind_eq_ok hx
          cases hx
          obtain ⟨k', hk', hy⟩ := Constancy.exists_of_bind_eq_value hy
          obtain ⟨v', hv', hy⟩ := Constancy.exists_of_bind_eq_value hy
          obtain ⟨-, -, hy⟩ := Constancy.exists_of_bind_eq_value hy
          obtain ⟨ys, hys, hy⟩ := Constancy.exists_of_bind_eq_value hy
          cases hy
          -- The evaluation checked no key, but the mapping was made, so no key was refused.
          rw [List.findSome?_cons] at hkeys
          cases hkey : k.keyFault? with
          | some f =>
              rw [hkey] at hkeys
              cases hkeys
          | none =>
              rw [hkey] at hkeys
              obtain ⟨hek, hkk⟩ := he k k' hk hk'
              obtain ⟨hfv, hvv⟩ := hf v v' hv hv'
              obtain ⟨hrest, hks, hvs⟩ := ih hfs hxs hkeys hys
              refine ⟨?_, .cons hkk hks, .cons hvv hvs⟩
              rw [constantEach, constantEach, entriesInOrder, hek, hfv, hrest]
              simp only [bind, Constancy.bind, hkey]
              rfl

mutual

/-- Where an expression is constant for less strict settings, what it gives for strict ones was
    constant already. -/
theorem Settles.returns {e e' : Expr} (hs : s.Eases t) (hsc : sc.strict = s.strict)
    (h : Settles s e e') : e.Returns s t sc e' := by
  unfold Expr.Returns
  cases h with
  | @folded _ v h =>
      intro x y hx hy
      rw [evaluate_settled] at hx
      cases hx
      obtain ⟨y', hy', hxy⟩ := (constant_carries hs e).gives _ h
      rw [hy'] at hy
      cases hy
      exact ⟨h, hxy⟩
  | const v => exact .value (.same v)
  | name | call => exact .varies
  | list hes => exact (hes.returns hs hsc).bind fun _ _ h => .value (.list h)
  | tuple hes => exact (hes.returns hs hsc).bind fun _ _ h => .value (.tuple h)
  | dict hes hfs =>
      -- That the mapping could be made says that its keys were no fault, which is where folding and
      -- evaluation go different ways.
      intro x y hx hy
      obtain ⟨es, hentries, hx⟩ := exists_of_bind_eq_ok hx
      obtain ⟨fs, hentries', hy⟩ := Constancy.exists_of_bind_eq_value hy
      obtain ⟨hconstant, hks, hvs⟩ := entriesInOrder_returns (hes.returnsEach hs hsc)
        (hfs.returnsEach hs hsc) hentries (keyFault?_of_makeDict hx) hentries'
      rw [constant, hconstant]
      exact Constancy.Returns.ofExcept (makeDict_eases hks hvs) x y hx hy
  | member he n =>
      refine .lenient ((he.returns hs hsc).bind fun v w h => ?_)
      rw [hsc]
      exact .ofExcept (Value.item_eases hs.strict h (.same _))
  | item he hf =>
      refine .lenient ((he.returns hs hsc).bind fun v w h => (hf.returns hs hsc).bind
        fun v' w' h' => ?_)
      rw [hsc]
      exact .ofExcept (Value.item_eases hs.strict h h')
  | filter he n hes keywords hfs line c =>
      rw [constant_filter, constant_filter, evaluate]
      refine .applied (hes.returns hs hsc) (hfs.returns hs hsc) (he.returns hs hsc)
        (fun has hvs => Filter.run?_eases hs.strict n has (keywords_ease keywords hvs))
        (f := fun args values => applyFilter sc n (isContextual s n) args (keywords.zip values))
        fun hn vs us r hr => ?_
      rw [applyFilter_of_run? hn, hsc, hr]
      rfl
  | test he n hes keywords hfs line =>
      rw [constant_test, constant_test, evaluate]
      exact .applied (hes.returns hs hsc) (hfs.returns hs hsc) (he.returns hs hsc)
        (fun has hvs => Test.run?_eases n has (keywords_ease keywords hvs))
        fun _ _ _ _ hr => applyTest_of_run? hr
  | sign minus he =>
      exact .lenient ((he.returns hs hsc).bind fun _ _ h => .ofExcept (applySign_eases minus h))
  | not he =>
      exact .lenient ((he.returns hs hsc).bind fun _ _ h =>
        (Constancy.Returns.ofExcept (Value.truth_eases h)).bind fun _ _ hb =>
          .value (hb ▸ .same _))
  | binary op hl hr =>
      exact .lenient ((hl.returns hs hsc).bind fun _ _ h => (hr.returns hs hsc).bind
        fun _ _ h' => .ofExcept (op.apply_eases h h'))
  | and hl hr =>
      -- Both runs see the same truth value, so they take the same branch.
      refine (hl.returns hs hsc).bind fun v w h =>
        (Constancy.Returns.ofExcept (Value.truth_eases h)).bind ?_
      rintro b _ rfl
      exact .ite (hr.returns hs hsc) (.value h)
  | or hl hr =>
      refine (hl.returns hs hsc).bind fun v w h =>
        (Constancy.Returns.ofExcept (Value.truth_eases h)).bind ?_
      rintro b _ rfl
      exact .ite (.value h) (hr.returns hs hsc)
  | concat h hes =>
      -- Constants would have been joined.
      intro x y hx hy
      -- The pieces are constant by induction, and then the joining is a value or fails.
      obtain ⟨vs', hvs', -⟩ := Constancy.exists_of_bind_eq_value hy
      obtain ⟨vs, hvs, -⟩ := exists_of_bind_eq_ok hx
      rw [constant, (hes.returns hs hsc vs vs' hvs hvs').1] at h
      simp only [bind, Constancy.bind] at h
      cases hjoin : joinPlain vs <;> rw [hjoin] at h <;> cases h
  | compare he ops hes =>
      exact .lenient ((he.returns hs hsc).bind fun _ _ h =>
        (hes.returnsChain hs hsc h ops).bind fun _ _ hb => .value (hb ▸ .same _))
  | choose he hl hr =>
      refine (he.returns hs hsc).bind fun v w h =>
        (Constancy.Returns.ofExcept (Value.truth_eases h)).bind ?_
      rintro b _ rfl
      exact .ite (hl.returns hs hsc) (hr.returns hs hsc)
  | chooseSome he hl line =>
      refine (he.returns hs hsc).bind fun v w h =>
        (Constancy.Returns.ofExcept (Value.truth_eases h)).bind ?_
      rintro b _ rfl
      exact .ite (hl.returns hs hsc) .varies

theorem SettleAll.returns {es es' : List Expr} (hs : s.Eases t) (hsc : sc.strict = s.strict)
    (h : SettleAll s es es') :
    Constancy.Returns (List.Forall₂ Eases) (constants s es) (evaluateAll sc es')
      (constants t es) := by
  cases h with
  | nil => exact .value .nil
  | cons he hes =>
      exact (he.returns hs hsc).bind fun _ _ h => (hes.returns hs hsc).bind fun _ _ h' =>
        .value (.cons h h')

theorem SettleAll.returnsEach {es es' : List Expr} (hs : s.Eases t) (hsc : sc.strict = s.strict)
    (h : SettleAll s es es') : List.Forall₂ (Expr.Returns s t sc) es es' := by
  cases h with
  | nil => exact .nil
  | cons he hes => exact .cons (he.returns hs hsc) (hes.returnsEach hs hsc)

theorem SettleAll.returnsChain {es es' : List Expr} (hs : s.Eases t) (hsc : sc.strict = s.strict)
    (h : SettleAll s es es') {v w : Value} (hvw : Eases v w) (ops : List Comparison) :
    Constancy.Returns Eq (constantChain s v ops es) (evaluateChain sc v ops es')
      (constantChain t w ops es) := by
  cases h with
  | nil => exact .value rfl
  | cons he hes =>
      rw [constantChain, evaluateChain, constantChain]
      refine (he.returns hs hsc).bind fun v' w' h' => ?_
      cases ops with
      | nil => exact .value rfl
      | cons op ops =>
          refine (Constancy.Returns.ofExcept (op.apply_eases hvw h')).bind ?_
          rintro b _ rfl
          exact .ite (hes.returnsChain hs hsc h' ops) (.value rfl)

end

/-! ## Two compilations of one expression -/

/-- Scopes that are eased, and as strict as two settings that templates were compiled with. -/
structure Scope.Meets (s t : Settings) (sc tc : Scope) : Prop where
  eases : sc.Eases tc
  left : sc.strict = s.strict
  right : tc.strict = t.strict

variable {tc : Scope} {e eS eT : Expr}

/-- Where an expression is constant for less strict settings, both compilations give it. -/
theorem Settles.follows_of_constant (hs : s.Eases t) (hsc : Scope.Meets s t sc tc)
    (hS : Settles s e eS) (hT : Settles t e eT) {w : Value} (hw : constant t e = .value w) :
    eS.Follows sc tc eT where
  gives v hv := ⟨w, hT.computes hsc.right w hw, (hS.returns hs hsc.left v w hv hw).2⟩
  fails := (evaluate_eases (.refl sc) eS).fails

theorem not_constant (hs : s.Eases t) (hvaries : ¬ ∃ w, constant t e = .value w) {v : Value} :
    constant s e ≠ .value v := fun h =>
  have ⟨w, hw, _⟩ := (constant_carries hs e).gives v h
  hvaries ⟨w, hw⟩

mutual

/-- What an expression gives as it is compiled with strict settings, it gives as it is compiled
    with less strict ones, up to easing. -/
theorem Settles.follows (hs : s.Eases t) (hsc : Scope.Meets s t sc tc) {e eS eT : Expr}
    (hS : Settles s e eS) (hT : Settles t e eT) : eS.Follows sc tc eT := by
  -- The expression may be constant for the less strict settings only, where the strict ones fail.
  -- If it is not constant for them it is so for neither, and both compile it to one shape.
  by_cases hvaries : ∃ w, constant t e = .value w
  · obtain ⟨w, hw⟩ := hvaries
    exact hS.follows_of_constant hs hsc hT hw
  · cases hS with
    | folded h => exact absurd h (not_constant hs hvaries)
    | const v => exact absurd ⟨v, rfl⟩ hvaries
    | name n => cases hT with
      | folded h => exact absurd ⟨_, h⟩ hvaries
      | name => exact .name hsc.eases n
    | list hes => cases hT with
      | folded h => exact absurd ⟨_, h⟩ hvaries
      | list hes' => exact .list (hes.follow hs hsc hes')
    | tuple hes => cases hT with
      | folded h => exact absurd ⟨_, h⟩ hvaries
      | tuple hes' => exact .tuple (hes.follow hs hsc hes')
    | dict hes hfs => cases hT with
      | folded h => exact absurd ⟨_, h⟩ hvaries
      | dict hes' hfs' => exact .dict (hes.follow hs hsc hes') (hfs.follow hs hsc hfs')
    | member he n => cases hT with
      | folded h => exact absurd ⟨_, h⟩ hvaries
      | member he' => exact .member hsc.eases (he.follows hs hsc he') n
    | item he hf => cases hT with
      | folded h => exact absurd ⟨_, h⟩ hvaries
      | item he' hf' => exact .item hsc.eases (he.follows hs hsc he') (hf.follows hs hsc hf')
    | call he hes keywords hfs => cases hT with
      | folded h => exact absurd ⟨_, h⟩ hvaries
      | call he' hes' _ hfs' =>
          exact .call hsc.eases (he.follows hs hsc he') (hes.follow hs hsc hes') keywords
            (hfs.follow hs hsc hfs')
    | filter he n hes keywords hfs line => cases hT with
      | folded h => exact absurd ⟨_, h⟩ hvaries
      | filter he' _ hes' _ hfs' =>
          have htags : isContextual s n = isContextual t n := by
            rw [isContextual, isContextual, hs.tags]
          rw [htags]
          exact .filter hsc.eases (he.follows hs hsc he') n (hes.follow hs hsc hes') keywords
            (hfs.follow hs hsc hfs') line line _
    | test he n hes keywords hfs line => cases hT with
      | folded h => exact absurd ⟨_, h⟩ hvaries
      | test he' _ hes' _ hfs' =>
          exact .test (he.follows hs hsc he') n (hes.follow hs hsc hes') keywords
            (hfs.follow hs hsc hfs') line line
    | sign minus he => cases hT with
      | folded h => exact absurd ⟨_, h⟩ hvaries
      | sign _ he' => exact .sign minus (he.follows hs hsc he')
    | not he => cases hT with
      | folded h => exact absurd ⟨_, h⟩ hvaries
      | not he' => exact .not (he.follows hs hsc he')
    | binary op hl hr => cases hT with
      | folded h => exact absurd ⟨_, h⟩ hvaries
      | binary _ hl' hr' => exact .binary op (hl.follows hs hsc hl') (hr.follows hs hsc hr')
    | and hl hr => cases hT with
      | folded h => exact absurd ⟨_, h⟩ hvaries
      | and hl' hr' => exact .and (hl.follows hs hsc hl') (hr.follows hs hsc hr')
    | or hl hr => cases hT with
      | folded h => exact absurd ⟨_, h⟩ hvaries
      | or hl' hr' => exact .or (hl.follows hs hsc hl') (hr.follows hs hsc hr')
    | concat _ hes => cases hT with
      | folded h => exact absurd ⟨_, h⟩ hvaries
      | concat _ hes' => exact .concat (hes.follow hs hsc hes')
    | compare he ops hes => cases hT with
      | folded h => exact absurd ⟨_, h⟩ hvaries
      | compare he' _ hes' => exact .compare (he.follows hs hsc he') ops (hes.follow hs hsc hes')
    | choose he hl hr => cases hT with
      | folded h => exact absurd ⟨_, h⟩ hvaries
      | choose he' hl' hr' =>
          exact .choose (he.follows hs hsc he') (hl.follows hs hsc hl') (hr.follows hs hsc hr')
    | chooseSome he hl line => cases hT with
      | folded h => exact absurd ⟨_, h⟩ hvaries
      | chooseSome he' hl' =>
          exact .chooseSome hsc.eases (he.follows hs hsc he') (hl.follows hs hsc hl') line

theorem SettleAll.follow (hs : s.Eases t) (hsc : Scope.Meets s t sc tc) {es esS esT : List Expr}
    (hS : SettleAll s es esS) (hT : SettleAll t es esT) :
    List.Forall₂ (Expr.Follows sc tc) esS esT := by
  cases hS with
  | nil =>
      cases hT
      exact .nil
  | cons he hes => cases hT with
    | cons he' hes' => exact .cons (he.follows hs hsc he') (hes.follow hs hsc hes')

end

end Template

end Stencil
