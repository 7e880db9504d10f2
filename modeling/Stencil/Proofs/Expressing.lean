import Stencil.Proofs.Filtering

/-!
# Expressions in eased scopes

An expression sees a scope: what names are bound to, how strict undefined values are, and what
functions and filters translate by. A scope is eased if what it binds is and its undefined values
are less strict. Evaluating an expression there gives what it gave, eased, or goes on where it
failed.

What is wanted later is more general. A compiled expression may have parts of it computed
beforehand, so two expressions are compared, each in its scope, and there is one lemma for each
way to put an expression together out of parts that compare. That an expression compares to
itself is then its induction.

## Main definitions

* `Scope.Eases`: A scope that is eased.
* `Expr.Follows`: What one expression gives in its scope another one gives in its own, eased.
* `TransBlock.Follows`: So for the expressions of a translatable block.

## Theorems

* `applyCall_eases`, `applyFilter_eases`, `applyTest_eases`: Calls, filters and tests.
* `evaluate_eases`: An expression in an eased scope.
* `evaluateBlock_follow`: The markup of a translatable block.
-/

namespace Stencil

namespace Template

open Value (Eases NamedEase)

/-- A scope in which undefined values may be less strict, and which is the same otherwise. -/
structure Scope.Eases (s t : Scope) : Prop where
  strict : t.strict → s.strict
  template : s.template = t.template
  find : ∀ n, Option.Rel Value.Eases (s.find n) (t.find n)
  findOuter : ∀ n, Option.Rel Value.Eases (s.findOuter n) (t.findOuter n)
  translations : s.translations = t.translations
  transFilter : s.transFilter = t.transFilter

theorem Scope.Eases.refl (s : Scope) : s.Eases s :=
  have hrefl : ∀ o : Option Value, Option.Rel Value.Eases o o := fun o => by
    cases o with
    | none => exact .none
    | some v => exact .some (.same v)
  ⟨id, rfl, fun _ => hrefl _, fun _ => hrefl _, rfl, rfl⟩

variable {s t : Scope} {args args' : List Value} {keywords keywords' : List (String × Value)}

theorem Scope.value_eases (h : s.Eases t) (n : String) : (s.value n).Eases (t.value n) := by
  unfold Scope.value
  rcases rel_cases (h.find n) with ⟨hv, hv'⟩ | ⟨v, w, hv, hw, hvw⟩
  · rw [hv, hv']
    exact .undefined rfl h.strict
  · rw [hv, hw]
    exact hvw

/-! ## Calls -/

theorem lookUp_eases (t : Translations) {key key' own own' : Value} (hkey : Eases key key')
    (hown : Eases own own') : Carries Eases (lookUp t key own) (lookUp t key' own') := by
  unfold lookUp
  refine .ite (.ok hown) ?_
  cases hfault : key.keyFault? with
  | some f => exact .error (Value.keyFault?_ofUse hfault)
  | none =>
      obtain rfl := Value.eq_of_keyFault? hkey hfault
      simp only [hfault]
      refine .ok ?_
      cases key.text?.bind t.message? with
      | none => exact hown
      | some s => exact .same _

theorem formOf_eases (c : Catalog) {n n' : Value} (hn : Eases n n') :
    Carries Eq (c.formOf n) (c.formOf n') := by
  unfold Catalog.formOf
  cases c.rule with
  | none =>
      refine (Value.equal_eases hn (.same _)).map ?_
      rintro isOne _ rfl
      rfl
  | some rule =>
      simp only [← Value.number?_eases hn]
      cases n.number? with
      | none => exact .error trivial
      | some x => exact .ok rfl

theorem counted?_eases (t : Translations) {key key' n n' : Value} (hkey : Eases key key')
    (hn : Eases n n') : Carries Eq (t.counted? key n) (t.counted? key' n') := by
  -- The induction is on the chain, each catalog of which looks at the number by its own rule.
  induction t with
  | nil => exact .ok rfl
  | cons c t ih =>
      refine (formOf_eases c hn).bind ?_
      rintro i _ rfl
      cases hfault : key.keyFault? with
      | some f => exact .error (Value.keyFault?_ofUse hfault)
      | none =>
          obtain rfl := Value.eq_of_keyFault? hkey hfault
          simp only [hfault]
          cases key.text?.bind (c.form? · i) with
          | none => exact ih
          | some form => exact .ok rfl

theorem lookUpCounted_eases (t : Translations) {key key' one one' many many' n n' : Value}
    (hkey : Eases key key') (hone : Eases one one') (hmany : Eases many many')
    (hn : Eases n n') :
    Carries Eases (lookUpCounted t key one many n) (lookUpCounted t key' one' many' n') := by
  refine (counted?_eases t hkey hn).bind ?_
  rintro found _ rfl
  cases found with
  | some form => exact .ok (.same _)
  | none =>
      refine (Value.equal_eases hn (.same _)).bind ?_
      rintro isOne _ rfl
      exact .ite (.ok hone) (.ok hmany)

theorem contextKey_eases (t : Translations) {context context' m m' : Value}
    (hcontext : Eases context context') (hm : Eases m m') :
    Carries Eases (contextKey t context m) (contextKey t context' m') := by
  refine .ite (.ok hm) ((Value.str_eases hcontext).bind ?_)
  rintro c _ rfl
  refine (Value.str_eases hm).bind ?_
  rintro s _ rfl
  exact .ok (.same _)

theorem cycle_eases (t : Translations) (i n : Nat) (hargs : List.Forall₂ Eases args args')
    (hkeywords : NamedEase keywords keywords') :
    Carries Eases (translate t (.cycle i n) args keywords)
      (translate t (.cycle i n) args' keywords') := by
  simp only [translate]
  cases hkeywords with
  | cons h _ => exact Signature.argumentFault_carries
  | nil =>
      cases hargs with
      | nil => exact Signature.argumentFault_carries
      | cons hv hvs =>
          have hall := List.Forall₂.cons hv hvs
          simp only [← hall.length_eq, List.getD_eq_getElem?_getD]
          refine .ok ?_
          rcases rel_cases (Value.getElem?_ease hall (i % _)) with ⟨hx, hy⟩ | ⟨x, y, hx, hy, hxy⟩
          · rw [hx, hy]
            exact .same _
          · rw [hx, hy]
            exact hxy

theorem translate_eases (t : Translations) (f : Lookup) (hargs : List.Forall₂ Eases args args')
    (hkeywords : NamedEase keywords keywords') :
    Carries Eases (translate t f args keywords) (translate t f args' keywords') := by
  -- What is looked up is the text of the messages, and an eased value has the same text. Where
  -- nothing is found, the messages themselves come back, eased.
  cases f with
  | gettext =>
      refine (Signature.bind_eases _ hargs hkeywords).bind fun vs ws hvs => ?_
      rcases hvs with - | ⟨hm, - | -⟩
      case cons.nil => exact lookUp_eases t hm hm
      all_goals exact .ok (.same _)
  | ngettext =>
      refine (Signature.bind_eases _ hargs hkeywords).bind fun vs ws hvs => ?_
      rcases hvs with - | ⟨hone, - | ⟨hmany, - | ⟨hn, - | -⟩⟩⟩
      case cons.cons.cons.nil => exact lookUpCounted_eases t hone hone hmany hn
      all_goals exact .ok (.same _)
  | pgettext =>
      refine (Signature.bind_eases _ hargs hkeywords).bind fun vs ws hvs => ?_
      rcases hvs with - | ⟨hc, - | ⟨hm, - | -⟩⟩
      case cons.cons.nil =>
        exact (contextKey_eases t hc hm).bind fun _ _ hkey => lookUp_eases t hkey hm
      all_goals exact .ok (.same _)
  | npgettext =>
      refine (Signature.bind_eases _ hargs hkeywords).bind fun vs ws hvs => ?_
      rcases hvs with - | ⟨hc, - | ⟨hone, - | ⟨hmany, - | ⟨hn, - | -⟩⟩⟩⟩
      case cons.cons.cons.cons.nil =>
        exact (contextKey_eases t hc hone).bind fun _ _ hkey =>
          lookUpCounted_eases t hkey hone hmany hn
      all_goals exact .ok (.same _)
  | cycle i n => exact cycle_eases t i n hargs hkeywords
  | byName => exact .error trivial

theorem applyCall_eases (hs : s.Eases t) {f f' : Value} (hf : Eases f f')
    (hargs : List.Forall₂ Eases args args') (hkeywords : NamedEase keywords keywords') :
    Carries Eases (applyCall s f args keywords) (applyCall t f' args' keywords') := by
  have htranslate (g : Lookup) : Carries Eases (translate s.translations g args keywords)
      (translate t.translations g args' keywords') :=
    hs.translations ▸ translate_eases s.translations g hargs hkeywords
  cases f with
  | undefined u => exact .refuse
  | function g =>
      cases hf
      cases g with
      | byName =>
          -- Which function is meant is looked up, and no two of them are eased.
          simp only [applyCall]
          rcases rel_cases (hs.findOuter "gettext") with ⟨hv, hv'⟩ | ⟨v, w, hv, hw, hvw⟩
          · rw [hv]
            exact .refuse
          · rw [hv, hw]
            cases v with
            | function g => cases hvw; exact htranslate g
            | undefined u => exact .refuse
            | _ => exact .error trivial
      | gettext | ngettext | pgettext | npgettext | cycle _ _ =>
          simp only [applyCall]
          exact htranslate _
  | _ => exact .error trivial

theorem transFilter_eases (hs : s.Eases t) (hargs : List.Forall₂ Eases args args')
    (hkeywords : NamedEase keywords keywords') :
    Carries Eases (transFilter s args keywords) (transFilter t args' keywords') := by
  refine (Signature.bind_eases _ hargs hkeywords).bind fun vs ws hvs => ?_
  rcases hvs with - | ⟨hm, - | -⟩
  case cons.nil =>
    refine (Value.str_eases hm).bind ?_
    rintro m _ rfl
    rw [← hs.translations]
    exact translate_eases _ _ (.cons (.same _) .nil) .nil
  all_goals exact .ok (.same _)

theorem applyFilter_eases (hs : s.Eases t) (name : String) (contextual : Bool)
    (hargs : List.Forall₂ Eases args args') (hkeywords : NamedEase keywords keywords') :
    Carries Eases (applyFilter s name contextual args keywords)
      (applyFilter t name contextual args' keywords') := by
  unfold applyFilter
  rw [← hs.transFilter]
  refine .ite (.ite (.ite (transFilter_eases hs hargs hkeywords) Signature.argumentFault_carries)
    (.error trivial)) ?_
  rcases rel_cases (Filter.run?_eases hs.strict name hargs hkeywords) with
    ⟨hr, hr'⟩ | ⟨r, r', hr, hr', hrun⟩
  · rw [hr]
    exact .error trivial
  · rw [hr, hr']
    exact hrun

theorem applyTest_eases (name : String) (hargs : List.Forall₂ Eases args args')
    (hkeywords : NamedEase keywords keywords') :
    Carries Eases (applyTest name args keywords) (applyTest name args' keywords') := by
  unfold applyTest
  rcases rel_cases (Test.run?_eases name hargs hkeywords) with ⟨hr, hr'⟩ | ⟨r, r', hr, hr', hrun⟩
  · rw [hr]
    exact .error trivial
  · rw [hr, hr']
    exact hrun

/-! ## Expressions -/

theorem keywords_ease (names : List String) {vs ws : List Value} (h : List.Forall₂ Eases vs ws) :
    NamedEase (names.zip vs) (names.zip ws) := by
  induction h generalizing names with
  | nil =>
      rw [List.zip_nil_right]
      exact .nil
  | cons hvw _ ih =>
      cases names with
      | nil => exact .nil
      | cons n names => exact .cons ⟨rfl, hvw⟩ (ih names)

theorem entriesInOrder_eases {ks ks' vs vs' : List (Except Fault Value)}
    (hks : List.Forall₂ (Carries Eases) ks ks') (hvs : List.Forall₂ (Carries Eases) vs vs') :
    Carries (fun es fs => List.Forall₂ Eases es.1 fs.1 ∧ List.Forall₂ Eases es.2 fs.2)
      (entriesInOrder (fun _ => .ok ()) ks vs) (entriesInOrder (fun _ => .ok ()) ks' vs') := by
  induction hks generalizing vs vs' with
  | nil => exact .ok ⟨.nil, .nil⟩
  | cons hk _ ih =>
      cases hvs with
      | nil => exact .ok ⟨.nil, .nil⟩
      | cons hv hvs =>
          exact hk.bind fun _ _ hk => hv.bind fun _ _ hv => (ih hvs).bind fun _ _ h =>
            .ok ⟨.cons hk h.1, .cons hv h.2⟩

/-- What an expression gives in a scope another one gives in another scope, up to easing. -/
def Expr.Follows (s t : Scope) (e e' : Expr) : Prop :=
  Carries Value.Eases (evaluate s e) (evaluate t e')

theorem evaluateAll_follow {es es' : List Expr} (h : List.Forall₂ (Expr.Follows s t) es es') :
    Carries (List.Forall₂ Eases) (evaluateAll s es) (evaluateAll t es') := by
  induction h with
  | nil => exact .ok .nil
  | cons he _ ih => exact he.bind fun _ _ hv => ih.bind fun _ _ hvs => .ok (.cons hv hvs)

theorem evaluateEach_follow {es es' : List Expr} (h : List.Forall₂ (Expr.Follows s t) es es') :
    List.Forall₂ (Carries Eases) (evaluateEach s es) (evaluateEach t es') := by
  induction h with
  | nil => exact .nil
  | cons he _ ih => exact .cons he ih

theorem evaluateChain_follow {es es' : List Expr} (h : List.Forall₂ (Expr.Follows s t) es es')
    {v v' : Value} (hv : Eases v v') (ops : List Comparison) :
    Carries Eq (evaluateChain s v ops es) (evaluateChain t v' ops es') := by
  induction h generalizing v v' ops with
  | nil => exact .ok rfl
  | cons he _ ih =>
      rw [evaluateChain, evaluateChain]
      refine he.bind fun w w' hw => ?_
      cases ops with
      | nil => exact .ok rfl
      | cons op ops =>
          refine (op.apply_eases hv hw).bind ?_
          rintro b _ rfl
          exact .ite (ih hw ops) (.ok rfl)

namespace Expr.Follows

variable {e e' f f' l l' r r' : Expr} {es es' fs fs' : List Expr}

theorem const (v : Value) : Follows s t (.const v) (.const v) := .ok (.same v)

theorem name (hs : s.Eases t) (n : String) : Follows s t (.name n) (.name n) :=
  .ok (Scope.value_eases hs n)

theorem list (h : List.Forall₂ (Follows s t) es es') : Follows s t (.list es) (.list es') :=
  (evaluateAll_follow h).bind fun _ _ hvs => .ok (.list hvs)

theorem tuple (h : List.Forall₂ (Follows s t) es es') : Follows s t (.tuple es) (.tuple es') :=
  (evaluateAll_follow h).bind fun _ _ hvs => .ok (.tuple hvs)

theorem dict (hes : List.Forall₂ (Follows s t) es es') (hfs : List.Forall₂ (Follows s t) fs fs') :
    Follows s t (.dict es fs) (.dict es' fs') :=
  (entriesInOrder_eases (evaluateEach_follow hes) (evaluateEach_follow hfs)).bind fun _ _ h =>
    makeDict_eases h.1 h.2

theorem member (hs : s.Eases t) (h : Follows s t e e') (n : String) :
    Follows s t (.member e n) (.member e' n) :=
  h.bind fun _ _ hv => Value.item_eases hs.strict hv (.same _)

theorem item (hs : s.Eases t) (h : Follows s t e e') (hf : Follows s t f f') :
    Follows s t (.item e f) (.item e' f') :=
  h.bind fun _ _ hv => hf.bind fun _ _ hw => Value.item_eases hs.strict hv hw

theorem call (hs : s.Eases t) (h : Follows s t e e') (hes : List.Forall₂ (Follows s t) es es')
    (keywords : List String) (hfs : List.Forall₂ (Follows s t) fs fs') :
    Follows s t (.call e es keywords fs) (.call e' es' keywords fs') :=
  h.bind fun _ _ hv => (evaluateAll_follow hes).bind fun _ _ has =>
    (evaluateAll_follow hfs).bind fun _ _ hvs => applyCall_eases hs hv has (keywords_ease _ hvs)

theorem filter (hs : s.Eases t) (h : Follows s t e e') (name : String)
    (hes : List.Forall₂ (Follows s t) es es') (keywords : List String)
    (hfs : List.Forall₂ (Follows s t) fs fs') (line line' : Nat) (contextual : Bool) :
    Follows s t (.filter e name es keywords fs line contextual)
      (.filter e' name es' keywords fs' line' contextual) :=
  h.bind fun _ _ hv => (evaluateAll_follow hes).bind fun _ _ has =>
    (evaluateAll_follow hfs).bind fun _ _ hvs =>
      applyFilter_eases hs name contextual (.cons hv has) (keywords_ease _ hvs)

theorem test (h : Follows s t e e') (name : String) (hes : List.Forall₂ (Follows s t) es es')
    (keywords : List String) (hfs : List.Forall₂ (Follows s t) fs fs') (line line' : Nat) :
    Follows s t (.test e name es keywords fs line) (.test e' name es' keywords fs' line') :=
  h.bind fun _ _ hv => (evaluateAll_follow hes).bind fun _ _ has =>
    (evaluateAll_follow hfs).bind fun _ _ hvs =>
      applyTest_eases name (.cons hv has) (keywords_ease _ hvs)

theorem sign (minus : Bool) (h : Follows s t e e') :
    Follows s t (.sign minus e) (.sign minus e') :=
  h.bind fun _ _ hv => applySign_eases minus hv

theorem not (h : Follows s t e e') : Follows s t (.not e) (.not e') :=
  h.bind fun _ _ hv => (Value.truth_eases hv).bind fun _ _ hb => .ok (hb ▸ .same _)

theorem binary (op : BinaryOp) (hl : Follows s t l l') (hr : Follows s t r r') :
    Follows s t (.binary op l r) (.binary op l' r') :=
  hl.bind fun _ _ hv => hr.bind fun _ _ hw => op.apply_eases hv hw

theorem and (hl : Follows s t l l') (hr : Follows s t r r') :
    Follows s t (.and l r) (.and l' r') := by
  refine hl.bind fun v w hvw => (Value.truth_eases hvw).bind ?_
  rintro b _ rfl
  exact .ite hr (.ok hvw)

theorem or (hl : Follows s t l l') (hr : Follows s t r r') :
    Follows s t (.or l r) (.or l' r') := by
  refine hl.bind fun v w hvw => (Value.truth_eases hvw).bind ?_
  rintro b _ rfl
  exact .ite (.ok hvw) hr

theorem concat (h : List.Forall₂ (Follows s t) es es') : Follows s t (.concat es) (.concat es') :=
  (evaluateAll_follow h).bind fun _ _ hvs => joinMarkup_eases hvs

theorem compare (h : Follows s t e e') (ops : List Comparison)
    (hes : List.Forall₂ (Follows s t) es es') :
    Follows s t (.compare e ops es) (.compare e' ops es') :=
  h.bind fun _ _ hv => (evaluateChain_follow hes hv ops).bind fun _ _ hb => .ok (hb ▸ .same _)

theorem choose (h : Follows s t e e') (hl : Follows s t l l') (hr : Follows s t r r') :
    Follows s t (.choose e l r) (.choose e' l' r') := by
  refine h.bind fun v w hvw => (Value.truth_eases hvw).bind ?_
  rintro b _ rfl
  exact .ite hl hr

theorem chooseSome (hs : s.Eases t) (h : Follows s t e e') (hl : Follows s t l l') (line : Nat) :
    Follows s t (.chooseSome e l line) (.chooseSome e' l' line) := by
  refine h.bind fun v w hvw => (Value.truth_eases hvw).bind ?_
  rintro b _ rfl
  exact .ite hl (.ok (hs.template ▸ .same _))

end Expr.Follows

mutual

/-- An expression gives in an eased scope what it gives, up to easing. -/
theorem evaluate_eases (hs : s.Eases t) (e : Expr) : e.Follows s t e := by
  -- The compiled expression is the same on both sides here, so each case is one of the ways above
  -- with the same parts.
  match e with
  | .const v => exact .const v
  | .name n => exact .name hs n
  | .list es => exact .list (evaluateAll_eases hs es)
  | .tuple es => exact .tuple (evaluateAll_eases hs es)
  | .concat es => exact .concat (evaluateAll_eases hs es)
  | .dict es fs => exact .dict (evaluateAll_eases hs es) (evaluateAll_eases hs fs)
  | .member e n => exact .member hs (evaluate_eases hs e) n
  | .sign minus e => exact .sign minus (evaluate_eases hs e)
  | .not e => exact .not (evaluate_eases hs e)
  | .item e f => exact .item hs (evaluate_eases hs e) (evaluate_eases hs f)
  | .binary op l r => exact .binary op (evaluate_eases hs l) (evaluate_eases hs r)
  | .and l r => exact .and (evaluate_eases hs l) (evaluate_eases hs r)
  | .or l r => exact .or (evaluate_eases hs l) (evaluate_eases hs r)
  | .chooseSome e l line => exact .chooseSome hs (evaluate_eases hs e) (evaluate_eases hs l) line
  | .choose e l r =>
      exact .choose (evaluate_eases hs e) (evaluate_eases hs l) (evaluate_eases hs r)
  | .compare e ops es => exact .compare (evaluate_eases hs e) ops (evaluateAll_eases hs es)
  | .call e es keywords fs =>
      exact .call hs (evaluate_eases hs e) (evaluateAll_eases hs es) keywords
        (evaluateAll_eases hs fs)
  | .filter e n es keywords fs line contextual =>
      exact .filter hs (evaluate_eases hs e) n (evaluateAll_eases hs es) keywords
        (evaluateAll_eases hs fs) line line contextual
  | .test e n es keywords fs line =>
      exact .test (evaluate_eases hs e) n (evaluateAll_eases hs es) keywords
        (evaluateAll_eases hs fs) line line

theorem evaluateAll_eases (hs : s.Eases t) (es : List Expr) :
    List.Forall₂ (Expr.Follows s t) es es := by
  match es with
  | [] => exact .nil
  | e :: es => exact .cons (evaluate_eases hs e) (evaluateAll_eases hs es)

end

/-! ## Translatable blocks -/

/-- A block whose expressions follow those of another one, and which is the same otherwise. -/
structure TransBlock.Follows (s t : Scope) (b b' : TransBlock) : Prop where
  context : b.context = b'.context
  names : b.names = b'.names
  values : List.Forall₂ (Expr.Follows s t) b.values b'.values
  singular : b.singular = b'.singular
  plural : b.plural = b'.plural
  count : Option.Rel (Expr.Follows s t) b.count b'.count
  trimmed : b.trimmed = b'.trimmed

variable {b b' : TransBlock}

theorem TransBlock.Follows.message (h : b.Follows s t b') (pieces : List Piece) :
    b.message pieces = b'.message pieces := by
  have hmentions : b.mentions = b'.mentions := by
    rw [TransBlock.mentions, TransBlock.mentions, h.singular, h.plural]
  rw [TransBlock.message, TransBlock.message, hmentions, h.trimmed]

theorem TransBlock.Follows.functionName (h : b.Follows s t b') :
    b.functionName = b'.functionName := by
  rw [TransBlock.functionName, TransBlock.functionName, h.context, isSome_of_rel h.count]

theorem blockArguments_follow (h : b.Follows s t b') :
    Carries (List.Forall₂ Eases) (blockArguments s b) (blockArguments t b') := by
  unfold blockArguments
  simp only [← h.context, ← h.singular, ← h.plural, ← h.message]
  have hone : List.Forall₂ Eases
      ((b.context.map Value.text).toList ++ [.text (b.message b.singular)])
      ((b.context.map Value.text).toList ++ [.text (b.message b.singular)]) := Value.allEase_refl _
  rcases rel_cases h.count with ⟨hc, hc'⟩ | ⟨e, e', hc, hc', he⟩
  · rw [hc, hc']
    cases b.plural <;> exact .ok hone
  · rw [hc, hc']
    cases b.plural with
    | none => exact .ok hone
    | some many =>
        refine he.bind fun n n' hn => .ok ?_
        exact List.rel_append (Value.allEase_refl _) (.cons (.same _) (.cons (.same _) (.cons hn .nil)))

/-- A translatable block in an eased scope has the same markup. -/
theorem evaluateBlock_follow (hs : s.Eases t) (h : b.Follows s t b') :
    Carries Eq (evaluateBlock s b) (evaluateBlock t b') := by
  unfold evaluateBlock
  rw [← h.functionName]
  refine (blockArguments_follow h).bind fun args args' hargs => ?_
  refine (applyCall_eases hs (Scope.value_eases hs _) hargs .nil).bind fun v w hvw => ?_
  refine (Value.str_eases hvw).bind ?_
  rintro text _ rfl
  rw [← h.names]
  refine .ite (.ok rfl) ?_
  refine (evaluateAll_follow h.values).bind fun vs ws hvs => ?_
  refine (makeDict_eases (Value.allEase_refl _) hvs).bind fun d d' hd => ?_
  exact Format.fill_eases text (Format.supplyOf_eases true hd)

end Template

end Stencil
