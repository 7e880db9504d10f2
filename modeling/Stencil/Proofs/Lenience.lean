import Stencil.Proofs.Settling

/-!
# Templates compiled for less strict rendering

A template is compiled twice, once for an engine to which undefined values are strict and
once for one to which they are not. The two results have the same shape: statement by
statement they mention the same names, so they bind names in the same scopes, and their
expressions evaluate alike, up to easing. Only where a constant is printed may the one have
literal text and the other an expression, and then the text is what the expression comes to.

Where the less strict engine prints a text that it computed, and the strict one an expression,
the expression cannot come to anything, because otherwise the strict engine would have
computed the text as well.

## Main definitions

* `Expr.Leads`, `TransBlock.Leads`, `Stmt.Leads`: What is compiled for strict rendering, and
  what is compiled for rendering that is not strict.

## Theorems

* `prepare_settles`: Preparing an expression settles it.
* `refsAll_eq`, `mentionsAny_eq`: Both results do the same with names.
* `prepareOutput_leads`: An output that is printed or computed.
* `compile_leads`: The same source compiles to the one and to the other.
-/

namespace Stencil

namespace Template

open Value (Eases NamedEase)

variable {s t : Settings}

mutual

/-- Preparing an expression settles it. -/
theorem prepare_settles {soft : Bool} {e e' : Expr} (h : prepare s soft e = .ok e') :
    Settles s e e' := by
  match e with
  | .const v =>
      cases h
      exact .const v
  | .name n =>
      cases h
      exact .name n
  | .list es =>
      obtain ⟨es', hes, h⟩ := exists_of_bind_eq_ok h
      cases h
      exact .list (prepares_settle hes)
  | .tuple es =>
      obtain ⟨es', hes, h⟩ := exists_of_bind_eq_ok h
      cases h
      exact .tuple (prepares_settle hes)
  | .dict es fs =>
      obtain ⟨es', hes, h⟩ := exists_of_bind_eq_ok h
      obtain ⟨fs', hfs, h⟩ := exists_of_bind_eq_ok h
      cases h
      exact .dict (prepares_settle hes) (prepares_settle hfs)
  -- All others are folded as a whole and then checked.
  | .member .. | .item .. | .call .. | .filter .. | .test .. | .sign .. | .not .. | .binary ..
  | .and .. | .or .. | .concat .. | .compare .. | .choose .. | .chooseSome .. =>
      obtain ⟨f, hf, h⟩ := exists_of_bind_eq_ok h
      exact (fold_folds hf).settles soft e' h

theorem prepares_settle {soft : Bool} {es es' : List Expr} (h : prepares s soft es = .ok es') :
    SettleAll s es es' := by
  match es with
  | [] =>
      cases h
      exact .nil
  | e :: es =>
      obtain ⟨e₁, he, h⟩ := exists_of_bind_eq_ok h
      obtain ⟨es₁, hes, h⟩ := exists_of_bind_eq_ok h
      cases h
      exact .cons (prepare_settles he) (prepares_settle hes)

end

/-! ## Leading -/

/-- A strict scope, and one that is not strict and otherwise eased. -/
structure Scope.Softens (sc tc : Scope) : Prop where
  eases : sc.Eases tc
  strict : sc.strict = true
  lenient : tc.strict = false

/-- Strict settings, and settings that are not strict and otherwise the same. -/
structure Settings.Softens (s t : Settings) : Prop where
  strict : s.strict = true
  lenient : t.strict = false
  tags : s.tags = t.tags

theorem Settings.Softens.eases (h : s.Softens t) : s.Eases t :=
  ⟨fun _ => h.strict, h.tags⟩

theorem Scope.Softens.meets {sc tc : Scope} (hsc : sc.Softens tc) (h : s.Softens t) :
    Scope.Meets s t sc tc :=
  ⟨hsc.eases, hsc.strict.trans h.strict.symm, hsc.lenient.trans h.lenient.symm⟩

/-- An expression for strict rendering and one for rendering that is not: they mention the same
    names, and what the first gives the second gives, up to easing. -/
structure Expr.Leads (e e' : Expr) : Prop where
  names : e'.names = e.names
  follows : ∀ sc tc : Scope, sc.Softens tc → e.Follows sc tc e'

theorem Expr.Leads.refl (e : Expr) : e.Leads e :=
  ⟨rfl, fun _ _ hsc => evaluate_eases hsc.eases e⟩

theorem Settles.leads (h : s.Softens t) {e e₁ e₂ : Expr} (h₁ : Settles s e e₁)
    (h₂ : Settles t e e₂) : e₁.Leads e₂ :=
  ⟨h₂.names.trans h₁.names.symm, fun _ _ hsc => h₁.follows h.eases (hsc.meets h) h₂⟩

theorem SettleAll.lead (h : s.Softens t) {es es₁ es₂ : List Expr} (h₁ : SettleAll s es es₁)
    (h₂ : SettleAll t es es₂) : List.Forall₂ Expr.Leads es₁ es₂ := by
  induction es generalizing es₁ es₂ with
  | nil =>
      cases h₁
      cases h₂
      exact .nil
  | cons e es ih => cases h₁ with
    | cons he hes => cases h₂ with
      | cons he' hes' => exact .cons (he.leads h he') (ih hes hes')

theorem namesOfAll_eq {es es' : List Expr} (h : List.Forall₂ Expr.Leads es es') :
    namesOfAll es' = namesOfAll es := by
  induction h with
  | nil => rfl
  | cons he _ ih => rw [namesOfAll, namesOfAll, he.names, ih]

/-- A translatable block for strict rendering and one for rendering that is not. -/
structure TransBlock.Leads (b b' : TransBlock) : Prop where
  context : b.context = b'.context
  names : b.names = b'.names
  values : List.Forall₂ Expr.Leads b.values b'.values
  singular : b.singular = b'.singular
  plural : b.plural = b'.plural
  count : Option.Rel Expr.Leads b.count b'.count
  trimmed : b.trimmed = b'.trimmed

theorem TransBlock.Leads.refl (b : TransBlock) : b.Leads b where
  context := rfl
  names := rfl
  values := List.forall₂_same.mpr fun e _ => .refl e
  singular := rfl
  plural := rfl
  count := by
    cases b.count with
    | none => exact .none
    | some e => exact .some (.refl e)
  trimmed := rfl

theorem TransBlock.Leads.follows {b b' : TransBlock} (h : b.Leads b') {sc tc : Scope}
    (hsc : sc.Softens tc) : b.Follows sc tc b' where
  context := h.context
  names := h.names
  values := h.values.imp fun _ _ he => he.follows sc tc hsc
  singular := h.singular
  plural := h.plural
  count := by
    rcases rel_cases h.count with ⟨hc, hc'⟩ | ⟨e, e', hc, hc', he⟩
    · rw [hc, hc']
      exact .none
    · rw [hc, hc']
      exact .some (he.follows sc tc hsc)
  trimmed := h.trimmed

theorem TransBlock.Leads.allNames {b b' : TransBlock} (h : b.Leads b') :
    b'.allNames = b.allNames := by
  have hcount : (b'.count.map Expr.names).getD [] = (b.count.map Expr.names).getD [] := by
    rcases rel_cases h.count with ⟨hc, hc'⟩ | ⟨e, e', hc, hc', he⟩
    · rw [hc, hc']
    · rw [hc, hc', Option.map_some, Option.map_some, he.names]
  have hname : b'.functionName = b.functionName := by
    rw [TransBlock.functionName, TransBlock.functionName, h.context, isSome_of_rel h.count]
  rw [TransBlock.allNames, TransBlock.allNames, hname, hcount, namesOfAll_eq h.values]

/-- The text that is printed for an expression. -/
def Scope.output (sc : Scope) (e : Expr) : Except Fault String := do (← evaluate sc e).escaped

mutual

/-- A statement for strict rendering and one for rendering that is not. -/
inductive Stmt.Leads : Stmt → Stmt → Prop
  | text (x : String) : Stmt.Leads (.text x) (.text x)
  | print {e e' : Expr} (names : e'.names = e.names)
      (h : ∀ sc tc : Scope, sc.Softens tc → Carries Eq (sc.output e) (tc.output e')) :
      Stmt.Leads (.print e) (.print e')
  | settled {e : Expr} {x : String} (names : e.names = [])
      (h : ∀ sc : Scope, sc.strict = true → Carries Eq (sc.output e) (.ok x)) :
      Stmt.Leads (.print e) (.text x)
  | branch {test test' : Expr} {body body' orelse orelse' : List Stmt} (htest : test.Leads test')
      (hbody : StmtsLead body body') (horelse : StmtsLead orelse orelse') (chained : Bool) :
      Stmt.Leads (.branch test body orelse chained) (.branch test' body' orelse' chained)
  | loop (target : Target) (line : Nat) {iter iter' : Expr} {test test' : Option Expr}
      {body body' orelse orelse' : List Stmt} (hiter : iter.Leads iter')
      (htest : Option.Rel Expr.Leads test test') (hbody : StmtsLead body body')
      (horelse : StmtsLead orelse orelse') :
      Stmt.Leads (.loop target line iter test body orelse)
        (.loop target line iter' test' body' orelse')
  | set (target : Target) (line : Nat) {e e' : Expr} (he : e.Leads e') :
      Stmt.Leads (.set target line e) (.set target line e')
  | inclusion {e e' : Expr} (he : e.Leads e') (ignoreMissing withContext : Bool) :
      Stmt.Leads (.include e ignoreMissing withContext) (.include e' ignoreMissing withContext)
  | trans {b b' : TransBlock} (hb : b.Leads b') : Stmt.Leads (.trans b) (.trans b')

/-- Statements for strict rendering and statements for rendering that is not, one by one. -/
inductive StmtsLead : List Stmt → List Stmt → Prop
  | nil : StmtsLead [] []
  | cons {a a' : Stmt} {ss ss' : List Stmt} (ha : a.Leads a') (hss : StmtsLead ss ss') :
      StmtsLead (a :: ss) (a' :: ss')

end

theorem Expr.Leads.print {e e' : Expr} (h : e.Leads e') : Stmt.Leads (.print e) (.print e') :=
  .print h.names fun sc tc hsc => (h.follows sc tc hsc).bind fun _ _ hv => Value.escaped_eases hv

theorem Expr.Leads.rel_refl (e : Option Expr) : Option.Rel Expr.Leads e e := by
  cases e with
  | none => exact .none
  | some e => exact .some (.refl e)

mutual

/-- A template that is kept serves both ways of rendering. -/
theorem Stmt.Leads.refl (a : Stmt) : a.Leads a := by
  match a with
  | .text x => exact .text x
  | .print e => exact (Expr.Leads.refl e).print
  | .branch test body orelse chained =>
      exact .branch (.refl test) (StmtsLead.refl body) (StmtsLead.refl orelse) chained
  | .loop target line iter test body orelse =>
      exact .loop target line (.refl iter) (Expr.Leads.rel_refl test) (StmtsLead.refl body)
        (StmtsLead.refl orelse)
  | .set target line e => exact .set target line (.refl e)
  | .include e ignoreMissing withContext => exact .inclusion (.refl e) ignoreMissing withContext
  | .trans b => exact .trans (.refl b)

theorem StmtsLead.refl (ss : List Stmt) : StmtsLead ss ss := by
  match ss with
  | [] => exact .nil
  | a :: ss => exact .cons (Stmt.Leads.refl a) (StmtsLead.refl ss)

end

/-! ## What is done with names -/

mutual

theorem mentionsOne_eq (n : String) {a a' : Stmt} (h : a.Leads a') :
    mentionsOne n a' = mentionsOne n a := by
  cases h with
  | text x => rfl
  | print names => rw [mentionsOne, mentionsOne, names]
  | settled names =>
      rw [mentionsOne, mentionsOne, names]
      rfl
  | branch htest hbody horelse =>
      rw [mentionsOne, mentionsOne, htest.names, mentionsAny_eq n hbody, mentionsAny_eq n horelse]
  | loop target line hiter htest hbody horelse =>
      rw [mentionsOne, mentionsOne, hiter.names, mentionsAny_eq n hbody, mentionsAny_eq n horelse]
      rcases rel_cases htest with ⟨ht, ht'⟩ | ⟨e, e', ht, ht', he⟩
      · rw [ht, ht']
      · rw [ht, ht', Option.any_some, Option.any_some, he.names]
  | set target line he => rw [mentionsOne, mentionsOne, he.names]
  | inclusion he => rw [mentionsOne, mentionsOne, he.names]
  | trans hb => rw [mentionsOne, mentionsOne, hb.allNames]

theorem mentionsAny_eq (n : String) {ss ss' : List Stmt} (h : StmtsLead ss ss') :
    mentionsAny n ss' = mentionsAny n ss := by
  cases h with
  | nil => rfl
  | cons ha hss => rw [mentionsAny, mentionsAny, mentionsOne_eq n ha, mentionsAny_eq n hss]

end

mutual

theorem refsOne_eq (outer : List String) (r : Refs) {a a' : Stmt} (h : a.Leads a') :
    refsOne outer r a' = refsOne outer r a := by
  cases h with
  | text x => rfl
  | print names => rw [refsOne, refsOne, names]
  | settled names =>
      rw [refsOne, refsOne, names]
      rfl
  | branch htest hbody horelse chained =>
      simp only [refsOne, htest.names, refsAll_eq outer _ hbody, refsAll_eq outer _ horelse,
        refsChain_eq outer _ horelse, refsLast_eq outer _ horelse]
  | loop target line hiter => rw [refsOne, refsOne, hiter.names]
  | set target line he => rw [refsOne, refsOne, he.names]
  | inclusion he => rw [refsOne, refsOne, he.names]
  | trans hb => rw [refsOne, refsOne, hb.allNames]

/-- Statements and those they lead do the same with names. -/
theorem refsAll_eq (outer : List String) (r : Refs) {ss ss' : List Stmt} (h : StmtsLead ss ss') :
    refsAll outer r ss' = refsAll outer r ss := by
  cases h with
  | nil => rfl
  | cons ha hss => rw [refsAll, refsAll, refsOne_eq outer r ha, refsAll_eq outer _ hss]

theorem refsChain_eq (outer : List String) (r : Refs) {ss ss' : List Stmt} (h : StmtsLead ss ss') :
    refsChain outer r ss' = refsChain outer r ss := by
  cases h with
  | nil => rfl
  | cons ha hss => cases hss with
    | cons => cases ha <;> rfl
    | nil => cases ha with
      | branch htest hbody horelse chained =>
          simp only [refsChain, htest.names, refsAll_eq outer _ hbody, refsChain_eq outer _ horelse]
      | _ => rfl

theorem refsLast_eq (outer : List String) (r : Refs) {ss ss' : List Stmt} (h : StmtsLead ss ss') :
    refsLast outer r ss' = refsLast outer r ss := by
  cases h with
  | nil => rfl
  | cons ha hss => cases hss with
    | cons => cases ha <;> rfl
    | nil => cases ha with
      | branch htest hbody horelse chained =>
          simp only [refsLast, refsAll_eq outer _ horelse, refsLast_eq outer _ horelse]
      | _ => rfl

end

/-! ## Compiling -/

variable {soft : Bool}

theorem prepare_leads (h : s.Softens t) {e e₁ e₂ : Expr} (h₁ : prepare s soft e = .ok e₁)
    (h₂ : prepare t soft e = .ok e₂) : e₁.Leads e₂ :=
  (prepare_settles h₁).leads h (prepare_settles h₂)

/-- An output is a text if the text is computed, and else the expression is printed. -/
theorem prepareOutput_cases {e : Expr} {a : Stmt} (h : prepareOutput s soft e = .ok a) :
    (∃ v x, constant s e = .value v ∧ v.escaped = .ok x ∧ a = settledOutput e.names x) ∨
      (∀ v x, constant s e = .value v → v.escaped ≠ .ok x) ∧
        ∃ e', prepare s soft e = .ok e' ∧ a = .print e' := by
  unfold prepareOutput at h
  split at h
  · rename_i v hv
    split at h
    · rename_i x hx
      exact .inl ⟨v, x, hv, hx, (Except.ok.inj h).symm⟩
    · rename_i f hf
      obtain ⟨e', he, h⟩ := exists_of_bind_eq_ok h
      refine .inr ⟨fun w x hw hx => ?_, e', he, (Except.ok.inj h).symm⟩
      rw [hv] at hw
      cases hw
      rw [hf] at hx
      cases hx
  · rename_i hno
    obtain ⟨e', he, h⟩ := exists_of_bind_eq_ok h
    exact .inr ⟨fun v x hv => absurd hv (hno v), e', he, (Except.ok.inj h).symm⟩

theorem output_fails {sc : Scope} (e : Expr) {f : Fault} (h : sc.output e = .error f) : f.OfUse :=
  (((evaluate_eases (.refl sc) e).bind fun _ _ hv => Value.escaped_eases hv :
    Carries Eq (sc.output e) (sc.output e)).fails f h)

/-- Where the text of an expression is computed for less strict settings alone, a strict rendering
    does not come to one. -/
theorem output_refused (h : s.Softens t) {e e' : Expr} (he : Settles s e e')
    (hno : ∀ v x, constant s e = .value v → v.escaped ≠ .ok x) {w : Value}
    (hw : constant t e = .value w) {sc : Scope} (hsc : sc.strict = true)
    (r : Except Fault String) : Carries Eq (sc.output e') r where
  gives x hx := by
    obtain ⟨v, hv, hx⟩ := exists_of_bind_eq_ok hx
    have hconstant := (he.returns h.eases (hsc.trans h.strict.symm) v w hv hw).1
    exact absurd hx (hno v x hconstant)
  fails f hf := output_fails e' hf

/-- An output is led by the output of the same expression. -/
theorem prepareOutput_leads (h : s.Softens t) {e : Expr} {a b : Stmt}
    (ha : prepareOutput s soft e = .ok a) (hb : prepareOutput t soft e = .ok b) : a.Leads b := by
  rcases prepareOutput_cases ha with ⟨v, x, hv, hx, rfl⟩ | ⟨hno, e₁, he₁, rfl⟩
  · -- A text that strict settings compute is computed by the others too.
    obtain ⟨w, hw, hvw⟩ := (constant_carries h.eases e).gives v hv
    obtain ⟨y, hy, rfl⟩ := (Value.escaped_eases hvw).gives x hx
    rcases prepareOutput_cases hb with ⟨w', y', hw', hy', rfl⟩ | ⟨hno, -⟩
    · rw [hw] at hw'
      cases hw'
      rw [hy] at hy'
      cases hy'
      exact .refl _
    · exact absurd hy (hno w x hw)
  · have hsettles := prepare_settles he₁
    rcases prepareOutput_cases hb with ⟨w, y, hw, hy, rfl⟩ | ⟨-, e₂, he₂, rfl⟩
    · unfold settledOutput
      split
      · rename_i hempty
        exact .settled (hsettles.names.trans (List.isEmpty_iff.mp hempty)) fun sc hsc =>
          output_refused h hsettles hno hw hsc _
      · exact .print ((names_settled _ _).trans hsettles.names.symm) fun sc tc hsc =>
          output_refused h hsettles hno hw hsc.strict _
    · exact (prepare_leads h he₁ he₂).print

theorem prepareTest_leads (h : s.Softens t) {e : Option Expr} {e₁ e₂ : Option Expr}
    (h₁ : prepareTest s e = .ok e₁) (h₂ : prepareTest t e = .ok e₂) :
    Option.Rel Expr.Leads e₁ e₂ := by
  cases e with
  | none =>
      cases h₁
      cases h₂
      exact .none
  | some e =>
      obtain ⟨e', he, h₁⟩ := exists_of_bind_eq_ok h₁
      obtain ⟨e'', he', h₂⟩ := exists_of_bind_eq_ok h₂
      cases h₁
      cases h₂
      exact .some (prepare_leads h he he')

/-- The expression that a block counts by is settled, if it has one. -/
theorem settles_of_mapM {e f e' : Option Expr} (hf : e.mapM (fold s) = .ok f)
    (he' : f.mapM (check s soft) = .ok e') : Option.Rel (Settles s) e e' := by
  cases e with
  | none =>
      cases hf
      cases he'
      exact .none
  | some e =>
      obtain ⟨f', hf', hf⟩ := exists_of_bind_eq_ok hf
      cases hf
      obtain ⟨e'', he'', he'⟩ := exists_of_bind_eq_ok he'
      cases he'
      exact .some ((fold_folds hf').settles soft e'' he'')

/-- A block whose expressions are settled, and which is the same otherwise. -/
theorem prepareBlock_settles {b b' : TransBlock} (h : prepareBlock s soft b = .ok b') :
    ∃ count values, b' = { b with count, values } ∧ Option.Rel (Settles s) b.count count ∧
      SettleAll s b.values values := by
  obtain ⟨count, hcount, h⟩ := exists_of_bind_eq_ok h
  obtain ⟨values, hvalues, h⟩ := exists_of_bind_eq_ok h
  obtain ⟨count', hcount', h⟩ := exists_of_bind_eq_ok h
  obtain ⟨values', hvalues', h⟩ := exists_of_bind_eq_ok h
  exact ⟨count', values', (Except.ok.inj h).symm, settles_of_mapM hcount hcount',
    settleAll_of_folds (folds_fold hvalues) hvalues'⟩

theorem prepareBlock_leads (h : s.Softens t) {b b₁ b₂ : TransBlock}
    (h₁ : prepareBlock s soft b = .ok b₁) (h₂ : prepareBlock t soft b = .ok b₂) :
    b₁.Leads b₂ := by
  obtain ⟨count₁, values₁, rfl, hcount₁, hvalues₁⟩ := prepareBlock_settles h₁
  obtain ⟨count₂, values₂, rfl, hcount₂, hvalues₂⟩ := prepareBlock_settles h₂
  refine ⟨rfl, rfl, hvalues₁.lead h hvalues₂, rfl, rfl, ?_, rfl⟩
  -- A block has a count on both sides or on neither.
  rcases rel_cases hcount₁ with ⟨hc, hc₁⟩ | ⟨e, e₁, hc, hc₁, he₁⟩
  · rcases rel_cases hcount₂ with ⟨-, hc₂⟩ | ⟨e, e₂, hc', -, -⟩
    · rw [hc₁, hc₂]
      exact .none
    · rw [hc] at hc'
      cases hc'
  · rcases rel_cases hcount₂ with ⟨hc', -⟩ | ⟨e', e₂, hc', hc₂, he₂⟩
    · rw [hc] at hc'
      cases hc'
    · rw [hc] at hc'
      cases hc'
      rw [hc₁, hc₂]
      exact .some (he₁.leads h he₂)

mutual

theorem compileOne_leads (h : s.Softens t) {soft : Bool} {a a₁ a₂ : Stmt}
    (h₁ : compileOne s soft a = .ok a₁) (h₂ : compileOne t soft a = .ok a₂) : a₁.Leads a₂ := by
  -- Both compilations succeeded, so each of their steps did, and the parts lead to one another by
  -- induction.
  match a with
  | .text x =>
      cases h₁
      cases h₂
      exact .text x
  | .print e => exact prepareOutput_leads h h₁ h₂
  | .branch test body orelse chained =>
      obtain ⟨test₁, ht₁, h₁⟩ := exists_of_bind_eq_ok h₁
      obtain ⟨body₁, hb₁, h₁⟩ := exists_of_bind_eq_ok h₁
      obtain ⟨orelse₁, ho₁, h₁⟩ := exists_of_bind_eq_ok h₁
      obtain ⟨test₂, ht₂, h₂⟩ := exists_of_bind_eq_ok h₂
      obtain ⟨body₂, hb₂, h₂⟩ := exists_of_bind_eq_ok h₂
      obtain ⟨orelse₂, ho₂, h₂⟩ := exists_of_bind_eq_ok h₂
      cases h₁
      cases h₂
      exact .branch (prepare_leads h ht₁ ht₂) (compileAll_leads h hb₁ hb₂)
        (compileAll_leads h ho₁ ho₂) chained
  | .loop target line iter test body orelse =>
      obtain ⟨test₁, ht₁, h₁⟩ := exists_of_bind_eq_ok h₁
      obtain ⟨test₂, ht₂, h₂⟩ := exists_of_bind_eq_ok h₂
      have htest := prepareTest_leads h ht₁ ht₂
      -- Names are bound by the loop as it was read, and so they are refused on both sides.
      have hbinds (u u' : Option Expr) : bindsLoop? (.loop target line iter u body orelse) =
          bindsLoop? (.loop target line iter u' body orelse) := rfl
      rw [hbinds test₁ none] at h₁
      rw [hbinds test₂ none] at h₂
      cases hloop : bindsLoop? (.loop target line iter none body orelse) with
      | some l =>
          rw [hloop] at h₁
          cases h₁
      | none =>
          rw [hloop] at h₁ h₂
          obtain ⟨iter₁, hi₁, h₁⟩ := exists_of_bind_eq_ok h₁
          obtain ⟨body₁, hb₁, h₁⟩ := exists_of_bind_eq_ok h₁
          obtain ⟨orelse₁, ho₁, h₁⟩ := exists_of_bind_eq_ok h₁
          obtain ⟨iter₂, hi₂, h₂⟩ := exists_of_bind_eq_ok h₂
          obtain ⟨body₂, hb₂, h₂⟩ := exists_of_bind_eq_ok h₂
          obtain ⟨orelse₂, ho₂, h₂⟩ := exists_of_bind_eq_ok h₂
          cases h₁
          cases h₂
          exact .loop target line (prepare_leads h hi₁ hi₂) htest (compileAll_leads h hb₁ hb₂)
            (compileAll_leads h ho₁ ho₂)
  | .set target line e =>
      obtain ⟨e₁, he₁, h₁⟩ := exists_of_bind_eq_ok h₁
      obtain ⟨e₂, he₂, h₂⟩ := exists_of_bind_eq_ok h₂
      cases h₁
      cases h₂
      exact .set target line (prepare_leads h he₁ he₂)
  | .include e ignoreMissing withContext =>
      obtain ⟨e₁, he₁, h₁⟩ := exists_of_bind_eq_ok h₁
      obtain ⟨e₂, he₂, h₂⟩ := exists_of_bind_eq_ok h₂
      cases h₁
      cases h₂
      exact .inclusion (prepare_leads h he₁ he₂) ignoreMissing withContext
  | .trans b =>
      obtain ⟨b₁, hb₁, h₁⟩ := exists_of_bind_eq_ok h₁
      obtain ⟨b₂, hb₂, h₂⟩ := exists_of_bind_eq_ok h₂
      cases h₁
      cases h₂
      exact .trans (prepareBlock_leads h hb₁ hb₂)

theorem compileAll_leads (h : s.Softens t) {soft : Bool} {ss ss₁ ss₂ : List Stmt}
    (h₁ : compileAll s soft ss = .ok ss₁) (h₂ : compileAll t soft ss = .ok ss₂) :
    StmtsLead ss₁ ss₂ := by
  match ss with
  | [] =>
      cases h₁
      cases h₂
      exact .nil
  | a :: ss =>
      obtain ⟨a₁, ha₁, h₁⟩ := exists_of_bind_eq_ok h₁
      obtain ⟨rest₁, hrest₁, h₁⟩ := exists_of_bind_eq_ok h₁
      obtain ⟨a₂, ha₂, h₂⟩ := exists_of_bind_eq_ok h₂
      obtain ⟨rest₂, hrest₂, h₂⟩ := exists_of_bind_eq_ok h₂
      cases h₁
      cases h₂
      exact .cons (compileOne_leads h ha₁ ha₂) (compileAll_leads h hrest₁ hrest₂)

end

/-- The same source compiles to a template for strict rendering and one that it leads. -/
theorem compile_leads (h : s.Softens t) {text : List Char} {body body' : List Stmt}
    (h₁ : compile s text = .ok body) (h₂ : compile t text = .ok body') :
    StmtsLead body body' := by
  unfold compile at h₁ h₂
  rw [← h.tags] at h₂
  split at h₁
  · rename_i read hread
    rw [hread] at h₂
    exact compileAll_leads h h₁ h₂
  · cases h₁

end Template

end Stencil
