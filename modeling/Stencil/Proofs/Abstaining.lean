import Stencil.Proofs.Accord
import Stencil.Proofs.Compiling
import Stencil.Proofs.Lenience
import Stencil.Proofs.Tagging

/-!
# Templates that translate nothing

A template translates nothing if no translatable block opens in it, it does not use the filter
that translates, and it mentions none of the functions for translations. What such a template
is compiled to does not depend on whether there are translations: the tags are of no use to it,
and its filters need nothing of the rendering.

The compiled template translates nothing either. No function stands in it, because constants
that can stand in a compiled template are none, and it mentions what its source mentions. The
one function that it may come to is that of the loop object, which translates nothing.

## Main definitions

* `Value.FunctionFree`: There is no function for translations in a value.
* `plain`: No such function and no filter that translates is in a template.
* `Abstains`: Statements that translate nothing.
* `TranslationFree`: A source that translates nothing.

## Theorems

* `Value.functionFree_kept`: Templates make no functions for translations.
* `compileAll_tags`: Tags do not matter to plain statements.
* `compileAll_mentions`: Compiling changes nothing in what is mentioned.
* `TranslationFree.compile_eq`: Tags do not matter to a source that translates nothing.
* `TranslationFree.compile_abstains`: What it is compiled to translates nothing.
-/

namespace Stencil

namespace Value

mutual

/-- There is no function for translations in a value. -/
def FunctionFree : Value → Prop
  | .function (.cycle ..) => True
  | .function _ => False
  | .list items => AllFunctionFree items
  | .tuple items => AllFunctionFree items
  | .dict entries => EntriesFunctionFree entries
  | _ => True

def AllFunctionFree : List Value → Prop
  | [] => True
  | v :: vs => FunctionFree v ∧ AllFunctionFree vs

def EntriesFunctionFree : List (Value × Value) → Prop
  | [] => True
  | (k, v) :: es => (FunctionFree k ∧ FunctionFree v) ∧ EntriesFunctionFree es

end

theorem allFunctionFree_iff {vs : List Value} :
    AllFunctionFree vs ↔ ∀ v ∈ vs, v.FunctionFree := by
  induction vs with
  | nil => simp [AllFunctionFree]
  | cons v vs ih => simp only [AllFunctionFree, ih, List.forall_mem_cons]

theorem entriesFunctionFree_iff {es : List (Value × Value)} :
    EntriesFunctionFree es ↔ ∀ e ∈ es, e.1.FunctionFree ∧ e.2.FunctionFree := by
  induction es with
  | nil => simp [EntriesFunctionFree]
  | cons e es ih => simp only [EntriesFunctionFree, ih, List.forall_mem_cons]

/-- Whatever templates do to values, it makes no function for translations of them. -/
theorem functionFree_kept : Kept FunctionFree where
  null := trivial
  bool _ := trivial
  int _ := trivial
  float _ := trivial
  text _ := trivial
  undefined _ := trivial
  loop _ _ := trivial
  cycle _ _ := trivial
  list := allFunctionFree_iff
  tuple := allFunctionFree_iff
  dict := entriesFunctionFree_iff
  spelled _ := trivial
  part _ _ := trivial
  append _ _ := trivial
  joined _ := trivial
  separated _ _ := trivial
  upper _ := trivial
  lower _ := trivial
  filled _ _ _ _ := trivial

end Value

namespace Template

open Value (FunctionFree)

mutual

theorem functionFree_of_isLasting (v : Value) (h : isLasting v = true) : v.FunctionFree := by
  match v with
  | .null | .bool _ | .int _ | .float _ | .text _ | .markup _ => exact trivial
  | .list items | .tuple items => exact allFunctionFree_of_areLasting items h
  | .dict entries => exact entriesFunctionFree_of_areLasting entries h
  | .undefined _ | .loop .. | .function _ | .moment _ => cases h

theorem allFunctionFree_of_areLasting (vs : List Value) (h : areLasting vs = true) :
    Value.AllFunctionFree vs := by
  match vs with
  | [] => exact trivial
  | v :: vs =>
      obtain ⟨hv, hvs⟩ := Bool.and_eq_true_iff.mp h
      exact ⟨functionFree_of_isLasting v hv, allFunctionFree_of_areLasting vs hvs⟩

theorem entriesFunctionFree_of_areLasting (es : List (Value × Value))
    (h : areLastingEntries es = true) : Value.EntriesFunctionFree es := by
  match es with
  | [] => exact trivial
  | (k, v) :: es =>
      obtain ⟨he, hes⟩ := Bool.and_eq_true_iff.mp h
      obtain ⟨hk, hv⟩ := Bool.and_eq_true_iff.mp he
      exact ⟨⟨functionFree_of_isLasting k hk, functionFree_of_isLasting v hv⟩,
        entriesFunctionFree_of_areLasting es hes⟩

end

/-- No function for translations stands in a template, and the filter that translates is not
    used. -/
def plain : Traits :=
  ⟨FunctionFree, (· ≠ Filter.transName), fun _ => True, fun _ => True⟩

/-- A constant that can stand in a compiled template is no function. -/
theorem plain_computed : plain.Computed where
  true := trivial
  lasting _ _ v _ _ h := functionFree_of_isLasting v h
  printed _ _ _ _ _ _ _ := ⟨trivial, trivial⟩

section

variable (s : Settings) (tags : Tags)

theorem constant_tags : constant { s with tags } = constant s := by
  delta constant
  rfl

theorem foldOne_tags : foldOne { s with tags } = foldOne s := by
  delta foldOne
  rw [constant_tags]

mutual

theorem fold_tags (e : Expr) : fold { s with tags } e = fold s e := by
  match e with
  | .const _ | .name _ => rfl
  | .list es | .tuple es | .concat es =>
      simp only [fold, foldOne_tags, folds_tags es]
  | .dict es fs => simp only [fold, foldOne_tags, folds_tags es, folds_tags fs]
  | .member e _ | .sign _ e | .not e => simp only [fold, foldOne_tags, fold_tags e]
  | .item e f | .binary _ e f | .and e f | .or e f | .chooseSome e f _ =>
      simp only [fold, foldOne_tags, fold_tags e, fold_tags f]
  | .call e es _ fs | .filter e _ es _ fs _ _ | .test e _ es _ fs _ =>
      simp only [fold, foldOne_tags, fold_tags e, folds_tags es, folds_tags fs]
  | .compare e _ es => simp only [fold, foldOne_tags, fold_tags e, folds_tags es]
  | .choose e f g => simp only [fold, foldOne_tags, fold_tags e, fold_tags f, fold_tags g]

theorem folds_tags (es : List Expr) : folds { s with tags } es = folds s es := by
  match es with
  | [] => rfl
  | e :: es => simp only [folds, fold_tags e, folds_tags es]

end

/-- A filter that does not translate needs nothing of the rendering, whatever tags are known. -/
theorem isContextual_eq {n : String} (h : n ≠ Filter.transName) : isContextual s n = false := by
  rw [isContextual, beq_false_of_ne h, Bool.and_false]

mutual

theorem check_tags (soft : Bool) (e : Expr) (he : e.Has plain) :
    check { s with tags } soft e = check s soft e := by
  match e with
  | .const _ | .name _ => rfl
  | .list es | .tuple es | .concat es => simp only [check, checks_tags soft es he]
  | .dict es fs => simp only [check, checks_tags soft es he.1, checks_tags soft fs he.2]
  | .member e _ | .sign _ e | .not e => simp only [check, check_tags soft e he]
  | .item e f | .binary _ e f | .and e f | .or e f =>
      simp only [check, check_tags soft e he.1, check_tags soft f he.2]
  | .chooseSome e f _ => simp only [check, check_tags true e he.1, check_tags true f he.2]
  | .call e es _ fs | .test e _ es _ fs _ =>
      simp only [check, check_tags soft e he.1, checks_tags soft es he.2.1,
        checks_tags soft fs he.2.2]
  | .filter e n es _ fs _ _ =>
      simp only [check, isContextual_eq _ he.1, check_tags soft e he.2.1,
        checks_tags soft es he.2.2.1, checks_tags soft fs he.2.2.2]
  | .compare e _ es => simp only [check, check_tags soft e he.1, checks_tags soft es he.2]
  | .choose e f g =>
      simp only [check, check_tags true e he.1, check_tags true f he.2.1, check_tags true g he.2.2]

theorem checks_tags (soft : Bool) (es : List Expr) (hes : AllHave plain es) :
    checks { s with tags } soft es = checks s soft es := by
  match es with
  | [] => rfl
  | e :: es => simp only [checks, check_tags soft e hes.1, checks_tags soft es hes.2]

end

mutual

theorem prepare_tags (soft : Bool) (e : Expr) (he : e.Has plain) :
    prepare { s with tags } soft e = prepare s soft e := by
  -- Folding asks for no tags, and what it leaves is plain, so checking asks for none either.
  have hfolded (e : Expr) (he : e.Has plain) :
      (do check { s with tags } soft (← fold { s with tags } e)) =
        (do check s soft (← fold s e)) := by
    rw [fold_tags]
    exact (fold_has plain_computed s e he).bind_congr fun f hf => check_tags s tags soft f hf
  match e with
  | .const _ | .name _ => rfl
  | .list es | .tuple es => simp only [prepare, prepares_tags soft es he]
  | .dict es fs => simp only [prepare, prepares_tags soft es he.1, prepares_tags soft fs he.2]
  | .member .. | .item .. | .call .. | .filter .. | .test .. | .sign .. | .not .. | .binary ..
  | .and .. | .or .. | .concat .. | .compare .. | .choose .. | .chooseSome .. =>
      exact hfolded _ he

theorem prepares_tags (soft : Bool) (es : List Expr) (hes : AllHave plain es) :
    prepares { s with tags } soft es = prepares s soft es := by
  match es with
  | [] => rfl
  | e :: es => simp only [prepares, prepare_tags soft e hes.1, prepares_tags soft es hes.2]

end

theorem prepareOutput_tags (soft : Bool) {e : Expr} (he : e.Has plain) :
    prepareOutput { s with tags } soft e = prepareOutput s soft e := by
  simp only [prepareOutput, constant_tags, prepare_tags s tags soft e he]

theorem prepareTest_tags {test : Option Expr} (h : ∀ e, test = some e → e.Has plain) :
    prepareTest { s with tags } test = prepareTest s test := by
  cases test with
  | none => rfl
  | some e => simp only [prepareTest, prepare_tags s tags false e (h e rfl)]

theorem prepareBlock_tags (soft : Bool) {b : TransBlock} (hb : b.Has plain) :
    prepareBlock { s with tags } soft b = prepareBlock s soft b := by
  unfold prepareBlock
  rw [funext (fold_tags s tags), folds_tags]
  refine (optional_has (fold_has plain_computed s) hb.count).bind_congr fun count hc => ?_
  refine (folds_has plain_computed s _ (allHave_iff.mpr hb.values)).bind_congr fun values hv => ?_
  have hcount : count.mapM (check { s with tags } soft) = count.mapM (check s soft) := by
    cases count with
    | none => rfl
    | some e => exact congrArg (Except.map some) (check_tags s tags soft e (hc e rfl))
  rw [hcount, checks_tags s tags soft values hv]

mutual

theorem compileOne_tags (soft : Bool) (st : Stmt) (h : st.Has plain) :
    compileOne { s with tags } soft st = compileOne s soft st := by
  match st with
  | .text _ => rfl
  | .print e => exact prepareOutput_tags s tags soft h
  | .branch test body orelse _ =>
      simp only [compileOne, prepare_tags s tags true test h.1, compileAll_tags true body h.2.1,
        compileAll_tags true orelse h.2.2]
  | .loop target line iter test body orelse =>
      simp only [compileOne, prepareTest_tags s tags h.2.1, prepare_tags s tags soft iter h.1,
        compileAll_tags false body h.2.2.1, compileAll_tags false orelse h.2.2.2]
  | .set _ _ e | .include e _ _ => simp only [compileOne, prepare_tags s tags soft e h]
  | .trans b => simp only [compileOne, prepareBlock_tags s tags soft h]

theorem compileAll_tags (soft : Bool) (ss : List Stmt) (h : StatementsHave plain ss) :
    compileAll { s with tags } soft ss = compileAll s soft ss := by
  match ss with
  | [] => rfl
  | st :: ss => simp only [compileAll, compileOne_tags soft st h.1, compileAll_tags soft ss h.2]

end

end

/-! ## What compiled templates mention -/

section

variable {s : Settings} {soft : Bool} (n : String)

theorem prepareOutput_mentions {e : Expr} {a : Stmt} (h : prepareOutput s soft e = .ok a) :
    mentionsOne n a = e.names.contains n := by
  rcases prepareOutput_cases h with ⟨v, x, -, -, rfl⟩ | ⟨-, e', he', rfl⟩
  · unfold settledOutput
    split
    · rename_i hempty
      rw [List.isEmpty_iff.mp hempty]
      rfl
    · rw [mentionsOne, names_settled]
  · rw [mentionsOne, (prepare_settles he').names]

theorem prepareTest_mentions {test test' : Option Expr} (h : prepareTest s test = .ok test') :
    (test'.any fun e => e.names.contains n) = test.any fun e => e.names.contains n := by
  cases test with
  | none =>
      cases h
      rfl
  | some e =>
      obtain ⟨e', he, h⟩ := exists_of_bind_eq_ok h
      cases h
      rw [Option.any_some, Option.any_some, (prepare_settles he).names]

theorem prepareBlock_names {b b' : TransBlock} (h : prepareBlock s soft b = .ok b') :
    b'.allNames = b.allNames := by
  obtain ⟨count, values, rfl, hcount, hvalues⟩ := prepareBlock_settles h
  rcases rel_cases hcount with ⟨hc, rfl⟩ | ⟨e, e', hc, rfl, he⟩
  · simp only [TransBlock.allNames, TransBlock.functionName, hc, hvalues.names]
  · simp only [TransBlock.allNames, TransBlock.functionName, hc, Option.map_some, he.names,
      hvalues.names, Option.isSome_some]

mutual

/-- Compiling changes nothing in what is mentioned. -/
theorem compileOne_mentions {soft : Bool} {a a' : Stmt} (h : compileOne s soft a = .ok a') :
    mentionsOne n a' = mentionsOne n a := by
  match a with
  | .text x =>
      cases h
      rfl
  | .print e => exact prepareOutput_mentions n h
  | .branch test body orelse chained =>
      obtain ⟨test', ht, h⟩ := exists_of_bind_eq_ok h
      obtain ⟨body', hb, h⟩ := exists_of_bind_eq_ok h
      obtain ⟨orelse', ho, h⟩ := exists_of_bind_eq_ok h
      cases h
      rw [mentionsOne, mentionsOne, (prepare_settles ht).names, compileAll_mentions hb,
        compileAll_mentions ho]
  -- A loop in which the name of the loop object is bound is refused, and then there is no `a'`.
  | .loop target line iter test body orelse =>
      obtain ⟨test', ht, h⟩ := exists_of_bind_eq_ok h
      split at h
      · cases h
      · obtain ⟨iter', hi, h⟩ := exists_of_bind_eq_ok h
        obtain ⟨body', hb, h⟩ := exists_of_bind_eq_ok h
        obtain ⟨orelse', ho, h⟩ := exists_of_bind_eq_ok h
        cases h
        rw [mentionsOne, mentionsOne, (prepare_settles hi).names, prepareTest_mentions n ht,
          compileAll_mentions hb, compileAll_mentions ho]
  | .set target line e | .include e _ _ =>
      obtain ⟨e', he, h⟩ := exists_of_bind_eq_ok h
      cases h
      rw [mentionsOne, mentionsOne, (prepare_settles he).names]
  | .trans b =>
      obtain ⟨b', hb, h⟩ := exists_of_bind_eq_ok h
      cases h
      rw [mentionsOne, mentionsOne, prepareBlock_names hb]

theorem compileAll_mentions {soft : Bool} {ss ss' : List Stmt}
    (h : compileAll s soft ss = .ok ss') : mentionsAny n ss' = mentionsAny n ss := by
  match ss with
  | [] =>
      cases h
      rfl
  | a :: ss =>
      obtain ⟨a', ha, h⟩ := exists_of_bind_eq_ok h
      obtain ⟨ss', hss, h⟩ := exists_of_bind_eq_ok h
      cases h
      rw [mentionsAny, mentionsAny, compileOne_mentions ha, compileAll_mentions hss]

end

end

/-! ## Sources -/

/-- The names of the functions for translations. -/
def installedNames : List String := ["_", "gettext", "ngettext", "pgettext", "npgettext"]

/-- Statements that translate nothing: they are plain, and mention no function for translations,
    as all translatable blocks do. -/
structure Abstains (ss : List Stmt) : Prop where
  plain : StatementsHave plain ss
  names : ∀ n ∈ installedNames, mentionsAny n ss = false

/-- The filter that translates is not used. -/
def withoutFilter : Traits :=
  ⟨fun _ => True, (· ≠ Filter.transName), fun _ => True, fun _ => True⟩

instance : DecidablePred withoutFilter.constant := fun _ => .isTrue trivial
instance : DecidablePred withoutFilter.filter := fun n =>
  inferInstanceAs (Decidable (n ≠ Filter.transName))
instance : DecidablePred withoutFilter.text := fun _ => .isTrue trivial
instance : DecidablePred withoutFilter.mention := fun _ => .isTrue trivial

/-- A source that translates nothing: no translatable block opens in it, and what it is read to
    uses no filter that translates and mentions no function for translations. -/
structure TranslationFree (text : List Char) : Prop where
  blocks : opensBlock (Lexeme.ofText text) = false
  filters : Ensures (parse ⟨false, false⟩ text) (StatementsHave withoutFilter)
  names : Ensures (parse ⟨false, false⟩ text) fun ss => ∀ n ∈ installedNames,
    mentionsAny n ss = false

instance (text : List Char) : Decidable (TranslationFree text) :=
  decidable_of_iff (opensBlock (Lexeme.ofText text) = false ∧
      Ensures (parse ⟨false, false⟩ text) (StatementsHave withoutFilter) ∧
      Ensures (parse ⟨false, false⟩ text) fun ss => ∀ n ∈ installedNames, mentionsAny n ss = false)
    ⟨fun ⟨hb, hf, hn⟩ => ⟨hb, hf, hn⟩, fun h => ⟨h.blocks, h.filters, h.names⟩⟩

/-- No function is read from a text. -/
theorem parse_functionFree (tags : Tags) (text : List Char) :
    Ensures (parse tags text)
      (StatementsHave ⟨FunctionFree, fun _ => True, fun _ => True, fun _ => True⟩) :=
  parse_has ⟨trivial, fun _ => trivial, fun _ => trivial, fun _ => trivial, fun _ => trivial,
    fun _ => trivial⟩ (fun _ _ => trivial) tags fun _ _ => trivial

namespace TranslationFree

variable {text : List Char} (h : TranslationFree text)
include h

theorem parse_abstains (tags : Tags) : Ensures (parse tags text) Abstains := by
  rw [parse_eq tags ⟨false, false⟩ h.blocks]
  intro ss hss
  refine ⟨(parse_functionFree _ text ss hss).join ?_ (h.filters ss hss), h.names ss hss⟩
  exact ⟨fun _ h _ => h, fun _ _ h => h, fun _ h _ => h, fun _ h _ => h⟩

/-- A source that translates nothing is compiled to the same, whatever tags are known. -/
theorem compile_eq (s : Settings) (tags : Tags) :
    compile { s with tags } text = compile s text := by
  unfold compile
  rw [show ({ s with tags } : Settings).tags = tags from rfl, parse_eq tags s.tags h.blocks]
  cases hparse : parse s.tags text with
  | error line => rfl
  | ok ss => exact compileAll_tags s tags false ss (h.parse_abstains s.tags ss hparse).plain

/-- What it is compiled to translates nothing. -/
theorem compile_abstains (s : Settings) : Ensures (compile s text) Abstains := by
  have hparse := h.parse_abstains s.tags
  unfold compile
  split
  · rename_i ss hss
    intro ss' hcompiled
    have habstains := hparse ss hss
    refine ⟨compileAll_has plain_computed s false ss habstains.plain ss' hcompiled, fun n hn => ?_⟩
    rw [compileAll_mentions n hcompiled, habstains.names n hn]
  · exact Ensures.error

end TranslationFree

end Template

end Stencil
