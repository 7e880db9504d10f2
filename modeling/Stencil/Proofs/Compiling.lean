import Stencil.Proofs.Filters
import Stencil.Proofs.Reading

/-!
# What compiling keeps

Compiling computes constants, and writes those that are printed into the literal text. If what
it computes meets some conditions, a compiled template meets them as well as what was read.

A template is clean if all its literal text is inert, no constant in it holds harmful
markup, and it does not use the filter that declares a text to be markup. Whether a
source is clean in this sense can be seen before it is compiled: its literal text stands
between its tags, and no constant that can be written down is markup.

What compiling computes of it is clean, because what operators and filters give is, and what
is written into the literal text was escaped, so a compiled template is as clean as its
source.

## Main definitions

* `clean`: The conditions on the parts of a clean template.
* `CleanSource`: A source whose literal text is inert and that uses no filter for markup.
* `Traits.Computed`: Conditions that are met by what compiling computes.

## Theorems

* `parse_clean`: A clean source is read as a clean template.
* `constant_clean`: Constants are computed as clean values.
* `compileAll_has`: Compiled statements meet the conditions that were met by what was read.
* `compile_clean`: A clean source is compiled to a clean template.
-/

namespace Stencil

namespace Template

/-- The filter that declares a text to be markup. -/
def safeName : String := "safe"

/-- The conditions on the parts of a clean template. -/
def clean : Traits := ⟨Value.Clean, (· ≠ safeName), Inert, Inert⟩

/-- The condition that no filter declares a text to be markup. -/
def withoutSafe : Traits := ⟨fun _ => True, (· ≠ safeName), fun _ => True, fun _ => True⟩

/-- A source whose literal text is inert and that uses no filter for markup. -/
structure CleanSource (tags : Tags) (text : List Char) : Prop where
  literals : ∀ s ∈ literals text, Inert s
  filters : ∀ body, parse tags text = .ok body → StatementsHave withoutSafe body

instance : DecidablePred withoutSafe.constant := fun _ => .isTrue trivial
instance : DecidablePred withoutSafe.filter := fun n => inferInstanceAs (Decidable (n ≠ safeName))
instance : DecidablePred withoutSafe.text := fun _ => .isTrue trivial
instance : DecidablePred withoutSafe.mention := fun _ => .isTrue trivial

/-- Whether a source is clean can be computed. -/
instance (tags : Tags) (text : List Char) : Decidable (CleanSource tags text) :=
  decidable_of_iff ((∀ s ∈ literals text, Inert s) ∧
      Ensures (parse tags text) (StatementsHave withoutSafe))
    ⟨fun ⟨hl, hf⟩ => ⟨hl, hf⟩, fun h => ⟨h.literals, h.filters⟩⟩

/-! ## Reading -/

theorem isNamePart_inert {c : Char} (h : Text.isNamePart c = true) : isMarkupChar c = false := by
  have hnone : ∀ n ∈ [0x22, 0x27, 0x3c, 0x3e], Text.isNamePart (Char.ofNat n) = false := by
    decide +kernel
  rw [Bool.eq_false_iff, ne_eq, isMarkupChar_iff]
  intro hc
  have hpart := hnone c.toNat hc
  rw [Char.ofNat_toNat, h] at hpart
  exact nomatch hpart

/-- A name has no harmful character. -/
theorem inert_name {n : String} (h : Text.isName n.toList = true) : Inert n := by
  unfold Inert
  unfold Text.isName at h
  split at h
  · cases h
  · rename_i c r heq
    rw [Bool.and_eq_true, Text.isNameStart, Bool.and_eq_true] at h
    rw [heq]
    refine InertChars.cons_iff.mpr ⟨isNamePart_inert h.1.1, fun d hd => ?_⟩
    exact isNamePart_inert (List.all_eq_true.mp h.2 d hd)

/-- A clean source is read as a clean template. -/
theorem parse_clean {tags : Tags} {text : List Char} (h : CleanSource tags text) :
    Ensures (parse tags text) (StatementsHave clean) := by
  -- What is read has no markup for constants, and what is asked of filters is assumed.
  let read : Traits := ⟨Value.Clean, fun _ => True, Inert, Inert⟩
  have hread : read.Lenient := ⟨Value.clean_null, @Value.clean_bool, @Value.clean_int,
    @Value.clean_float, @Value.clean_text, fun _ => trivial⟩
  have hjoin : read.Join withoutSafe clean := ⟨fun _ hv _ => hv, fun _ _ hn => hn,
    fun _ hs _ => hs, fun _ hn _ => hn⟩
  intro body hbody
  exact (parse_has hread (fun n => inert_name) tags h.literals body hbody).join hjoin
    (h.filters body hbody)

/-! ## Constants -/

/-- If something is constant, its value has a property. -/
def Constancy.Ensures {α : Type} (c : Constancy α) (P : α → Prop) : Prop :=
  ∀ x, c = .value x → P x

namespace Constancy.Ensures

variable {α β : Type} {P : α → Prop} {Q : β → Prop} {c : Constancy α}

theorem value {x : α} (h : P x) : (pure x : Constancy α).Ensures P := by
  intro y hy
  cases hy
  exact h

theorem varies : (Constancy.varies : Constancy α).Ensures P := nofun

theorem any : c.Ensures fun _ => True := fun _ _ => trivial

theorem bind {f : α → Constancy β} (hc : c.Ensures P) (hf : ∀ x, P x → (f x).Ensures Q) :
    (c >>= f).Ensures Q := by
  intro y hy
  cases c with
  | value x => exact hf x (hc x rfl) y hy
  | varies => exact nomatch hy
  | fails f => exact nomatch hy

theorem lenient (hc : c.Ensures P) : c.lenient.Ensures P := by
  intro x hx
  cases c with
  | fails f => exact nomatch hx
  | value y => exact hc x hx
  | varies => exact nomatch hx

theorem ofExcept {r : Except Fault α} (hr : Stencil.Ensures r P) :
    (Constancy.ofExcept r).Ensures P := by
  intro x hx
  cases r with
  | error f => exact nomatch hx
  | ok _ =>
      cases hx
      exact hr x rfl

end Constancy.Ensures

theorem Constancy.entriesInOrder_clean (check : Value → Constancy Unit)
    {keys values : List (Constancy Value)} (hkeys : ∀ k ∈ keys, k.Ensures Value.Clean)
    (hvalues : ∀ v ∈ values, v.Ensures Value.Clean) :
    (entriesInOrder check keys values).Ensures fun es =>
      (∀ k ∈ es.1, k.Clean) ∧ ∀ v ∈ es.2, v.Clean := by
  fun_induction entriesInOrder with
  | case1 key keys value values ih =>
      obtain ⟨hkey, hkeys⟩ := List.forall_mem_cons.mp hkeys
      obtain ⟨hvalue, hvalues⟩ := List.forall_mem_cons.mp hvalues
      refine hkey.bind fun k hk => hvalue.bind fun v hv => Constancy.Ensures.any.bind fun _ _ =>
        (ih hkeys hvalues).bind fun es hes => .value ⟨?_, ?_⟩
      · exact List.forall_mem_cons.mpr ⟨hk, hes.1⟩
      · exact List.forall_mem_cons.mpr ⟨hv, hes.2⟩
  | case2 => exact .value ⟨nofun, nofun⟩

mutual

/-- A constant expression of a clean template has a clean value. -/
theorem constant_clean (s : Settings) (e : Expr) (he : e.Has clean) :
    (constant s e).Ensures Value.Clean := by
  match e with
  | .const v => exact .value he
  | .name _ => exact .varies
  | .list items =>
      exact (constants_clean s items he).bind fun vs hvs => .value (Value.clean_list.mpr hvs)
  | .tuple items =>
      exact (constants_clean s items he).bind fun vs hvs => .value (Value.clean_tuple.mpr hvs)
  | .dict keys values =>
      exact (Constancy.entriesInOrder_clean _ (constantEach_clean s keys he.1)
        (constantEach_clean s values he.2)).bind fun es hes =>
          .ofExcept (Value.clean_kept.makeDict hes.1 hes.2)
  | .member e name =>
      exact .lenient ((constant_clean s e he).bind fun v hv =>
        .ofExcept (Value.clean_kept.item s.strict hv _))
  | .item e index =>
      exact .lenient ((constant_clean s e he.1).bind fun v hv =>
        Constancy.Ensures.any.bind fun _ _ => .ofExcept (Value.clean_kept.item s.strict hv _))
  | .call .. => exact .varies
  | .filter e name args keywords values _ _ =>
      rw [constant]
      split
      · refine (constants_clean s args he.2.2.1).bind fun as has => ?_
        refine (constants_clean s values he.2.2.2).bind fun vs hvs => ?_
        refine (constant_clean s e he.2.1).bind fun v hv => ?_
        split
        · rename_i hr
          exact .lenient (.ofExcept (Value.clean_kept.filter (fun h => absurd h he.1)
            (List.forall_mem_cons.mpr ⟨hv, has⟩) (forall_keywords hvs) hr))
        · exact .varies
      · exact .varies
  | .test e name args keywords values _ =>
      rw [constant]
      split
      · refine Constancy.Ensures.any.bind fun as _ => Constancy.Ensures.any.bind fun vs _ =>
          Constancy.Ensures.any.bind fun v _ => ?_
        split
        · rename_i hr
          exact .lenient (.ofExcept (Value.clean_kept.test hr))
        · exact .varies
      · exact .varies
  -- Operators give clean values for clean ones. Where the result is a truth value or a plain text,
  -- it does not matter what the parts are.
  | .sign minus e =>
      exact .lenient (Constancy.Ensures.any.bind fun v _ =>
        .ofExcept (Value.clean_kept.sign minus v))
  | .not e =>
      exact .lenient (Constancy.Ensures.any.bind fun v _ => Constancy.Ensures.any.bind fun b _ =>
        .value Value.clean_bool)
  | .binary op l r =>
      exact .lenient ((constant_clean s l he.1).bind fun v hv =>
        (constant_clean s r he.2).bind fun w hw => .ofExcept (Value.clean_kept.binary op hv hw))
  | .and l r =>
      refine (constant_clean s l he.1).bind fun v hv => Constancy.Ensures.any.bind fun b _ => ?_
      split
      · exact constant_clean s r he.2
      · exact .value hv
  | .or l r =>
      refine (constant_clean s l he.1).bind fun v hv => Constancy.Ensures.any.bind fun b _ => ?_
      split
      · exact .value hv
      · exact constant_clean s r he.2
  | .concat pieces =>
      exact Constancy.Ensures.any.bind fun vs _ => .ofExcept (Value.clean_kept.joinPlain vs)
  | .compare e ops operands =>
      exact .lenient (Constancy.Ensures.any.bind fun v _ => Constancy.Ensures.any.bind fun b _ =>
        .value Value.clean_bool)
  | .choose test yes no =>
      refine Constancy.Ensures.any.bind fun v _ => Constancy.Ensures.any.bind fun b _ => ?_
      split
      · exact constant_clean s yes he.2.1
      · exact constant_clean s no he.2.2
  | .chooseSome test yes _ =>
      refine Constancy.Ensures.any.bind fun v _ => Constancy.Ensures.any.bind fun b _ => ?_
      split
      · exact constant_clean s yes he.2
      · exact .varies

theorem constants_clean (s : Settings) (es : List Expr) (hes : AllHave clean es) :
    (constants s es).Ensures fun vs => ∀ v ∈ vs, v.Clean := by
  match es with
  | [] => exact .value nofun
  | e :: es =>
      exact (constant_clean s e hes.1).bind fun v hv => (constants_clean s es hes.2).bind
        fun vs hvs => .value (List.forall_mem_cons.mpr ⟨hv, hvs⟩)

theorem constantEach_clean (s : Settings) (es : List Expr) (hes : AllHave clean es) :
    ∀ c ∈ constantEach s es, c.Ensures Value.Clean := by
  match es with
  | [] => exact nofun
  | e :: es =>
      exact List.forall_mem_cons.mpr ⟨constant_clean s e hes.1, constantEach_clean s es hes.2⟩

end

/-! ## Expressions -/

/-- Conditions that are met by what compiling computes if they are met by what it is computed
    from: by the constants that can stand in a compiled template, and by the markup of those that
    are printed. -/
structure Traits.Computed (t : Traits) : Prop where
  true : t.constant (.bool true)
  lasting (s : Settings) (e : Expr) (v : Value) : e.Has t → Template.constant s e = .value v →
    isLasting v = Bool.true → t.constant v
  printed (s : Settings) (e : Expr) (v : Value) (x : String) : e.Has t →
    Template.constant s e = .value v → v.escaped = .ok x → t.text x ∧ t.constant (.markup x)

/-- Constants of clean templates are clean. -/
theorem clean_computed : clean.Computed where
  true := Value.clean_kept.bool true
  lasting s e v he hv _ := constant_clean s e he v hv
  printed s e v x he hv hx :=
    let hinert := Value.escaped_inert (constant_clean s e he v hv) x hx
    ⟨hinert, Value.clean_markup.mpr hinert⟩

section

variable {t : Traits}

mutual

/-- Checking an expression changes neither its constants nor its filters. -/
theorem check_has (s : Settings) (soft : Bool) (e : Expr) (he : e.Has t) :
    Ensures (check s soft e) (Expr.Has t) := by
  match e with
  | .const v => exact Ensures.ok he
  | .name n => exact Ensures.ok he
  | .list items => exact (checks_has s soft items he).bind fun _ h => Ensures.ok h
  | .tuple items => exact (checks_has s soft items he).bind fun _ h => Ensures.ok h
  | .concat pieces => exact (checks_has s soft pieces he).bind fun _ h => Ensures.ok h
  | .dict keys values =>
      exact (checks_has s soft keys he.1).bind fun _ hk =>
        (checks_has s soft values he.2).bind fun _ hv => Ensures.ok ⟨hk, hv⟩
  | .member e name => exact (check_has s soft e he).bind fun _ h => Ensures.ok h
  | .sign minus e => exact (check_has s soft e he).bind fun _ h => Ensures.ok h
  | .not e => exact (check_has s soft e he).bind fun _ h => Ensures.ok h
  | .item e index =>
      exact (check_has s soft e he.1).bind fun _ h =>
        (check_has s soft index he.2).bind fun _ h' => Ensures.ok ⟨h, h'⟩
  | .binary op l r =>
      exact (check_has s soft l he.1).bind fun _ h =>
        (check_has s soft r he.2).bind fun _ h' => Ensures.ok ⟨h, h'⟩
  | .and l r =>
      exact (check_has s soft l he.1).bind fun _ h =>
        (check_has s soft r he.2).bind fun _ h' => Ensures.ok ⟨h, h'⟩
  | .or l r =>
      exact (check_has s soft l he.1).bind fun _ h =>
        (check_has s soft r he.2).bind fun _ h' => Ensures.ok ⟨h, h'⟩
  | .chooseSome test yes line =>
      exact (check_has s true yes he.2).bind fun _ hy =>
        (check_has s true test he.1).bind fun _ ht => Ensures.ok ⟨ht, hy⟩
  | .call f args keywords values =>
      exact (check_has s soft f he.1).bind fun _ hf =>
        (checks_has s soft args he.2.1).bind fun _ ha =>
          (checks_has s soft values he.2.2).bind fun _ hv => Ensures.ok ⟨hf, ha, hv⟩
  | .filter e name args keywords values line c =>
      rw [check]
      split
      · exact Ensures.error
      · exact (check_has s soft e he.2.1).bind fun _ h =>
          (checks_has s soft args he.2.2.1).bind fun _ ha =>
            (checks_has s soft values he.2.2.2).bind fun _ hv => Ensures.ok ⟨he.1, h, ha, hv⟩
  | .test e name args keywords values line =>
      rw [check]
      split
      · exact Ensures.error
      · exact (check_has s soft e he.1).bind fun _ h =>
          (checks_has s soft args he.2.1).bind fun _ ha =>
            (checks_has s soft values he.2.2).bind fun _ hv => Ensures.ok ⟨h, ha, hv⟩
  | .compare e ops operands =>
      exact (check_has s soft e he.1).bind fun _ h =>
        (checks_has s soft operands he.2).bind fun _ ho => Ensures.ok ⟨h, ho⟩
  -- The branch is checked before its condition.
  | .choose test yes no =>
      exact (check_has s true yes he.2.1).bind fun _ hy =>
        (check_has s true test he.1).bind fun _ ht =>
          (check_has s true no he.2.2).bind fun _ hn => Ensures.ok ⟨ht, hy, hn⟩

theorem checks_has (s : Settings) (soft : Bool) (es : List Expr) (hes : AllHave t es) :
    Ensures (checks s soft es) (AllHave t) := by
  match es with
  | [] => exact Ensures.ok trivial
  | e :: es =>
      exact (check_has s soft e hes.1).bind fun _ h =>
        (checks_has s soft es hes.2).bind fun _ hs => Ensures.ok ⟨h, hs⟩

end

/-- The names that stay mentioned add nothing to a value. -/
theorem settled_has (hc : t.Computed) (names : List String) {v : Value} (h : t.constant v) :
    (settled names v).Has t := by
  unfold settled
  split
  · exact h
  · refine ⟨hc.true, h, allHave_iff.mpr fun e he => ?_⟩
    obtain ⟨n, -, rfl⟩ := List.mem_map.mp he
    trivial

theorem foldOne_has (hc : t.Computed) (s : Settings) {e : Expr} (he : e.Has t) :
    Ensures (foldOne s e) (Expr.Has t) := by
  unfold foldOne
  split
  · rename_i v hv
    refine Ensures.ok ?_
    split
    · rename_i hlasting
      exact settled_has hc _ (hc.lasting s e v he hv hlasting)
    · exact he
  · exact Ensures.ok he
  · exact Ensures.error

mutual

/-- What is computed meets the conditions, and so does the expression it stands in. -/
theorem fold_has (hc : t.Computed) (s : Settings) (e : Expr) (he : e.Has t) :
    Ensures (fold s e) (Expr.Has t) := by
  match e with
  | .const v => exact Ensures.ok he
  | .name n => exact Ensures.ok he
  | .list items => exact (folds_has hc s items he).bind fun _ h => foldOne_has hc s h
  | .tuple items => exact (folds_has hc s items he).bind fun _ h => foldOne_has hc s h
  | .concat pieces => exact (folds_has hc s pieces he).bind fun _ h => foldOne_has hc s h
  | .dict keys values =>
      exact (folds_has hc s keys he.1).bind fun _ hk =>
        (folds_has hc s values he.2).bind fun _ hv => foldOne_has hc s ⟨hk, hv⟩
  | .member e name => exact (fold_has hc s e he).bind fun _ h => foldOne_has hc s h
  | .sign minus e => exact (fold_has hc s e he).bind fun _ h => foldOne_has hc s h
  | .not e => exact (fold_has hc s e he).bind fun _ h => foldOne_has hc s h
  | .item e index =>
      exact (fold_has hc s e he.1).bind fun _ h => (fold_has hc s index he.2).bind fun _ h' =>
        foldOne_has hc s ⟨h, h'⟩
  | .binary op l r =>
      exact (fold_has hc s l he.1).bind fun _ h => (fold_has hc s r he.2).bind fun _ h' =>
        foldOne_has hc s ⟨h, h'⟩
  | .and l r =>
      exact (fold_has hc s l he.1).bind fun _ h => (fold_has hc s r he.2).bind fun _ h' =>
        foldOne_has hc s ⟨h, h'⟩
  | .or l r =>
      exact (fold_has hc s l he.1).bind fun _ h => (fold_has hc s r he.2).bind fun _ h' =>
        foldOne_has hc s ⟨h, h'⟩
  | .chooseSome test yes line =>
      exact (fold_has hc s test he.1).bind fun _ h => (fold_has hc s yes he.2).bind fun _ h' =>
        foldOne_has hc s ⟨h, h'⟩
  | .call f args keywords values =>
      exact (fold_has hc s f he.1).bind fun _ hf => (folds_has hc s args he.2.1).bind fun _ ha =>
        (folds_has hc s values he.2.2).bind fun _ hv => Ensures.ok ⟨hf, ha, hv⟩
  -- Folding keeps the filters, so the name of each meets the condition that it met.
  | .filter e name args keywords values line c =>
      exact (fold_has hc s e he.2.1).bind fun _ h => (folds_has hc s args he.2.2.1).bind fun _ ha =>
        (folds_has hc s values he.2.2.2).bind fun _ hv => foldOne_has hc s ⟨he.1, h, ha, hv⟩
  | .test e name args keywords values line =>
      exact (fold_has hc s e he.1).bind fun _ h => (folds_has hc s args he.2.1).bind fun _ ha =>
        (folds_has hc s values he.2.2).bind fun _ hv => foldOne_has hc s ⟨h, ha, hv⟩
  | .compare e ops operands =>
      exact (fold_has hc s e he.1).bind fun _ h => (folds_has hc s operands he.2).bind fun _ ho =>
        foldOne_has hc s ⟨h, ho⟩
  | .choose test yes no =>
      exact (fold_has hc s test he.1).bind fun _ ht => (fold_has hc s yes he.2.1).bind fun _ hy =>
        (fold_has hc s no he.2.2).bind fun _ hn => foldOne_has hc s ⟨ht, hy, hn⟩

theorem folds_has (hc : t.Computed) (s : Settings) (es : List Expr) (hes : AllHave t es) :
    Ensures (folds s es) (AllHave t) := by
  match es with
  | [] => exact Ensures.ok trivial
  | e :: es =>
      exact (fold_has hc s e hes.1).bind fun _ h => (folds_has hc s es hes.2).bind fun _ hs =>
        Ensures.ok ⟨h, hs⟩

end

mutual

theorem prepare_has (hc : t.Computed) (s : Settings) (soft : Bool) (e : Expr) (he : e.Has t) :
    Ensures (prepare s soft e) (Expr.Has t) := by
  have hany : Ensures (do check s soft (← fold s e)) (Expr.Has t) :=
    (fold_has hc s e he).bind fun e h => check_has s soft e h
  match e with
  | .const v => exact Ensures.ok he
  | .name n => exact Ensures.ok he
  | .list items => exact (prepares_has hc s soft items he).bind fun _ h => Ensures.ok h
  | .tuple items => exact (prepares_has hc s soft items he).bind fun _ h => Ensures.ok h
  | .dict keys values =>
      exact (prepares_has hc s soft keys he.1).bind fun _ hk =>
        (prepares_has hc s soft values he.2).bind fun _ hv => Ensures.ok ⟨hk, hv⟩
  | .member .. | .sign .. | .not _ | .item .. | .binary .. | .and .. | .or .. | .chooseSome ..
  | .call .. | .filter .. | .test .. | .compare .. | .choose .. | .concat _ => exact hany

theorem prepares_has (hc : t.Computed) (s : Settings) (soft : Bool) (es : List Expr)
    (hes : AllHave t es) : Ensures (prepares s soft es) (AllHave t) := by
  match es with
  | [] => exact Ensures.ok trivial
  | e :: es =>
      exact (prepare_has hc s soft e hes.1).bind fun _ h =>
        (prepares_has hc s soft es hes.2).bind fun _ hs => Ensures.ok ⟨h, hs⟩

end

/-! ## Statements -/

/-- What is printed and constant becomes literal text. -/
theorem prepareOutput_has (hc : t.Computed) (s : Settings) (soft : Bool) {e : Expr} (he : e.Has t) :
    Ensures (prepareOutput s soft e) (Stmt.Has t) := by
  have hprint : Ensures (do return Stmt.print (← prepare s soft e)) (Stmt.Has t) :=
    (prepare_has hc s soft e he).bind fun _ h => Ensures.ok h
  unfold prepareOutput
  split
  · rename_i v hv
    split
    · rename_i text htext
      obtain ⟨hliteral, hmarkup⟩ := hc.printed s e v text he hv htext
      refine Ensures.ok ?_
      unfold settledOutput
      split
      · exact hliteral
      · exact settled_has hc _ hmarkup
    · exact hprint
  · exact hprint

/-- An expression that may be absent. -/
theorem optional_has {f : Expr → Except Fault Expr}
    (hf : ∀ e : Expr, e.Has t → Ensures (f e) (Expr.Has t)) {o : Option Expr}
    (ho : ∀ e, o = some e → e.Has t) :
    Ensures (o.mapM f) fun o => ∀ e, o = some e → e.Has t := by
  cases o with
  | none => exact Ensures.ok nofun
  | some e =>
      refine (hf e (ho e rfl)).map fun e' he' f hf => ?_
      cases hf
      exact he'

theorem prepareTest_has (hc : t.Computed) (s : Settings) {test : Option Expr}
    (htest : ∀ e, test = some e → e.Has t) :
    Ensures (prepareTest s test) fun o => ∀ e, o = some e → e.Has t := by
  cases test with
  | none => exact Ensures.ok nofun
  | some e =>
      refine (prepare_has hc s false e (htest e rfl)).bind fun e' he' => Ensures.ok fun f hf => ?_
      cases hf
      exact he'

theorem prepareBlock_has (hc : t.Computed) (s : Settings) (soft : Bool) {b : TransBlock}
    (hb : b.Has t) : Ensures (prepareBlock s soft b) (TransBlock.Has t) := by
  refine (optional_has (fold_has hc s) hb.count).bind fun count hcount => ?_
  refine (folds_has hc s _ (allHave_iff.mpr hb.values)).bind fun values hvalues => ?_
  refine (optional_has (check_has s soft) hcount).bind fun count hcount => ?_
  refine (checks_has s soft values hvalues).bind fun values hvalues => Ensures.ok ?_
  exact ⟨allHave_iff.mp hvalues, hcount, hb.singular, hb.plural⟩

mutual

theorem compileOne_has (hc : t.Computed) (s : Settings) (soft : Bool) (st : Stmt) (hst : st.Has t) :
    Ensures (compileOne s soft st) (Stmt.Has t) := by
  match st with
  | .text _ => exact Ensures.ok hst
  | .print e => exact prepareOutput_has hc s soft hst
  | .branch test body orelse chained =>
      exact (prepare_has hc s true test hst.1).bind fun _ ht =>
        (compileAll_has hc s true body hst.2.1).bind fun _ hb =>
          (compileAll_has hc s true orelse hst.2.2).bind fun _ ho => Ensures.ok ⟨ht, hb, ho⟩
  | .loop target line iter test body orelse =>
      rw [compileOne]
      refine (prepareTest_has hc s hst.2.1).bind fun _ ht => ?_
      split
      · exact Ensures.error
      · exact (prepare_has hc s soft iter hst.1).bind fun _ hi =>
          (compileAll_has hc s false body hst.2.2.1).bind fun _ hb =>
            (compileAll_has hc s false orelse hst.2.2.2).bind fun _ ho =>
              Ensures.ok ⟨hi, ht, hb, ho⟩
  | .set target line e => exact (prepare_has hc s soft e hst).bind fun _ h => Ensures.ok h
  | .include e ignoreMissing withContext =>
      exact (prepare_has hc s soft e hst).bind fun _ h => Ensures.ok h
  | .trans b => exact (prepareBlock_has hc s soft hst).bind fun _ h => Ensures.ok h

/-- Compiled statements meet the conditions if the statements do that were read. -/
theorem compileAll_has (hc : t.Computed) (s : Settings) (soft : Bool) (ss : List Stmt)
    (hss : StatementsHave t ss) : Ensures (compileAll s soft ss) (StatementsHave t) := by
  match ss with
  | [] => exact Ensures.ok trivial
  | st :: ss =>
      exact (compileOne_has hc s soft st hss.1).bind fun _ h =>
        (compileAll_has hc s soft ss hss.2).bind fun _ hs => Ensures.ok ⟨h, hs⟩

end

end

/-- A clean source is compiled to a clean template. -/
theorem compile_clean {s : Settings} {text : List Char} (h : CleanSource s.tags text) :
    Ensures (compile s text) (StatementsHave clean) := by
  have hparse := parse_clean h
  unfold compile
  split
  · rename_i body hbody
    exact compileAll_has clean_computed s false body (hparse body hbody)
  · exact Ensures.error

end Template

end Stencil
