import Stencil.Proofs.Clean
import Stencil.Proofs.Traits

/-!
# What is read from a template

The parts of a template come from its tokens. Literal text comes from the text between
tags, the variables that translatable text mentions come from names, and constants are
numbers, strings and a few words, so none of them is markup. Conditions that the tokens
meet are therefore met by the template that is read from them. Each function of the
reader takes tokens away from the front and adds none, which is the invariant that carries
this.

## Main definitions

* `Token.Has`, `Cursor.Has`: Tokens that meet the conditions on what they become.
* `Traits.Lenient`: Conditions that ask nothing of plain constants and of filters.
* `Parser.Reads`: A step of reading that gives something with a property.
* `Parser.Builds`: A property that passes from the parts of an expression to the whole.

## Theorems

* `Parser.Reads.bind`: Steps of reading one after the other.
* `Parser.expression_reads`: Expressions that are read have every such property.
* `Parser.statements_reads`: So do statements.
* `parse_has`: And whole templates.
-/

namespace Stencil

namespace Template

variable {t : Traits}

/-- A token meets the conditions on what it becomes. -/
def Token.Has (t : Traits) : Token → Prop
  | .data s => t.text s
  | .name n => t.mention n
  | _ => True

/-- Everything that is left to read meets the conditions. -/
def Cursor.Has (t : Traits) (c : Cursor) : Prop := ∀ l ∈ c.rest, l.token.Has t

/-- What is left later on meets what was met before. -/
theorem Cursor.Has.suffix {c d : Cursor} (hc : c.Has t) (h : d.rest <:+ c.rest) : d.Has t :=
  fun l hl => hc l (h.subset hl)

/-- Conditions that ask nothing of the constants that can be read and of filters. -/
structure Traits.Lenient (t : Traits) : Prop where
  null : t.constant .null
  bool : ∀ b, t.constant (.bool b)
  int : ∀ n, t.constant (.int n)
  float : ∀ x, t.constant (.float x)
  text : ∀ s, t.constant (.text s)
  filter : ∀ n, t.filter n

namespace Parser

/-- From tokens that meet the conditions, a step of reading gives something with a
    property and leaves the tokens from some place on. -/
def Reads (t : Traits) {α : Type} (p : Parser α) (P : α → Prop) : Prop :=
  ∀ c : Cursor, c.Has t → Ensures (p.run c) fun r => P r.1 ∧ r.2.rest <:+ c.rest

variable {α β : Type} {P : α → Prop} {Q : β → Prop}

namespace Reads

theorem pure {x : α} (h : P x) : Reads t (Pure.pure x) P := fun _ _ =>
  Ensures.ok ⟨h, List.suffix_rfl⟩

theorem failAt {line : Nat} : Reads t (Parser.failAt line : Parser α) P := fun _ _ =>
  Ensures.error

theorem bind {p : Parser α} {f : α → Parser β} (hp : Reads t p P)
    (hf : ∀ x, P x → Reads t (f x) Q) : Reads t (p >>= f) Q := fun c hc =>
  Ensures.bind (hp c hc) fun r hr => (hf r.1 hr.1 r.2 (hc.suffix hr.2)).mono fun _ h =>
    ⟨h.1, h.2.trans hr.2⟩

/-- Going on with what is known already. -/
theorem next {x : α} {f : α → Parser β} (h : Reads t (f x) Q) : Reads t (Pure.pure x >>= f) Q := h

theorem mono {P' : α → Prop} {p : Parser α} (hp : Reads t p P) (h : ∀ x, P x → P' x) :
    Reads t p P' := fun c hc => (hp c hc).mono fun r hr => ⟨h r.1 hr.1, hr.2⟩

end Reads

/-- A step of reading whose result does not matter. -/
abbrev Passes (t : Traits) (p : Parser α) : Prop := Reads t p fun _ => True

theorem get_reads : Reads t get (Cursor.Has t) := fun _ hc => Ensures.ok ⟨hc, List.suffix_rfl⟩

/-- Standing at a token changes nothing. -/
theorem checkFront_ensures (c : Cursor) : Ensures (checkFront c) (· = c) := by
  unfold checkFront
  split
  · exact Ensures.error
  · exact Ensures.ok rfl

theorem checkFront_reads {c : Cursor} (hc : c.Has t) :
    Reads t (liftM (checkFront c) : Parser Cursor) (Cursor.Has t) := fun _ _ =>
  (checkFront_ensures c).bind fun _ heq => Ensures.ok ⟨heq ▸ hc, List.suffix_rfl⟩

theorem rest_has {c : Cursor} (hc : c.Has t) {l : Lexeme} {rest : List Lexeme}
    (h : c.rest = l :: rest) (line : Nat) : l.token.Has t ∧ Cursor.Has t ⟨rest, line⟩ := by
  rw [Cursor.Has, h] at hc
  exact List.forall_mem_cons.mp hc

theorem current_reads : Reads t current fun l => l.token.Has t := by
  refine get_reads.bind fun c hc => ?_
  split
  · rename_i hrest
    exact Reads.pure (rest_has hc hrest 0).1
  · exact Reads.pure trivial

theorem currentLine_passes : Passes t currentLine :=
  current_reads.bind fun _ _ => Reads.pure trivial

theorem fail_reads : Reads t (fail : Parser α) P :=
  currentLine_passes.bind fun _ _ => Reads.failAt

/-- Passing a token leaves those after it. -/
theorem advance_ensures (c : Cursor) :
    Ensures (advance.run c) fun r => r.2.rest = c.rest.tail := by
  obtain ⟨rest, line⟩ := c
  cases rest with
  | nil => exact Ensures.ok rfl
  | cons l rest =>
      exact ((checkFront_ensures ⟨rest, l.line⟩).bind fun d hd => Ensures.ok (hd ▸ rfl)).bind
        fun r hr => Ensures.ok hr

theorem advance_passes : Passes t advance := fun c _ =>
  (advance_ensures c).mono fun _ hr => ⟨trivial, hr ▸ List.tail_suffix c.rest⟩

theorem take_reads : Reads t take fun l => l.token.Has t :=
  current_reads.bind fun _ hl => advance_passes.bind fun _ _ => Reads.pure hl

theorem look_passes : Passes t look := by
  refine get_reads.bind fun c hc => ?_
  split
  · rename_i hrest
    refine (checkFront_reads (rest_has hc hrest _).2).bind fun _ _ => ?_
    split
    · exact Reads.pure trivial
    · exact Reads.pure trivial
  · exact Reads.pure trivial

/-- A step that is taken on a condition before others. -/
theorem Reads.maybe {c : Prop} [Decidable c] {p : Parser Unit} {f : Unit → Parser β}
    (hp : Passes t p) (hf : Reads t (f ()) Q) : Reads t (if c then p >>= f else f ()) Q := by
  split
  · exact hp.bind fun _ _ => hf
  · exact hf

/-- Two ways to go on. -/
theorem Reads.either {c : Prop} [Decidable c] {p q : Parser α} (hp : Reads t p P)
    (hq : Reads t q P) : Reads t (if c then p else q) P := by
  split
  · exact hp
  · exact hq

theorem skipIf_passes (p : Token → Bool) : Passes t (skipIf p) := by
  refine current_reads.bind fun l _ => ?_
  split
  · exact advance_passes.bind fun _ _ => Reads.pure trivial
  · exact Reads.pure trivial

theorem expect_passes (p : Token → Bool) : Passes t (expect p) := by
  refine current_reads.bind fun l _ => ?_
  split
  · exact advance_passes
  · exact Reads.failAt

theorem expectName_reads : Reads t expectName t.mention := by
  refine current_reads.bind fun l hl => ?_
  split
  · rename_i s hs
    rw [hs] at hl
    exact advance_passes.bind fun _ _ => Reads.pure hl
  · exact Reads.failAt

theorem bound_passes : Passes t bound := fun _ _ => Ensures.ok ⟨trivial, List.suffix_rfl⟩

/-! ## Expressions -/

/-- A property of constants and names that passes from the parts of an expression to the whole.
    It is one of every expression that is read. -/
structure Builds (H : Expr → Prop) : Prop where
  null : H (.const .null)
  bool : ∀ b, H (.const (.bool b))
  int : ∀ n, H (.const (.int n))
  float : ∀ x, H (.const (.float x))
  text : ∀ s, H (.const (.text s))
  name : ∀ n, H (.name n)
  list : ∀ es, (∀ e ∈ es, H e) → H (.list es)
  tuple : ∀ es, (∀ e ∈ es, H e) → H (.tuple es)
  /-- The keys of a mapping and their values are read in pairs. -/
  dict : ∀ es : List (Expr × Expr), (∀ e ∈ es, H e.1 ∧ H e.2) →
    H (.dict (es.map (·.1)) (es.map (·.2)))
  member : ∀ e n, H e → H (.member e n)
  item : ∀ e f, H e → H f → H (.item e f)
  call : ∀ e es keywords fs, H e → (∀ f ∈ es, H f) → (∀ f ∈ fs, H f) → H (.call e es keywords fs)
  filter : ∀ e n es keywords fs line c, H e → (∀ f ∈ es, H f) → (∀ f ∈ fs, H f) →
    H (.filter e n es keywords fs line c)
  test : ∀ e n es keywords fs line, H e → (∀ f ∈ es, H f) → (∀ f ∈ fs, H f) →
    H (.test e n es keywords fs line)
  sign : ∀ minus e, H e → H (.sign minus e)
  not : ∀ e, H e → H (.not e)
  binary : ∀ op l r, H l → H r → H (.binary op l r)
  and : ∀ l r, H l → H r → H (.and l r)
  or : ∀ l r, H l → H r → H (.or l r)
  concat : ∀ es, (∀ e ∈ es, H e) → H (.concat es)
  compare : ∀ e ops es, H e → (∀ f ∈ es, H f) → H (.compare e ops es)
  choose : ∀ e l r, H e → H l → H r → H (.choose e l r)
  chooseSome : ∀ e l line, H e → H l → H (.chooseSome e l line)

/-- Conditions on constants and filters that are met by those that can be read. -/
theorem has_builds (ht : t.Lenient) : Builds (Expr.Has t) where
  null := ht.null
  bool := ht.bool
  int := ht.int
  float := ht.float
  text := ht.text
  name _ := trivial
  list _ h := allHave_iff.mpr h
  tuple _ h := allHave_iff.mpr h
  dict _ h := ⟨allHave_iff.mpr (List.forall_mem_map.mpr fun e he => (h e he).1),
    allHave_iff.mpr (List.forall_mem_map.mpr fun e he => (h e he).2)⟩
  member _ _ h := h
  item _ _ he hf := ⟨he, hf⟩
  call _ _ _ _ he hes hfs := ⟨he, allHave_iff.mpr hes, allHave_iff.mpr hfs⟩
  filter _ n _ _ _ _ _ he hes hfs := ⟨ht.filter n, he, allHave_iff.mpr hes, allHave_iff.mpr hfs⟩
  test _ _ _ _ _ _ he hes hfs := ⟨he, allHave_iff.mpr hes, allHave_iff.mpr hfs⟩
  sign _ _ h := h
  not _ h := h
  binary _ _ _ hl hr := ⟨hl, hr⟩
  and _ _ hl hr := ⟨hl, hr⟩
  or _ _ hl hr := ⟨hl, hr⟩
  concat _ h := allHave_iff.mpr h
  compare _ _ _ he hes := ⟨he, allHave_iff.mpr hes⟩
  choose _ _ _ he hl hr := ⟨he, hl, hr⟩
  chooseSome _ _ _ he hl := ⟨he, hl⟩

section

variable {H : Expr → Prop}

section

variable {operand : Parser Expr} {operator? : Token → Option (Expr → Expr → Expr)}

theorem joined_reads (hop : ∀ tok f, operator? tok = some f → ∀ l r, H l → H r → H (f l r))
    (hoperand : Reads t operand H) (fuel : Nat) {left : Expr} (hleft : H left) :
    Reads t (joined operator? operand fuel left) H := by
  induction fuel generalizing left with
  | zero => exact Reads.pure hleft
  | succ fuel ih =>
      unfold joined
      refine current_reads.bind fun l _ => ?_
      split
      · rename_i f hf
        refine advance_passes.bind fun _ _ => hoperand.bind fun right hright => ?_
        exact ih (hop _ f hf left right hleft hright)
      · exact Reads.pure hleft

theorem leftLevel_reads (hop : ∀ tok f, operator? tok = some f → ∀ l r, H l → H r → H (f l r))
    (hoperand : Reads t operand H) : Reads t (leftLevel operator? operand) H :=
  hoperand.bind fun _ hleft => bound_passes.bind fun _ _ => joined_reads hop hoperand _ hleft

end

theorem itemsUntil_reads (close : String) {item : Parser α} (hitem : Reads t item P) (fuel : Nat)
    (first : Bool) : Reads t (itemsUntil close item fuel first) fun xs => ∀ x ∈ xs, P x := by
  induction fuel generalizing first with
  | zero => exact fail_reads
  | succ fuel ih =>
      unfold itemsUntil
      refine (skipIf_passes _).bind fun closed _ => Reads.either (Reads.pure nofun) ?_
      extract_lets afterComma
      refine Reads.maybe (expect_passes _) ?_
      refine (skipIf_passes _).bind fun closed _ => Reads.either (Reads.pure nofun) ?_
      refine hitem.bind fun x hx => (ih false).bind fun xs hxs => Reads.pure ?_
      exact List.forall_mem_cons.mpr ⟨hx, hxs⟩

theorem tupleItems_reads (endWords : List String) {item : Parser Expr}
    (hitem : Reads t item H) (fuel : Nat) (first : Bool) :
    Reads t (tupleItems endWords item fuel first) fun r => ∀ e ∈ r.1, H e := by
  induction fuel generalizing first with
  | zero => exact fail_reads
  | succ fuel ih =>
      unfold tupleItems
      extract_lets afterComma
      refine Reads.maybe (expect_passes _) ?_
      refine current_reads.bind fun l _ => Reads.either (Reads.pure nofun) ?_
      refine hitem.bind fun x hx => current_reads.bind fun l _ => Reads.either ?_ ?_
      · exact (ih false).bind fun r hr => Reads.pure (List.forall_mem_cons.mpr ⟨hx, hr⟩)
      · exact Reads.pure (List.forall_mem_singleton.mpr hx)

theorem tupleOf_reads (hH : Builds H) (endWords : List String) (bracketed : Bool)
    {item : Parser Expr} (hitem : Reads t item H) :
    Reads t (tupleOf endWords bracketed item) H := by
  refine bound_passes.bind fun n _ => (tupleItems_reads endWords hitem n true).bind ?_
  rintro ⟨xs, isTuple⟩ hxs
  refine Reads.either (Reads.pure (hH.tuple xs hxs)) ?_
  split
  · exact Reads.pure (hxs _ (List.mem_singleton_self _))
  · exact Reads.either (Reads.pure (hH.tuple [] nofun)) fail_reads

theorem moreStrings_passes (fuel : Nat) : Passes t (moreStrings fuel) := by
  induction fuel with
  | zero => exact Reads.pure trivial
  | succ fuel ih =>
      unfold moreStrings
      refine current_reads.bind fun l _ => ?_
      split
      · exact advance_passes.bind fun _ _ => ih.bind fun _ _ => Reads.pure trivial
      · exact Reads.pure trivial

variable {self : Parser Expr}

theorem dictEntry_reads (hself : Reads t self H) :
    Reads t (dictEntry self) fun e => H e.1 ∧ H e.2 :=
  hself.bind fun _ hk => (expect_passes _).bind fun _ _ => hself.bind fun _ hv =>
    Reads.pure ⟨hk, hv⟩

variable (hH : Builds H)
include hH

theorem primary_reads (hself : Reads t self H) :
    Reads t (primary self) H := by
  refine current_reads.bind fun l _ => ?_
  split
  · -- A word that stands for a constant, or a name.
    refine advance_passes.bind fun _ _ => Reads.either (Reads.pure (hH.bool true)) ?_
    refine Reads.either (Reads.pure (hH.bool false)) ?_
    exact Reads.either (Reads.pure hH.null) (Reads.pure (hH.name _))
  · exact bound_passes.bind fun _ _ => (moreStrings_passes _).bind fun s _ =>
      Reads.pure (hH.text s)
  · exact advance_passes.bind fun _ _ => Reads.pure (hH.int _)
  · exact advance_passes.bind fun _ _ => Reads.pure (hH.float _)
  · refine Reads.either ?_ (Reads.either ?_ (Reads.either ?_ Reads.failAt))
    · exact advance_passes.bind fun _ _ => (tupleOf_reads hH [] true hself).bind fun e he =>
        (expect_passes _).bind fun _ _ => Reads.pure he
    · exact advance_passes.bind fun _ _ => bound_passes.bind fun n _ =>
        (itemsUntil_reads "]" hself n true).bind fun xs hxs => Reads.pure (hH.list xs hxs)
    · refine advance_passes.bind fun _ _ => bound_passes.bind fun n _ => ?_
      refine (itemsUntil_reads "\x7d" (dictEntry_reads hself) n true).bind fun es hes => ?_
      exact Reads.pure (hH.dict es hes)
  · exact Reads.failAt

omit hH

/-- The arguments of a call have a property. -/
def Arguments.All (H : Expr → Prop) (a : Arguments) : Prop :=
  (∀ e ∈ a.positional, H e) ∧ ∀ e ∈ a.values, H e

theorem argumentItems_reads (hself : Reads t self H) (start fuel : Nat)
    (first named : Bool) :
    Reads t (argumentItems self start fuel first named) (Arguments.All H) := by
  have hnone : Arguments.All H ⟨[], [], []⟩ := ⟨nofun, nofun⟩
  induction fuel generalizing first named with
  | zero => exact fail_reads
  | succ fuel ih =>
      unfold argumentItems
      refine (skipIf_passes _).bind fun closed _ => Reads.either (Reads.pure hnone) ?_
      extract_lets positional afterKeyword afterComma
      -- An argument with a keyword adds to the values, one without to the positional ones, unless a
      -- keyword came before.
      have hafter : ∀ k, Reads t (afterKeyword k) (Arguments.All H) := by
        intro k
        simp only [afterKeyword]
        split
        · refine advance_passes.bind fun _ _ => advance_passes.bind fun _ _ => ?_
          refine hself.bind fun v hv => (ih false true).bind fun more hmore => ?_
          exact Reads.pure ⟨hmore.1, List.forall_mem_cons.mpr ⟨hv, hmore.2⟩⟩
        · refine Reads.maybe Reads.failAt ?_
          refine hself.bind fun v hv => (ih false named).bind fun more hmore => ?_
          exact Reads.pure ⟨List.forall_mem_cons.mpr ⟨hv, hmore.1⟩, hmore.2⟩
      refine Reads.maybe (expect_passes _) ?_
      refine (skipIf_passes _).bind fun closed _ => Reads.either (Reads.pure hnone) ?_
      refine current_reads.bind fun l _ => ?_
      split
      · exact look_passes.bind fun _ _ => Reads.either (hafter _).next (hafter _).next
      · exact (hafter none).next

theorem arguments_reads (hself : Reads t self H) :
    Reads t (arguments self) (Arguments.All H) :=
  currentLine_passes.bind fun _ _ => (expect_passes _).bind fun _ _ => bound_passes.bind fun _ _ =>
    argumentItems_reads hself _ _ true false

theorem callOf_reads (hH : Builds H) (hself : Reads t self H) {f : Expr} (hf : H f) :
    Reads t (callOf self f) H :=
  (arguments_reads hself).bind fun _ ha => Reads.pure (hH.call _ _ _ _ hf ha.1 ha.2)

theorem dottedParts_passes (fuel : Nat) : Passes t (dottedParts fuel) := by
  induction fuel with
  | zero => exact Reads.pure trivial
  | succ fuel ih =>
      refine (skipIf_passes _).bind fun _ _ => Reads.either ?_ (Reads.pure trivial)
      exact expectName_reads.bind fun _ _ => ih.bind fun _ _ => Reads.pure trivial

theorem dottedName_passes : Passes t dottedName :=
  expectName_reads.bind fun _ _ => bound_passes.bind fun _ _ =>
    (dottedParts_passes _).bind fun _ _ => Reads.pure trivial

include hH

theorem postfixes_reads (hself : Reads t self H) (fuel : Nat) {e : Expr}
    (he : H e) : Reads t (postfixes self fuel e) H := by
  induction fuel generalizing e with
  | zero => exact Reads.pure he
  | succ fuel ih =>
      unfold postfixes
      refine current_reads.bind fun l _ => ?_
      split
      · refine Reads.either ?_ (Reads.either ?_ (Reads.either ?_ (Reads.pure he)))
        · -- After a dot stands a name or a number.
          refine advance_passes.bind fun _ _ => current_reads.bind fun l _ =>
            advance_passes.bind fun _ _ => ?_
          split
          · exact ih (hH.member _ _ he)
          · exact ih (hH.item _ _ he (hH.int _))
          · exact Reads.failAt
        · refine advance_passes.bind fun _ _ => bound_passes.bind fun n _ => ?_
          refine (itemsUntil_reads "]" hself n true).bind fun keys hkeys => ?_
          split
          · exact ih (hH.item _ _ he (hkeys _ (List.mem_singleton_self _)))
          · exact ih (hH.item _ _ he (hH.tuple _ hkeys))
        · exact (callOf_reads hH hself he).bind fun e he => ih he
      · exact Reads.pure he

theorem filterOf_reads (hself : Reads t self H) {e : Expr} (he : H e) :
    Reads t (filterOf self e) H := by
  refine currentLine_passes.bind fun _ _ => dottedName_passes.bind fun name _ => ?_
  refine current_reads.bind fun l _ => Reads.either ?_ ?_
  · exact (arguments_reads hself).bind fun a ha =>
      Reads.pure (hH.filter _ _ _ _ _ _ _ he ha.1 ha.2)
  · exact Reads.pure (hH.filter _ _ _ _ _ _ _ he nofun nofun)

theorem testOf_reads (hself : Reads t self H) (line : Nat) {e : Expr}
    (he : H e) : Reads t (testOf self line e) H := by
  unfold testOf
  refine (skipIf_passes _).bind fun negated _ => dottedName_passes.bind fun name _ =>
    current_reads.bind fun l _ => ?_
  extract_lets next negate argument
  have hnegate : ∀ test : Expr, H test → Reads t (negate test) H := by
    intro test htest
    refine Reads.pure ?_
    split
    · exact hH.not _ htest
    · exact htest
  refine Reads.either ?_ (Reads.either ?_ ?_)
  · exact (arguments_reads hself).bind fun a ha => hnegate _ (hH.test _ _ _ _ _ _ he ha.1 ha.2)
  · refine Reads.maybe fail_reads ?_
    refine (primary_reads hH hself).bind fun a ha => bound_passes.bind fun n _ => ?_
    refine (postfixes_reads hH hself n ha).bind fun a ha => ?_
    exact hnegate _ (hH.test _ _ _ _ _ _ he (List.forall_mem_singleton.mpr ha) nofun)
  · exact hnegate _ (hH.test _ _ _ _ _ _ he nofun nofun)

theorem filters_reads (hself : Reads t self H) (fuel : Nat) {e : Expr}
    (he : H e) : Reads t (filters self fuel e) H := by
  induction fuel generalizing e with
  | zero => exact Reads.pure he
  | succ fuel ih =>
      unfold filters
      refine current_reads.bind fun l _ => ?_
      split
      · refine Reads.either ?_ (Reads.either ?_ (Reads.pure he))
        · exact advance_passes.bind fun _ _ => (filterOf_reads hH hself he).bind fun e he => ih he
        · exact (callOf_reads hH hself he).bind fun e he => ih he
      · refine Reads.either ?_ (Reads.pure he)
        exact advance_passes.bind fun _ _ => (testOf_reads hH hself _ he).bind fun e he => ih he
      · exact Reads.pure he

theorem signed_reads (hself : Reads t self H) (fuel : Nat) :
    Reads t (signed self fuel) H := by
  have hplain : Reads t (do
      let e ← primary self
      postfixes self (← bound) e) H :=
    (primary_reads hH hself).bind fun e he => bound_passes.bind fun n _ =>
      postfixes_reads hH hself n he
  induction fuel with
  | zero => exact fail_reads
  | succ fuel ih =>
      unfold signed
      refine current_reads.bind fun l _ => ?_
      split
      · refine Reads.either ?_ hplain
        exact advance_passes.bind fun _ _ => ih.bind fun e he => Reads.pure (hH.sign _ _ he)
      · exact hplain

theorem unary_reads (hself : Reads t self H) : Reads t (unary self) H :=
  bound_passes.bind fun n _ => (signed_reads hH hself n).bind fun _ he =>
    bound_passes.bind fun m _ => filters_reads hH hself m he

theorem productOperator?_builds : ∀ tok f, productOperator? tok = some f → ∀ l r : Expr, H l →
    H r → H (f l r) := by
  intro tok f hf l r hl hr
  unfold productOperator? at hf
  repeat' split at hf
  all_goals cases hf
  all_goals exact hH.binary _ l r hl hr

theorem sumOperator?_builds : ∀ tok f, sumOperator? tok = some f → ∀ l r : Expr, H l → H r →
    H (f l r) := by
  intro tok f hf l r hl hr
  unfold sumOperator? at hf
  repeat' split at hf
  all_goals cases hf
  all_goals exact hH.binary _ l r hl hr

omit hH

theorem joinedOperands_reads {operand : Parser Expr} (hoperand : Reads t operand H)
    (fuel : Nat) : Reads t (joinedOperands operand fuel) fun es => ∀ e ∈ es, H e := by
  induction fuel with
  | zero => exact Reads.pure nofun
  | succ fuel ih =>
      refine (skipIf_passes _).bind fun _ _ => Reads.either ?_ (Reads.pure nofun)
      exact hoperand.bind fun e he => ih.bind fun es hes =>
        Reads.pure (List.forall_mem_cons.mpr ⟨he, hes⟩)

theorem comparisons_reads {operand : Parser Expr} (hoperand : Reads t operand H)
    (fuel : Nat) : Reads t (comparisons operand fuel) fun cs => ∀ c ∈ cs, H c.2 := by
  induction fuel with
  | zero => exact Reads.pure nofun
  | succ fuel ih =>
      unfold comparisons
      refine current_reads.bind fun l _ => ?_
      extract_lets next afterOperator
      have hafter : ∀ op, Reads t (afterOperator op) fun cs => ∀ c ∈ cs, H c.2 := by
        intro op
        simp only [afterOperator]
        split
        · refine hoperand.bind fun e he => ih.bind fun cs hcs => Reads.pure ?_
          exact List.forall_mem_cons.mpr ⟨he, hcs⟩
        · exact Reads.pure nofun
      split
      · exact advance_passes.bind fun _ _ => (hafter _).next
      · refine Reads.either ?_ (hafter none).next
        refine look_passes.bind fun _ _ => Reads.either ?_ (hafter none).next
        exact advance_passes.bind fun _ _ => advance_passes.bind fun _ _ => (hafter _).next

include hH

theorem product_reads (hself : Reads t self H) : Reads t (product self) H :=
  leftLevel_reads (productOperator?_builds hH) (unary_reads hH hself)

theorem joining_reads (hself : Reads t self H) :
    Reads t (joining self) H := by
  refine (product_reads hH hself).bind fun e he => bound_passes.bind fun n _ => ?_
  refine (joinedOperands_reads (product_reads hH hself) n).bind fun es hes => Reads.pure ?_
  split
  · exact he
  · exact hH.concat _ (List.forall_mem_cons.mpr ⟨he, hes⟩)

theorem sum_reads (hself : Reads t self H) : Reads t (sum self) H :=
  leftLevel_reads (sumOperator?_builds hH) (joining_reads hH hself)

theorem comparing_reads (hself : Reads t self H) :
    Reads t (comparing self) H := by
  refine (sum_reads hH hself).bind fun e he => bound_passes.bind fun n _ => ?_
  refine (comparisons_reads (sum_reads hH hself) n).bind fun cs hcs => Reads.pure ?_
  split
  · exact he
  · exact hH.compare _ _ _ he (List.forall_mem_map.mpr hcs)

theorem negating_reads (hself : Reads t self H) (fuel : Nat) :
    Reads t (negating self fuel) H := by
  induction fuel with
  | zero => exact fail_reads
  | succ fuel ih =>
      refine (skipIf_passes _).bind fun _ _ => Reads.either ?_ (comparing_reads hH hself)
      exact ih.bind fun e he => Reads.pure (hH.not _ he)

theorem conjunction_reads (hself : Reads t self H) :
    Reads t (conjunction self) H := by
  refine leftLevel_reads (fun tok f hf l r hl hr => ?_)
    (bound_passes.bind fun n _ => negating_reads hH hself n)
  split at hf
  · cases hf
    exact hH.and l r hl hr
  · cases hf

theorem disjunction_reads (hself : Reads t self H) :
    Reads t (disjunction self) H := by
  refine leftLevel_reads (fun tok f hf l r hl hr => ?_) (conjunction_reads hH hself)
  split at hf
  · cases hf
    exact hH.or l r hl hr
  · cases hf

theorem choices_reads (hself : Reads t self H) (fuel line : Nat) {e : Expr}
    (he : H e) : Reads t (choices self fuel line e) H := by
  induction fuel generalizing line e with
  | zero => exact Reads.pure he
  | succ fuel ih =>
      refine (skipIf_passes _).bind fun _ _ => Reads.either ?_ (Reads.pure he)
      refine (disjunction_reads hH hself).bind fun test htest => ?_
      refine (skipIf_passes _).bind fun _ _ => Reads.either ?_ ?_
      · exact hself.bind fun other hother => currentLine_passes.bind fun _ _ =>
          ih _ (hH.choose _ _ _ htest he hother)
      · exact currentLine_passes.bind fun _ _ => ih _ (hH.chooseSome _ _ _ htest he)

/-- Expressions have every such property, however deep they are nested. -/
theorem expressionAt_reads (depth : Nat) : Reads t (expressionAt depth) H := by
  induction depth with
  | zero => exact fail_reads
  | succ depth ih =>
      refine currentLine_passes.bind fun _ _ => (disjunction_reads hH ih).bind fun e he => ?_
      exact bound_passes.bind fun n _ => choices_reads hH ih n _ he

theorem expression_reads : Reads t expression H :=
  bound_passes.bind fun n _ => expressionAt_reads hH n

theorem unconditional_reads : Reads t unconditional H :=
  bound_passes.bind fun n _ => disjunction_reads hH (expressionAt_reads hH n)

end

variable (hH : Builds (Expr.Has t))
include hH

/-! ## Statements -/

theorem target_passes (endWords : List String) : Passes t (target endWords) := by
  refine currentLine_passes.bind fun _ _ => ?_
  refine (tupleOf_reads hH endWords false (primary_reads hH (expression_reads hH))).bind ?_
  intro e _
  split
  · exact Reads.pure trivial
  · exact Reads.failAt

omit hH

theorem tagClose_passes : Passes t tagClose :=
  (skipIf_passes _).bind fun _ _ => expect_passes _

theorem pieces_reads (pluralAllowed : Bool) (fuel : Nat) :
    Reads t (pieces pluralAllowed fuel) fun ps => ∀ p ∈ ps, p.Has t := by
  induction fuel with
  | zero => exact fail_reads
  | succ fuel ih =>
      unfold pieces
      refine current_reads.bind fun l hl => ?_
      split
      · rename_i s hs
        rw [hs] at hl
        exact advance_passes.bind fun _ _ => ih.bind fun ps hps =>
          Reads.pure (List.forall_mem_cons.mpr ⟨hl, hps⟩)
      · exact advance_passes.bind fun _ _ => expectName_reads.bind fun n hn =>
          (expect_passes _).bind fun _ _ => ih.bind fun ps hps =>
            Reads.pure (List.forall_mem_cons.mpr ⟨hn, hps⟩)
      · exact advance_passes.bind fun _ _ => current_reads.bind fun _ _ =>
          Reads.either (Reads.pure nofun) (Reads.either (Reads.pure nofun) fail_reads)
      · exact fail_reads

/-- The declarations of a translatable block meet the conditions. -/
structure Declared.Has (t : Traits) (d : Declared) : Prop where
  values : ∀ e ∈ d.values, e.Has t
  first : ∀ e, d.first = some e → e.Has t
  call : ∀ e, d.call = some e → e.Has t

theorem Declared.Has.add {d : Declared} (hd : d.Has t) (name : String) {e : Expr}
    (he : e.Has t) : (d.add name e).Has t := by
  have hvalues (e : Expr) (he : e.Has t) : ∀ e' ∈ d.values ++ [e], e'.Has t :=
    List.forall_mem_append.mpr ⟨hd.values, List.forall_mem_singleton.mpr he⟩
  unfold Declared.add
  split
  · exact ⟨hvalues e he, hd.first, hd.call⟩
  · split
    · refine ⟨hvalues _ trivial, fun e' he' => ?_, fun e' he' => ?_⟩
      · cases he'
        exact trivial
      · cases he'
        exact he
    · refine ⟨hvalues _ he, fun e' he' => ?_, hd.call⟩
      cases he'
      exact he

theorem context?_passes : Passes t context? := by
  refine current_reads.bind fun l _ => ?_
  split
  · exact advance_passes.bind fun _ _ => Reads.pure trivial
  · exact Reads.pure trivial

theorem skipPair_passes (p q : Token → Bool) : Passes t (skipPair p q) := by
  refine current_reads.bind fun _ _ => Reads.either ?_ (Reads.pure trivial)
  refine look_passes.bind fun _ _ => Reads.either ?_ (Reads.pure trivial)
  exact advance_passes.bind fun _ _ => advance_passes.bind fun _ _ => Reads.pure trivial

/-- What is found in a list is in it. -/
theorem mem_of_lookup {l : List (String × α)} {n : String} {a : α} (h : l.lookup n = some a) :
    (n, a) ∈ l := by
  obtain ⟨before, rest, rfl, -⟩ := List.lookup_eq_some_iff.mp h
  exact List.mem_append_right before (List.mem_cons_self ..)

theorem pluralPart_reads {d : Declared} (hd : d.Has t) :
    Reads t (pluralPart d) fun r => (∀ e, r.1 = some e → e.Has t) ∧ ∀ p ∈ r.2, p.Has t := by
  unfold pluralPart
  refine advance_passes.bind fun _ _ => current_reads.bind fun l _ => ?_
  extract_lets afterCount
  have hafter : ∀ count, (∀ e, count = some e → Expr.Has t e) → Reads t (afterCount count)
      fun r => (∀ e, r.1 = some e → e.Has t) ∧ ∀ p ∈ r.2, p.Has t := fun count hcount =>
    (expect_passes _).bind fun _ _ => bound_passes.bind fun n _ =>
      (pieces_reads false n).bind fun ps hps => Reads.pure ⟨hcount, hps⟩
  refine Reads.either (hafter none nofun) ?_
  refine currentLine_passes.bind fun _ _ => expectName_reads.bind fun name _ => ?_
  split
  · rename_i e he
    refine hafter _ fun e' he' => ?_
    cases he'
    exact hd.values e (List.of_mem_zip (mem_of_lookup he)).2
  · exact Reads.failAt

include hH

theorem declarations_reads (fuel : Nat) {d : Declared} (hd : d.Has t) :
    Reads t (declarations fuel d) (Declared.Has t) := by
  induction fuel generalizing d with
  | zero => exact fail_reads
  | succ fuel ih =>
      unfold declarations
      refine current_reads.bind fun l _ => Reads.either (Reads.pure hd) ?_
      extract_lets afterComma
      refine Reads.maybe (expect_passes _) ?_
      refine (skipIf_passes _).bind fun _ _ => Reads.either (Reads.pure hd) ?_
      refine currentLine_passes.bind fun _ _ => expectName_reads.bind fun name _ => ?_
      refine Reads.maybe Reads.failAt ?_
      refine (skipIf_passes _).bind fun _ _ => Reads.either ?_ (Reads.either ?_ ?_)
      · exact (expression_reads hH).bind fun e he => ih (hd.add name he)
      · exact ih ⟨hd.values, hd.first, hd.call⟩
      · exact ih (hd.add name trivial)

theorem transBlock_reads (line : Nat) : Reads t (transBlock line) (StatementsHave t) := by
  unfold transBlock
  refine context?_passes.bind fun context _ => bound_passes.bind fun n _ => ?_
  have hempty : Declared.Has t {} := ⟨by simp, by simp, by simp⟩
  refine (declarations_reads hH n hempty).bind fun d hd => ?_
  refine (expect_passes _).bind fun _ _ => bound_passes.bind fun m _ => ?_
  refine (pieces_reads true m).bind fun singular hsingular => ?_
  extract_lets first afterPlural
  have hfirst : ∀ e, first = some e → e.Has t := by
    intro e he
    rcases Option.or_eq_some_iff.mp he with he | ⟨-, he⟩
    · exact hd.first e he
    · obtain ⟨n, -, rfl⟩ := Option.map_eq_some_iff.mp he
      exact trivial
  have hafter : ∀ (plural : Option (List Piece)) (count : Option Expr),
      (∀ ps, plural = some ps → ∀ p ∈ ps, p.Has t) → (∀ e, count = some e → e.Has t) →
      Reads t (afterPlural (plural, count)) (StatementsHave t) := by
    intro plural count hplural hcount
    refine Reads.pure (statementsHave_iff.mpr (List.forall_mem_append.mpr ⟨fun s hs => ?_, ?_⟩))
    · -- The call that the block counts by is made by an assignment before it.
      obtain ⟨e, he, rfl⟩ := Option.map_eq_some_iff.mp (Option.mem_toList.mp hs)
      exact hd.call e he
    · refine List.forall_mem_singleton.mpr ⟨?_, hcount, hsingular, hplural⟩
      refine List.forall_mem_append.mpr ⟨hd.values, List.forall_mem_map.mpr fun n _ => ?_⟩
      exact trivial
  refine current_reads.bind fun l _ => Reads.either ?_ ?_
  · refine (pluralPart_reads hd).bind ?_
    rintro ⟨named, ps⟩ ⟨hnamed, hps⟩
    simp only
    split
    · rename_i e he
      refine advance_passes.bind fun _ _ => (hafter _ _ ?_ ?_).next
      · intro qs hqs
        cases hqs
        exact hps
      · intro f hf
        cases hf
        rcases Option.or_eq_some_iff.mp he with he | ⟨-, he⟩
        · exact hnamed _ he
        · exact hfirst _ he
    · exact advance_passes.bind fun _ _ => Reads.failAt.bind (P := fun _ => False) nofun
  · exact advance_passes.bind fun _ _ => (hafter none none nofun nofun).next

theorem inclusion_reads : Reads t inclusion (StatementsHave t) := by
  refine (expression_reads hH).bind fun e he => (skipPair_passes _ _).bind fun _ _ => ?_
  refine (skipPair_passes _ _).bind fun _ _ => Reads.either (Reads.pure ⟨he, trivial⟩) ?_
  exact (skipPair_passes _ _).bind fun _ _ => Reads.pure ⟨he, trivial⟩

theorem assignment_reads : Reads t assignment (StatementsHave t) :=
  (target_passes hH []).bind fun _ _ => (expect_passes _).bind fun _ _ =>
    (tupleOf_reads hH [] false (expression_reads hH)).bind fun _ he => Reads.pure ⟨he, trivial⟩

variable {body : List String → Parser (List Stmt)}
  (hbody : ∀ ends, Reads t (body ends) (StatementsHave t))

omit hH in
include hbody in
theorem inner_reads (ends : List String) : Reads t (inner body ends) (StatementsHave t) := by
  refine tagClose_passes.bind fun _ _ => (hbody ends).bind fun ss hss => ?_
  exact current_reads.bind fun _ _ => Reads.maybe fail_reads (Reads.pure hss)

include hbody

theorem conditional_reads (fuel : Nat) : Reads t (conditional body fuel) (StatementsHave t) := by
  induction fuel with
  | zero => exact fail_reads
  | succ fuel ih =>
      unfold conditional
      refine (tupleOf_reads hH [] false (unconditional_reads hH)).bind fun test htest => ?_
      refine (inner_reads hbody _).bind fun yes hyes => take_reads.bind fun l _ => ?_
      refine Reads.either ?_ (Reads.either ?_ (Reads.pure ⟨⟨htest, hyes, trivial⟩, trivial⟩))
      · exact ih.bind fun no hno => Reads.pure ⟨⟨htest, hyes, hno⟩, trivial⟩
      · exact (inner_reads hbody _).bind fun no hno => advance_passes.bind fun _ _ =>
          Reads.pure ⟨⟨htest, hyes, hno⟩, trivial⟩

theorem looping_reads : Reads t (looping body) (StatementsHave t) := by
  unfold looping
  refine (target_passes hH _).bind fun target _ => (expect_passes _).bind fun _ _ => ?_
  refine (tupleOf_reads hH _ false (unconditional_reads hH)).bind fun iter hiter => ?_
  refine (skipIf_passes _).bind fun _ _ => ?_
  extract_lets afterTest
  have hafter : ∀ test : Option Expr, (∀ e, test = some e → e.Has t) →
      Reads t (afterTest test) (StatementsHave t) := by
    intro test htest
    refine (skipIf_passes _).bind fun _ _ => (inner_reads hbody _).bind fun yes hyes => ?_
    refine take_reads.bind fun l _ => Reads.either ?_ ?_
    · exact (inner_reads hbody _).bind fun no hno => advance_passes.bind fun _ _ =>
        Reads.pure ⟨⟨hiter, htest, hyes, hno⟩, trivial⟩
    · exact Reads.pure ⟨⟨hiter, htest, hyes, trivial⟩, trivial⟩
  refine Reads.either ?_ (hafter none nofun).next
  refine (expression_reads hH).bind fun e he => (hafter (some e) fun e' he' => ?_).next
  cases he'
  exact he

theorem statement_reads (tags : Tags) : Reads t (statement tags body) (StatementsHave t) := by
  refine current_reads.bind fun l _ => ?_
  split
  · refine Reads.either ?_ (Reads.either ?_ (Reads.either ?_ (Reads.either ?_ (Reads.either ?_
      Reads.failAt))))
    · exact advance_passes.bind fun _ _ => bound_passes.bind fun n _ =>
        conditional_reads hH hbody n
    · exact advance_passes.bind fun _ _ => looping_reads hH hbody
    · exact advance_passes.bind fun _ _ => assignment_reads hH
    · exact advance_passes.bind fun _ _ => inclusion_reads hH
    · exact advance_passes.bind fun _ _ => transBlock_reads hH _
  · exact Reads.failAt

omit hbody

/-- Statements have what their tokens have. -/
theorem statements_reads (tags : Tags) (fuel : Nat) (ends : List String) :
    Reads t (statements tags fuel ends) (StatementsHave t) := by
  induction fuel generalizing ends with
  | zero => exact fail_reads
  | succ fuel ih =>
      unfold statements
      refine current_reads.bind fun l hl => ?_
      split
      · exact Reads.pure trivial
      · rename_i s hs
        rw [hs] at hl
        exact advance_passes.bind fun _ _ => (ih ends).bind fun ss hss => Reads.pure ⟨hl, hss⟩
      · refine advance_passes.bind fun _ _ => ?_
        refine (tupleOf_reads hH [] false (expression_reads hH)).bind fun e he => ?_
        exact (expect_passes _).bind fun _ _ => (ih ends).bind fun ss hss => Reads.pure ⟨he, hss⟩
      · refine advance_passes.bind fun _ _ => current_reads.bind fun l _ => ?_
        extract_lets isEnd
        refine Reads.either (Reads.pure trivial) ?_
        refine (statement_reads hH ih tags).bind fun ss hss => (expect_passes _).bind fun _ _ => ?_
        refine (ih ends).bind fun more hmore => Reads.pure ?_
        exact statementsHave_iff.mpr (List.forall_mem_append.mpr
          ⟨statementsHave_iff.mp hss, statementsHave_iff.mp hmore⟩)
      · exact fail_reads

end Parser

/-! ## Tokens -/

/-- The text of a token that is text between tags. -/
def Token.data? : Token → Option String
  | .data s => some s
  | _ => none

/-- The literal text of a template: what stands between its tags, also in translatable
    blocks, and what is marked as raw. -/
def literals (text : List Char) : List String :=
  (Lexeme.ofText text).filterMap fun l => l.token.data?

/-- A token that is a name is one by the rules for names. -/
def Token.Named : Token → Prop
  | .name n => Text.isName n.toList = true
  | _ => True

/-- All names among some tokens are names by the rules. -/
def AllNamed (ls : List Lexeme) : Prop := ∀ l ∈ ls, l.token.Named

namespace AllNamed

theorem nil : AllNamed [] := nofun

theorem cons {tok : Token} {line : Nat} {ls : List Lexeme} (htok : tok.Named) (h : AllNamed ls) :
    AllNamed (⟨tok, line⟩ :: ls) := List.forall_mem_cons.mpr ⟨htok, h⟩

theorem append {ls ls' : List Lexeme} (h : AllNamed ls) (h' : AllNamed ls') :
    AllNamed (ls ++ ls') := List.forall_mem_append.mpr ⟨h, h'⟩

theorem fault {line : Nat} : AllNamed [⟨.fault, line⟩] := cons trivial nil

end AllNamed

theorem Token.named_name {w : List Char} (h : Text.isName w = true) :
    (Token.name (String.ofList w)).Named := by
  rw [Token.Named, String.toList_ofList]
  exact h

theorem tagStep_named {previous : Char} {s rest : List Char} {tok : Token} {lines : Nat}
    (h : tagStep previous s = .token tok lines rest) : tok.Named := by
  have hnamed {tok' : Token} {n : Nat} {r : List Char}
      (heq : TagStep.token tok' n r = .token tok lines rest) (htok : tok'.Named) : tok.Named := by
    injection heq with heq
    exact heq ▸ htok
  unfold tagStep at h
  split at h
  · exact nomatch h
  · split at h
    · exact nomatch h
    · split at h
      · exact hnamed h trivial
      · split at h
        · exact hnamed h trivial
        · split at h
          · -- A word is taken as a name only if it is one.
            simp only at h
            split at h
            · rename_i hname
              exact hnamed h (Token.named_name hname)
            · exact nomatch h
          · split at h
            · exact hnamed h trivial
            · exact nomatch h
            · split at h
              · exact hnamed h trivial
              · exact nomatch h

theorem dataLexemes_named (s : List Char) (line : Nat) : AllNamed (dataLexemes s line) := by
  unfold dataLexemes
  split
  · exact AllNamed.nil
  · exact AllNamed.cons trivial AllNamed.nil

theorem scan_named (fuel : Nat) (mode : Mode) (line : Nat) (previous : Char) (s : List Char) :
    AllNamed (scan fuel mode line previous s) := by
  induction fuel generalizing mode line previous s with
  | zero => exact AllNamed.nil
  | succ fuel ih =>
      cases s with
      | nil =>
          unfold scan
          exact AllNamed.nil
      | cons c s =>
          cases mode with
          | text =>
              unfold scan
              simp only
              split
              · exact dataLexemes_named _ _
              · refine (dataLexemes_named _ _).append ?_
                -- What follows the text before a tag depends on what the tag opens.
                split
                · exact AllNamed.cons trivial (ih _ _ _ _)
                · exact AllNamed.cons trivial (ih _ _ _ _)
                · split
                  · exact ih _ _ _ _
                  · split
                    · exact AllNamed.nil
                    · exact AllNamed.fault
                · split
                  · exact (dataLexemes_named _ _).append (ih _ _ _ _)
                  · split
                    · exact AllNamed.nil
                    · exact AllNamed.fault
          | tag print stack =>
              unfold scan
              split
              · refine AllNamed.cons ?_ (ih _ _ _ _)
                split <;> trivial
              · split
                · exact ih _ _ _ _
                · exact AllNamed.fault
                · rename_i htok
                  extract_lets last go
                  have hgo : ∀ stack, AllNamed (go stack) := fun stack =>
                    AllNamed.cons (tagStep_named htok) (ih _ _ _ _)
                  -- A symbol may open or close a bracket, which changes the mode only.
                  split
                  · split
                    · split
                      · split
                        · exact hgo _
                        · exact AllNamed.fault
                      · exact AllNamed.fault
                    · split
                      · exact hgo _
                      · exact hgo _
                  · exact hgo _

/-- A template has what its literal text and its names have. -/
theorem parse_has (ht : t.Lenient) (hname : ∀ n : String, Text.isName n.toList = true → t.mention n)
    (tags : Tags) {text : List Char} (htext : ∀ s ∈ literals text, t.text s) :
    Ensures (parse tags text) (StatementsHave t) := by
  have htokens : ∀ l ∈ Lexeme.ofText text, l.token.Has t := by
    intro l hl
    have hnamed := scan_named _ _ _ _ _ l hl
    cases htok : l.token with
    | data s => exact htext s (List.mem_filterMap.mpr ⟨l, hl, by rw [htok]; rfl⟩)
    | name n =>
        rw [htok] at hnamed
        exact hname n hnamed
    | _ => exact trivial
  have hstart : Ensures (Parser.checkFront ⟨Lexeme.ofText text, 1⟩) (Cursor.Has t) := by
    unfold Parser.checkFront
    split
    · exact Ensures.error
    · exact Ensures.ok htokens
  refine hstart.bind fun start hs => ?_
  exact (Parser.statements_reads (Parser.has_builds ht) tags _ [] start hs).bind fun r hr =>
    Ensures.ok hr.1

end Template

end Stencil
