import Stencil.Template.Render

/-!
# Traits of templates

What is said of a template is often said of all its parts: of every constant in its
expressions, of every filter that it names, of every literal text and of every variable
that its translatable text mentions. Traits are four such conditions, and a template has
them if all its parts do, however deep they are nested.

## Main definitions

* `Traits`: Conditions on the parts of a template.
* `Expr.Has`, `Stmt.Has`: All parts of an expression or a statement meet them.
* `Traits.Join`: Two conditions together give a third.

## Theorems

* `allHave_iff`, `statementsHave_iff`: What lists have, item by item.
* `StatementsHave.join`: Two conditions that are met together give a third.
-/

namespace Stencil

namespace Template

/-- Conditions on the parts of a template. -/
structure Traits where
  constant : Value → Prop
  filter : String → Prop
  text : String → Prop
  mention : String → Prop

mutual

/-- All parts of an expression meet the conditions. -/
def Expr.Has (t : Traits) : Expr → Prop
  | .const v => t.constant v
  | .name _ => True
  | .list items => AllHave t items
  | .tuple items => AllHave t items
  | .dict keys values => AllHave t keys ∧ AllHave t values
  | .member e _ => e.Has t
  | .item e index => e.Has t ∧ index.Has t
  | .call f args _ values => f.Has t ∧ AllHave t args ∧ AllHave t values
  | .filter e name args _ values _ _ =>
    t.filter name ∧ e.Has t ∧ AllHave t args ∧ AllHave t values
  | .test e _ args _ values _ => e.Has t ∧ AllHave t args ∧ AllHave t values
  | .sign _ e => e.Has t
  | .not e => e.Has t
  | .binary _ l r => l.Has t ∧ r.Has t
  | .and l r => l.Has t ∧ r.Has t
  | .or l r => l.Has t ∧ r.Has t
  | .concat pieces => AllHave t pieces
  | .compare e _ operands => e.Has t ∧ AllHave t operands
  | .choose test yes no => test.Has t ∧ yes.Has t ∧ no.Has t
  | .chooseSome test yes _ => test.Has t ∧ yes.Has t

/-- All parts of some expressions meet the conditions. -/
def AllHave (t : Traits) : List Expr → Prop
  | [] => True
  | e :: es => e.Has t ∧ AllHave t es

end

/-- A piece of translatable text meets the conditions. -/
def Piece.Has (t : Traits) : Piece → Prop
  | .text s => t.text s
  | .mention n => t.mention n

/-- All parts of a translatable block meet the conditions. -/
structure TransBlock.Has (t : Traits) (b : TransBlock) : Prop where
  values : ∀ e ∈ b.values, e.Has t
  count : ∀ e, b.count = some e → e.Has t
  singular : ∀ p ∈ b.singular, p.Has t
  plural : ∀ ps, b.plural = some ps → ∀ p ∈ ps, p.Has t

mutual

/-- All parts of a statement meet the conditions. -/
def Stmt.Has (t : Traits) : Stmt → Prop
  | .text s => t.text s
  | .print e => e.Has t
  | .branch test body orelse _ => test.Has t ∧ StatementsHave t body ∧ StatementsHave t orelse
  | .loop _ _ iter test body orelse =>
    iter.Has t ∧ (∀ e, test = some e → e.Has t) ∧ StatementsHave t body ∧ StatementsHave t orelse
  | .set _ _ e => e.Has t
  | .include e _ _ => e.Has t
  | .trans b => b.Has t

/-- All parts of some statements meet the conditions. -/
def StatementsHave (t : Traits) : List Stmt → Prop
  | [] => True
  | s :: ss => s.Has t ∧ StatementsHave t ss

end

variable {t u v : Traits}

theorem allHave_iff {es : List Expr} : AllHave t es ↔ ∀ e ∈ es, e.Has t := by
  induction es with
  | nil => simp [AllHave]
  | cons e es ih => rw [AllHave, ih, List.forall_mem_cons]

theorem statementsHave_iff {ss : List Stmt} : StatementsHave t ss ↔ ∀ s ∈ ss, s.Has t := by
  induction ss with
  | nil => simp [StatementsHave]
  | cons s ss ih => rw [StatementsHave, ih, List.forall_mem_cons]

/-! ## Traits are decided part by part -/

section

variable {t : Traits} [DecidablePred t.constant] [DecidablePred t.filter] [DecidablePred t.text]
  [DecidablePred t.mention]

/-- Two conditions are decided one after the other. -/
def decideBoth {p q : Prop} (hp : Decidable p) (hq : Decidable q) : Decidable (p ∧ q) :=
  inferInstance

def decideOptional {α : Type} {P : α → Prop} [DecidablePred P] :
    (o : Option α) → Decidable (∀ x, o = some x → P x)
  | none => .isTrue nofun
  | some x => decidable_of_iff (P x) ⟨fun h _ hy => Option.some.inj hy ▸ h, fun h => h x rfl⟩

mutual

instance Expr.decideHas : (e : Expr) → Decidable (e.Has t)
  | .const v => inferInstanceAs (Decidable (t.constant v))
  | .name _ => .isTrue trivial
  | .list items | .tuple items | .concat items => decideAllHave items
  | .dict keys values => decideBoth (decideAllHave keys) (decideAllHave values)
  | .member e _ | .sign _ e | .not e => e.decideHas
  | .item e f | .binary _ e f | .and e f | .or e f | .chooseSome e f _ =>
    decideBoth e.decideHas f.decideHas
  | .choose e f g => decideBoth e.decideHas (decideBoth f.decideHas g.decideHas)
  | .call e args _ values | .test e _ args _ values _ =>
    decideBoth e.decideHas (decideBoth (decideAllHave args) (decideAllHave values))
  | .filter e n args _ values _ _ =>
    decideBoth (inferInstanceAs (Decidable (t.filter n)))
      (decideBoth e.decideHas (decideBoth (decideAllHave args) (decideAllHave values)))
  | .compare e _ es => decideBoth e.decideHas (decideAllHave es)

instance decideAllHave : (es : List Expr) → Decidable (AllHave t es)
  | [] => .isTrue trivial
  | e :: es => decideBoth e.decideHas (decideAllHave es)

end

instance : (p : Piece) → Decidable (p.Has t)
  | .text s => inferInstanceAs (Decidable (t.text s))
  | .mention n => inferInstanceAs (Decidable (t.mention n))

instance (b : TransBlock) : Decidable (b.Has t) :=
  decidable_of_iff
    ((∀ e ∈ b.values, e.Has t) ∧ (∀ e, b.count = some e → e.Has t) ∧
      (∀ p ∈ b.singular, p.Has t) ∧ ∀ ps, b.plural = some ps → ∀ p ∈ ps, p.Has t)
    ⟨fun ⟨hv, hc, hs, hp⟩ => ⟨hv, hc, hs, hp⟩, fun h => ⟨h.values, h.count, h.singular, h.plural⟩⟩

mutual

instance Stmt.decideHas : (s : Stmt) → Decidable (s.Has t)
  | .text s => inferInstanceAs (Decidable (t.text s))
  | .print e | .set _ _ e | .include e _ _ => inferInstanceAs (Decidable (e.Has t))
  | .trans b => inferInstanceAs (Decidable (b.Has t))
  | .branch e body orelse _ =>
    decideBoth (inferInstanceAs (Decidable (e.Has t)))
      (decideBoth (decideStatementsHave body) (decideStatementsHave orelse))
  | .loop _ _ e test body orelse =>
    decideBoth (inferInstanceAs (Decidable (e.Has t))) (decideBoth (decideOptional test)
      (decideBoth (decideStatementsHave body) (decideStatementsHave orelse)))

instance decideStatementsHave : (ss : List Stmt) → Decidable (StatementsHave t ss)
  | [] => .isTrue trivial
  | s :: ss => decideBoth s.decideHas (decideStatementsHave ss)

end

end

/-- Two conditions together give a third. -/
structure Traits.Join (t u v : Traits) : Prop where
  constant : ∀ x, t.constant x → u.constant x → v.constant x
  filter : ∀ n, t.filter n → u.filter n → v.filter n
  text : ∀ s, t.text s → u.text s → v.text s
  mention : ∀ n, t.mention n → u.mention n → v.mention n

/-! ## Traits that are met together -/

mutual

theorem Expr.Has.join (hj : t.Join u v) {e : Expr} (h : e.Has t) (h' : e.Has u) : e.Has v := by
  match e with
  | .const x => exact hj.constant x h h'
  | .name _ => exact trivial
  | .list _ | .tuple _ | .concat _ => exact AllHave.join hj h h'
  | .dict _ _ => exact ⟨AllHave.join hj h.1 h'.1, AllHave.join hj h.2 h'.2⟩
  | .member e _ | .sign _ e | .not e => exact Expr.Has.join hj (e := e) h h'
  | .item e f | .binary _ e f | .and e f | .or e f | .chooseSome e f _ =>
      exact ⟨Expr.Has.join hj (e := e) h.1 h'.1, Expr.Has.join hj (e := f) h.2 h'.2⟩
  | .call f _ _ _ | .test f _ _ _ _ _ =>
      exact ⟨Expr.Has.join hj (e := f) h.1 h'.1, AllHave.join hj h.2.1 h'.2.1,
        AllHave.join hj h.2.2 h'.2.2⟩
  | .filter e n _ _ _ _ _ =>
      exact ⟨hj.filter n h.1 h'.1, Expr.Has.join hj (e := e) h.2.1 h'.2.1,
        AllHave.join hj h.2.2.1 h'.2.2.1, AllHave.join hj h.2.2.2 h'.2.2.2⟩
  | .compare e _ _ => exact ⟨Expr.Has.join hj (e := e) h.1 h'.1, AllHave.join hj h.2 h'.2⟩
  | .choose e f g =>
      exact ⟨Expr.Has.join hj (e := e) h.1 h'.1, Expr.Has.join hj (e := f) h.2.1 h'.2.1,
        Expr.Has.join hj (e := g) h.2.2 h'.2.2⟩

theorem AllHave.join (hj : t.Join u v) {es : List Expr} (h : AllHave t es) (h' : AllHave u es) :
    AllHave v es := by
  match es with
  | [] => exact trivial
  | e :: es => exact ⟨Expr.Has.join hj (e := e) h.1 h'.1, AllHave.join hj h.2 h'.2⟩

end

theorem Piece.Has.join (hj : t.Join u v) {p : Piece} (h : p.Has t) (h' : p.Has u) : p.Has v := by
  cases p with
  | text s => exact hj.text s h h'
  | mention n => exact hj.mention n h h'

theorem TransBlock.Has.join (hj : t.Join u v) {b : TransBlock} (h : b.Has t) (h' : b.Has u) :
    b.Has v where
  values e he := (h.values e he).join hj (h'.values e he)
  count e he := (h.count e he).join hj (h'.count e he)
  singular p hp := (h.singular p hp).join hj (h'.singular p hp)
  plural ps hps p hp := (h.plural ps hps p hp).join hj (h'.plural ps hps p hp)

mutual

theorem Stmt.Has.join (hj : t.Join u v) {s : Stmt} (h : s.Has t) (h' : s.Has u) : s.Has v := by
  match s with
  | .text s => exact hj.text s h h'
  | .print e | .set _ _ e | .include e _ _ => exact Expr.Has.join hj (e := e) h h'
  | .branch e _ _ _ =>
      exact ⟨Expr.Has.join hj (e := e) h.1 h'.1, StatementsHave.join hj h.2.1 h'.2.1,
        StatementsHave.join hj h.2.2 h'.2.2⟩
  | .loop _ _ e _ _ _ =>
      exact ⟨Expr.Has.join hj (e := e) h.1 h'.1,
        fun e he => (h.2.1 e he).join hj (h'.2.1 e he), StatementsHave.join hj h.2.2.1 h'.2.2.1,
        StatementsHave.join hj h.2.2.2 h'.2.2.2⟩
  | .trans b => exact TransBlock.Has.join hj h h'

theorem StatementsHave.join (hj : t.Join u v) {ss : List Stmt} (h : StatementsHave t ss)
    (h' : StatementsHave u ss) : StatementsHave v ss := by
  match ss with
  | [] => exact trivial
  | s :: ss => exact ⟨Stmt.Has.join hj (s := s) h.1 h'.1, StatementsHave.join hj h.2 h'.2⟩

end

end Template

end Stencil
