import Stencil.Proofs.Reading

/-!
# Templates without translatable blocks

Which tags are known matters to the reader at one place only, which is a tag that starts with
the word for a translatable block. Where no such tag opens among the tokens of a template, it
is read to the same statements, or refused at the same line, whatever tags are known.

Each step of reading leaves the tokens from some place on. So what is left when a tag comes to
be read has no translatable block in it either, and this is what carries the induction.

## Main definitions

* `opensBlock`: The tag of a translatable block opens among some tokens.
* `Parser.Alike`: Steps of reading that do the same where no such tag is left.

## Theorems

* `Parser.Alike.bind`: Steps of reading one after the other.
* `Parser.statements_alike`: Statements are read alike.
* `parse_eq`: And whole templates.
-/

namespace Stencil

namespace Template

/-- Whether the tag of a translatable block opens somewhere among some tokens. -/
def opensBlock : List Lexeme → Bool
  | [] => false
  | l :: rest =>
    (match l.token, rest with
      | .blockBegin, m :: _ => Token.isName "trans" m.token
      | _, _ => false) || opensBlock rest

theorem opensBlock_suffix {ls ms : List Lexeme} (h : opensBlock ls = false) (hms : ms <:+ ls) :
    opensBlock ms = false := by
  induction ls with
  | nil => exact List.suffix_nil.mp hms ▸ h
  | cons l ls ih =>
      rcases List.suffix_cons_iff.mp hms with rfl | hms
      · exact h
      · exact ih (Bool.or_eq_false_iff.mp h).2 hms

namespace Parser

/-- Conditions that ask for nothing. -/
def anything : Traits := ⟨fun _ => True, fun _ => True, fun _ => True, fun _ => True⟩

theorem anything_lenient : anything.Lenient :=
  ⟨trivial, fun _ => trivial, fun _ => trivial, fun _ => trivial, fun _ => trivial,
    fun _ => trivial⟩

theorem has_anything (c : Cursor) : c.Has anything := by
  rintro ⟨tok, line⟩ _
  cases tok <;> exact trivial

/-- Two steps of reading that do the same where no translatable block is left to read. -/
def Alike {α : Type} (p q : Parser α) : Prop :=
  ∀ c : Cursor, opensBlock c.rest = false → p.run c = q.run c

variable {α β : Type} {p q : Parser α} {f g : α → Parser β}

namespace Alike

theorem refl (p : Parser α) : Alike p p := fun _ _ => rfl

/-- What is left after the first step is the end of what was there, so no block is in it. -/
theorem run_bind {c : Cursor} (h : p.run c = q.run c) (hc : opensBlock c.rest = false)
    {P : α → Prop} (hp : Reads anything p P) (hf : ∀ x, Alike (f x) (g x)) :
    (p >>= f).run c = (q >>= g).run c := by
  rw [StateT.run_bind, StateT.run_bind, ← h]
  cases hr : p.run c with
  | error line => rfl
  | ok r => exact hf r.1 r.2 (opensBlock_suffix hc (hp c (has_anything c) r hr).2)

theorem bind (h : Alike p q) {P : α → Prop} (hp : Reads anything p P)
    (hf : ∀ x, Alike (f x) (g x)) : Alike (p >>= f) (q >>= g) := fun c hc =>
  run_bind (h c hc) hc hp hf

theorem next {P : α → Prop} (hp : Reads anything p P) (hf : ∀ x, Alike (f x) (g x)) :
    Alike (p >>= f) (p >>= g) := (refl p).bind hp hf

theorem run_either {c : Cursor} {P : Prop} [Decidable P] {p' q' : Parser α}
    (h : p.run c = q.run c) (h' : p'.run c = q'.run c) :
    (if P then p else p').run c = (if P then q else q').run c := by
  split
  · exact h
  · exact h'

theorem either {P : Prop} [Decidable P] {p' q' : Parser α} (h : Alike p q) (h' : Alike p' q') :
    Alike (if P then p else p') (if P then q else q') := fun c hc => run_either (h c hc) (h' c hc)

end Alike

/-- The token at the front. -/
def front (c : Cursor) : Lexeme := c.rest.headD ⟨.ending, c.line⟩

theorem run_current_bind (c : Cursor) (f : Lexeme → Parser α) :
    (current >>= f).run c = (f (front c)).run c := by
  obtain ⟨_ | _, _⟩ := c <;> rfl

theorem Alike.current {f g : Lexeme → Parser α} (h : ∀ c : Cursor, opensBlock c.rest = false →
    (f (front c)).run c = (g (front c)).run c) :
    Alike (Parser.current >>= f) (Parser.current >>= g) := fun c hc => by
  rw [run_current_bind, run_current_bind, h c hc]

section

variable {body body' : List String → Parser (List Stmt)}
  (hbody : ∀ ends, Alike (body ends) (body' ends))
  (hreads : ∀ ends, Reads anything (body ends) (StatementsHave anything))
include hbody hreads

theorem inner_alike (ends : List String) : Alike (inner body ends) (inner body' ends) :=
  .next tagClose_passes fun _ => (hbody ends).bind (hreads ends) fun _ => .refl _

theorem conditional_alike (fuel : Nat) :
    Alike (conditional body fuel) (conditional body' fuel) := by
  have hH := has_builds anything_lenient
  induction fuel with
  | zero => exact .refl _
  | succ fuel ih =>
      unfold conditional
      refine .next (tupleOf_reads hH [] false (unconditional_reads hH)) fun test => ?_
      refine (inner_alike hbody hreads _).bind (inner_reads hreads _) fun yes => ?_
      refine .next take_reads fun l => .either ?_ (.either ?_ (.refl _))
      · exact ih.bind (conditional_reads hH hreads fuel) fun _ => .refl _
      · exact (inner_alike hbody hreads _).bind (inner_reads hreads _) fun _ => .refl _

theorem looping_alike : Alike (looping body) (looping body') := by
  have hH := has_builds anything_lenient
  have hinner (ends : List String) := inner_alike hbody hreads ends
  unfold looping
  refine .next (target_passes hH _) fun target => .next (expect_passes _) fun _ => ?_
  refine .next (tupleOf_reads hH _ false (unconditional_reads hH)) fun iter => ?_
  refine .next (skipIf_passes _) fun _ => ?_
  extract_lets afterTest afterTest'
  have hafter (test : Option Expr) : Alike (afterTest test) (afterTest' test) := by
    refine .next (skipIf_passes _) fun _ => (hinner _).bind (inner_reads hreads _) fun yes => ?_
    refine .next take_reads fun l => .either ?_ (.refl _)
    exact (hinner _).bind (inner_reads hreads _) fun _ => .refl _
  refine .either (.next (expression_reads hH) fun e => ?_) ?_
  · exact hafter (some e)
  · exact hafter none

/-- A tag is read alike if it is not that of a translatable block. -/
theorem statement_alike (tags tags' : Tags) {c : Cursor} (hc : opensBlock c.rest = false)
    (hfront : (front c).token.isName "trans" = false) :
    (statement tags body).run c = (statement tags' body').run c := by
  unfold statement
  rw [run_current_bind, run_current_bind]
  split
  · rename_i s hs
    -- Tags are only asked for at the name of a translatable block, which this is not.
    have hname : s ≠ "trans" := by
      rw [hs] at hfront
      exact ne_of_beq_false hfront
    simp only [decide_eq_false hname, Bool.false_and, Bool.false_eq_true, if_false]
    refine Alike.either ?_ (Alike.either ?_ (.refl _)) c hc
    · exact .next advance_passes fun _ => .next bound_passes fun n =>
        conditional_alike hbody hreads n
    · exact .next advance_passes fun _ => looping_alike hbody hreads
  · rfl

end

/-- The token behind the one that opens a tag. -/
theorem front_of_blockBegin {c d : Cursor} (hc : opensBlock c.rest = false)
    (hfront : (front c).token = .blockBegin) (hd : d.rest = c.rest.tail) :
    (front d).token.isName "trans" = false := by
  obtain ⟨_ | ⟨l, rest⟩, _⟩ := c
  · cases hfront
  · obtain ⟨_ | ⟨m, rest'⟩, _⟩ := d
    · rfl
    · obtain rfl : m :: rest' = rest := hd
      have hl : l.token = .blockBegin := hfront
      have hopens := (Bool.or_eq_false_iff.mp hc).1
      rw [hl] at hopens
      exact hopens

/-- Going on from where one token was passed. -/
theorem run_advance_congr {c : Cursor} {f g : Unit → Parser α}
    (h : ∀ d : Cursor, d.rest = c.rest.tail → (f ()).run d = (g ()).run d) :
    (advance >>= f).run c = (advance >>= g).run c := by
  rw [StateT.run_bind, StateT.run_bind]
  have hd := advance_ensures c
  revert hd
  generalize advance.run c = r
  intro hd
  cases r with
  | error line => rfl
  | ok r => exact h r.2 (hd r rfl)

theorem statements_alike (tags tags' : Tags) (fuel : Nat) (ends : List String) :
    Alike (statements tags fuel ends) (statements tags' fuel ends) := by
  have hH := has_builds anything_lenient
  induction fuel generalizing ends with
  | zero => exact .refl _
  | succ fuel ih =>
      have hreads (ends : List String) := statements_reads hH tags fuel ends
      unfold statements
      refine .current fun c hc => ?_
      split
      · rfl
      · exact Alike.next advance_passes (fun _ => (ih ends).bind (hreads ends) fun _ =>
          .refl _) c hc
      · refine Alike.next advance_passes (fun _ => ?_) c hc
        refine .next (tupleOf_reads hH [] false (expression_reads hH)) fun e => ?_
        exact .next (expect_passes _) fun _ => (ih ends).bind (hreads ends) fun _ => .refl _
      · -- With the name of a translatable block behind it, the token would open one here.
        rename_i hfront
        refine run_advance_congr fun d hd => ?_
        have hfree : opensBlock d.rest = false := by
          rw [hd]
          exact opensBlock_suffix hc (List.tail_suffix c.rest)
        have hstatement := statement_alike ih hreads tags tags' hfree
          (front_of_blockBegin hc hfront hd)
        rw [run_current_bind, run_current_bind]
        refine Alike.run_either rfl (Alike.run_bind hstatement hfree
          (statement_reads hH hreads tags) fun _ => ?_)
        exact .next (expect_passes _) fun _ => (ih ends).bind (hreads ends) fun _ => .refl _
      · rfl

end Parser

/-- Which tags are known makes no difference where no translatable block opens. -/
theorem parse_eq (tags tags' : Tags) {text : List Char}
    (h : opensBlock (Lexeme.ofText text) = false) : parse tags text = parse tags' text := by
  refine (Parser.checkFront_ensures _).bind_congr fun start hstart => ?_
  have hstatements := Parser.statements_alike tags tags' ((Lexeme.ofText text).length + 1) []
    start (by rw [hstart]; exact h)
  rw [hstatements]

end Template

end Stencil
