import Stencil.Proofs.Easing

/-!
# Operators on eased values

Operators, the members and items of values, and format texts take values apart and put new ones
together. Given eased values they give what they gave, eased: a number or a text that they look
at is the same on both sides, what they pass on is eased as it comes, and where they would have
to look into a strict undefined value they fail before they do.

## Main definitions

* `Format.Filling.Eases`, `Format.Supply.Eases`: What fills the places of a format text, eased.

## Theorems

* `Value.onNumbers_eases`: Operators that only numbers have.
* `Value.item_eases`: Members and items.
* `Format.fill_eases`: Format texts.
* `Template.BinaryOp.apply_eases`, `Template.Comparison.apply_eases`: Operators of templates.
* `Template.makeDict_eases`: Mappings that are put together.
-/

namespace Stencil

namespace Value

variable {v v' w w' : Value} {xs ys : List Value} {es fs : List (Value × Value)}

/-! ## Operators -/

theorem definedBoth_eases (hv : Eases v v') (hw : Eases w w') :
    Carries (fun _ _ => True) (definedBoth v w) (definedBoth v' w') := by
  cases v with
  | undefined u => exact .refuse
  | _ =>
      cases w with
      | undefined u => exact .refuse
      | _ => cases hv <;> cases hw <;> exact .ok trivial

theorem toFloat_carries (a : Number) : Carries Eq (toFloat a) (toFloat a) := by
  unfold toFloat
  split
  · exact .ok rfl
  · split
    · exact .ok rfl
    · exact .error trivial

theorem onFloats_carries {f : Float → Float → Except Fault Value}
    (hf : ∀ x y, Carries Eases (f x y) (f x y)) (a b : Number) :
    Carries Eases (onFloats f a b) (onFloats f a b) := by
  refine (toFloat_carries a).bind ?_
  rintro x _ rfl
  refine (toFloat_carries b).bind ?_
  rintro y _ rfl
  exact hf x y

/-- An operator that only numbers have sees no difference between eased values. -/
theorem onNumbers_eases {whole : Int → Int → Except Fault Value}
    {real : Float → Float → Except Fault Value} {other other' : Except Fault Value}
    (hv : Eases v v') (hw : Eases w w') (hwhole : ∀ m n, Carries Eases (whole m n) (whole m n))
    (hreal : ∀ x y, Carries Eases (real x y) (real x y)) (hother : Carries Eases other other') :
    Carries Eases
      (match v.number?, w.number? with
        | some (.int m), some (.int n) => whole m n
        | some a, some b => onFloats real a b
        | _, _ => other)
      (match v'.number?, w'.number? with
        | some (.int m), some (.int n) => whole m n
        | some a, some b => onFloats real a b
        | _, _ => other') := by
  rw [← number?_eases hv, ← number?_eases hw]
  rcases v.number? with - | m | x <;> rcases w.number? with - | n | y
  case some.int.some.int => exact hwhole m n
  case some.int.some.float | some.float.some.int | some.float.some.float =>
    exact onFloats_carries hreal _ _
  all_goals exact hother

theorem mismatch_carries (op : String) (v w : Value) {b : Except Fault Value} :
    Carries Eases (mismatch op v w) b := .error trivial

/-- A number, unless a condition on the divisor refuses it. -/
theorem guarded_carries (c : Prop) [Decidable c] (text : String) (v : Value) :
    Carries Eases (if c then .error (.zeroDivision text) else .ok v)
      (if c then .error (.zeroDivision text) else .ok v) :=
  .ite (.error trivial) (.ok (.same v))

theorem add_eases (hv : Eases v v') (hw : Eases w w') : Carries Eases (add v w) (add v' w') := by
  refine (definedBoth_eases hv hw).bind fun _ _ _ => ?_
  cases v with
  | list xs =>
      obtain ⟨xs', rfl, hxs⟩ := hv.list_left
      cases w with
      | list ys =>
          obtain ⟨ys', rfl, hys⟩ := hw.list_left
          exact .ok (.list (List.rel_append hxs hys))
      | _ => exact .error trivial
  | tuple xs =>
      obtain ⟨xs', rfl, hxs⟩ := hv.tuple_left
      cases w with
      | tuple ys =>
          obtain ⟨ys', rfl, hys⟩ := hw.tuple_left
          exact .ok (.tuple (List.rel_append hxs hys))
      | _ => exact .error trivial
  | text s | markup s =>
      cases hv
      cases w with
      | text | markup => cases hw; exact .ok (.same _)
      | _ => exact .error trivial
  | bool b | int n | float x =>
      cases hv
      cases w with
      | bool | int | float =>
          cases hw
          first
          | exact .ok (.same _)
          | exact onFloats_carries (fun _ _ => .ok (.same _)) _ _
      | _ => exact .error trivial
  | _ => cases w <;> exact .error trivial

theorem sub_eases (hv : Eases v v') (hw : Eases w w') : Carries Eases (sub v w) (sub v' w') :=
  (definedBoth_eases hv hw).bind fun _ _ _ => onNumbers_eases hv hw (fun _ _ => .ok (.same _))
    (fun _ _ => .ok (.same _)) (mismatch_carries _ _ _)

theorem quotient_carries (m n : Int) : Carries Eases (quotient m n) (quotient m n) := by
  unfold quotient
  split
  · exact .error trivial
  · split
    · exact .ok (.same _)
    · exact .error trivial

theorem div_eases (hv : Eases v v') (hw : Eases w w') : Carries Eases (div v w) (div v' w') :=
  (definedBoth_eases hv hw).bind fun _ _ _ => onNumbers_eases hv hw quotient_carries
    (fun _ _ => guarded_carries _ _ _) (mismatch_carries _ _ _)

theorem floorDiv_eases (hv : Eases v v') (hw : Eases w w') :
    Carries Eases (floorDiv v w) (floorDiv v' w') :=
  (definedBoth_eases hv hw).bind fun _ _ _ => onNumbers_eases hv hw
    (fun _ _ => guarded_carries _ _ _) (fun _ _ => guarded_carries _ _ _)
    (mismatch_carries _ _ _)

theorem numericMod_eases (hv : Eases v v') (hw : Eases w w') :
    Carries Eases (numericMod v w) (numericMod v' w') :=
  (definedBoth_eases hv hw).bind fun _ _ _ => onNumbers_eases hv hw
    (fun _ _ => guarded_carries _ _ _) (fun _ _ => guarded_carries _ _ _)
    (mismatch_carries _ _ _)

theorem repeated_ease {xs ys : List Value} (h : List.Forall₂ Eases xs ys) (n : Int) :
    List.Forall₂ Eases (repeated xs n) (repeated ys n) := by
  unfold repeated
  induction n.toNat with
  | zero => exact .nil
  | succ n ih =>
      rw [List.replicate_succ, List.replicate_succ, List.flatten_cons, List.flatten_cons]
      exact List.rel_append h ih

theorem times_eases (h : Eases v v') (n : Int) : Eases (v.times n) (v'.times n) := by
  cases v with
  | list xs =>
      obtain ⟨ys, rfl, hxs⟩ := h.list_left
      exact .list (repeated_ease hxs n)
  | tuple xs =>
      obtain ⟨ys, rfl, hxs⟩ := h.tuple_left
      exact .tuple (repeated_ease hxs n)
  | dict es => 
      obtain ⟨fs, rfl, -⟩ := h.dict_left
      exact h
  | undefined u =>
      obtain ⟨u', rfl, -⟩ := h.undefined_left
      exact h
  | _ => cases h; exact .same _

/-- A value repeated as often as another says. -/
theorem repetition_eases (hv : Eases v v') (hw : Eases w w') {f f' : Fault} (hf : f.OfUse) :
    Carries Eases
      (match w.whole? with
        | some n => (pure (v.times n) : Except Fault Value)
        | none => .error f)
      (match w'.whole? with
        | some n => (pure (v'.times n) : Except Fault Value)
        | none => .error f') := by
  rw [← whole?_eases hw]
  cases w.whole? with
  | none => exact .error hf
  | some n => exact .ok (times_eases hv n)

/-- Multiplying markup repeats it, whatever is on the other side. -/
theorem mul_eq (v w : Value) : mul v w = (do
    definedBoth v w
    if Filter.isMarkup v then
      match w.whole? with
      | some n => return v.times n
      | none => .error (.misuse (.notWhole w.kindName))
    else if Filter.isMarkup w then
      match v.whole? with
      | some n => return w.times n
      | none => .error (.misuse (.notWhole v.kindName))
    else
      match v.number?, w.number? with
      | some (.int m), some (.int n) => return .int (m * n)
      | some a, some b => onFloats (fun x y => .ok (.float (x * y))) a b
      | _, _ =>
        if v.isSequence then
          match w.whole? with
          | some n => return v.times n
          | none => .error (.misuse (.repeating w.kindName))
        else if w.isSequence then
          match v.whole? with
          | some n => return w.times n
          | none => .error (.misuse (.repeating v.kindName))
        else mismatch "*" v w) := by
  cases v <;> cases w <;> rfl

theorem mul_eases (hv : Eases v v') (hw : Eases w w') : Carries Eases (mul v w) (mul v' w') := by
  rw [mul_eq, mul_eq, ← isMarkup_eases hv, ← isMarkup_eases hw, ← isSequence_eases hv,
    ← isSequence_eases hw]
  refine (definedBoth_eases hv hw).bind fun _ _ _ => ?_
  refine .ite (repetition_eases hv hw trivial) (.ite (repetition_eases hw hv trivial) ?_)
  refine onNumbers_eases hv hw (fun _ _ => .ok (.same _)) (fun _ _ => .ok (.same _)) ?_
  exact .ite (repetition_eases hv hw trivial)
    (.ite (repetition_eases hw hv trivial) (mismatch_carries _ _ _))

theorem negate_eases (h : Eases v v') : Carries Eases v.negate v'.negate := by
  cases h with
  | undefined => exact .refuse
  | list | tuple | dict => exact .error trivial
  | same v =>
      unfold negate
      split
      · exact .refuse
      · exact .ok (.same _)
      · split
        · exact .ok (.same _)
        · exact .error trivial

theorem affirm_eases (h : Eases v v') : Carries Eases v.affirm v'.affirm := by
  cases h with
  | undefined => exact .refuse
  | list | tuple | dict => exact .error trivial
  | same v =>
      unfold affirm
      split
      · exact .refuse
      · exact .ok (.same _)
      · split
        · exact .ok (.same _)
        · exact .error trivial

/-! ## Members -/

theorem getElem?_ease {xs ys : List Value} (h : List.Forall₂ Eases xs ys) (i : Nat) :
    Option.Rel Eases xs[i]? ys[i]? := by
  induction h generalizing i with
  | nil => exact .none
  | cons hxy _ ih =>
      cases i with
      | zero => exact .some hxy
      | succ i => exact ih i

theorem at?_ease {xs ys : List Value} (h : List.Forall₂ Eases xs ys) (n : Int) :
    Option.Rel Eases (at? xs n) (at? ys n) := by
  unfold at?
  rw [← h.length_eq]
  split
  · exact getElem?_ease h _
  · split
    · exact getElem?_ease h _
    · exact .none

theorem rel_refl (a : Option Value) : Option.Rel Eases a a := by
  cases a with
  | none => exact .none
  | some v => exact .some (.same v)

theorem rel_bind {α : Type} (a : Option α) {f g : α → Option Value}
    (h : ∀ x, Option.Rel Eases (f x) (g x)) : Option.Rel Eases (a.bind f) (a.bind g) := by
  cases a with
  | none => exact .none
  | some x => exact h x

theorem member?_eases (hv : Eases v v') (hw : Eases w w') :
    Carries (Option.Rel Eases) (member? v w) (member? v' w') := by
  cases v with
  | undefined u => exact .refuse
  | dict es =>
      obtain ⟨fs, rfl, hes⟩ := hv.dict_left
      simp only [member?]
      -- A key that is no fault is eased to itself alone.
      rcases keyFault?_eases hw with ⟨m, hm⟩ | hsame
      · rw [hm]
        exact .error trivial
      · rw [← hsame]
        cases hkey : w.keyFault? with
        | none =>
            obtain rfl := eq_of_keyFault? hw hkey
            exact .ok (findEntry_ease w hes)
        | some f =>
            cases f with
            | undefined m => exact .error trivial
            | _ => exact .ok .none
  | list xs =>
      obtain ⟨ys, rfl, hxs⟩ := hv.list_left
      simp only [member?, ← whole?_eases hw]
      exact .ok (rel_bind _ fun n => at?_ease hxs n)
  | tuple xs =>
      obtain ⟨ys, rfl, hxs⟩ := hv.tuple_left
      simp only [member?, ← whole?_eases hw]
      exact .ok (rel_bind _ fun n => at?_ease hxs n)
  | text s | markup s =>
      cases hv
      simp only [member?, ← whole?_eases hw]
      exact .ok (rel_refl _)
  | loop i n =>
      cases hv
      simp only [member?, ← text?_eases hw]
      exact .ok (rel_refl _)
  | _ => cases hv; exact .ok .none

theorem ownerName_eases (h : Eases v w) (hv : ∀ u, v ≠ .undefined u) :
    v.ownerName = w.ownerName := by
  cases h with
  | undefined => exact absurd rfl (hv _)
  | _ => rfl

theorem ofMember_eases {s s' : Bool} (hs : s' → s) (hv : Eases v v') (hw : Eases w w')
    (hdefined : ∀ u, v ≠ .undefined u) :
    Eases (.undefined (.ofMember s v w)) (.undefined (.ofMember s' v' w')) := by
  unfold Undefined.ofMember
  rw [← text?_eases hw, ← ownerName_eases hv hdefined, ← quoted_eases hw]
  split
  · exact .undefined rfl hs
  · exact .undefined rfl hs

theorem item_eases {s s' : Bool} (hs : s' → s) (hv : Eases v v') (hw : Eases w w') :
    Carries Eases (item s v w) (item s' v' w') := by
  by_cases hdefined : ∀ u, v ≠ .undefined u
  · refine (member?_eases hv hw).bind fun a b hab => .ok ?_
    cases hab with
    | none => exact ofMember_eases hs hv hw hdefined
    | some h => exact h
  · -- What is undefined has no members.
    simp only [ne_eq, not_forall, not_not] at hdefined
    obtain ⟨u, rfl⟩ := hdefined
    exact .refuse

end Value

/-! ## Format texts -/

namespace Format

open Value (Eases)

/-- A value for a place, eased. -/
structure Filling.Eases (f g : Filling) : Prop where
  value : f.value.Eases g.value
  escaping : f.escaping = g.escaping

/-- What is left to fill places with, eased. -/
structure Supply.Eases (s t : Supply) : Prop where
  mapping : Option.Rel Filling.Eases s.mapping t.mapping
  queue : List.Forall₂ Filling.Eases s.queue t.queue

variable {f g : Filling} {s t : Supply}

theorem Filling.str_eases (h : f.Eases g) : Carries Eq f.str g.str := by
  unfold Filling.str
  rw [← h.escaping]
  exact .ite (Value.escaped_eases h.value) (Value.str_eases h.value)

theorem Filling.quoted_eases (h : f.Eases g) : f.quoted = g.quoted := by
  unfold Filling.quoted
  rw [h.escaping, Value.quoted_eases h.value]

theorem Filling.quotedAscii_eases (h : f.Eases g) : f.quotedAscii = g.quotedAscii := by
  unfold Filling.quotedAscii
  rw [Filling.quoted_eases h]

theorem failText_carries {α β : Type} {R : α → β → Prop} {text : String} {b : Except Fault β} :
    Carries R (failText text) b := .error trivial

theorem refuseText_carries {α β : Type} {R : α → β → Prop} {text : String} {b : Except Fault β} :
    Carries R (refuseText text) b := .error trivial

theorem Supply.next_eases (h : s.Eases t) :
    Carries (fun r r' => r.1.Eases r'.1 ∧ r.2.Eases r'.2) s.next t.next := by
  obtain ⟨m, fs⟩ := s
  obtain ⟨m', gs⟩ := t
  obtain ⟨hmapping, hqueue⟩ := h
  cases hqueue with
  | nil => exact failText_carries
  | cons hfg hqueue => exact .ok ⟨hfg, hmapping, hqueue⟩

theorem Supply.select_eases (h : s.Eases t) (key : String) :
    Carries Supply.Eases (s.select key) (t.select key) := by
  unfold Supply.select
  rcases rel_cases h.mapping with ⟨hm, hm'⟩ | ⟨⟨v, x⟩, ⟨w, y⟩, hm, hm', hvw⟩
  · rw [hm]
    exact failText_carries
  · obtain ⟨hvw, hxy⟩ := hvw
    obtain rfl : x = y := hxy
    simp only [hm, hm']
    cases v with
    | undefined u => exact .refuse
    | dict es =>
        obtain ⟨fs, rfl, hes⟩ := Value.Eases.dict_left hvw
        refine (Value.lookup?_eases (.same _) hes).bind fun a b hab => ?_
        cases hab with
        | none => exact .error trivial
        | some hvalue => exact .ok ⟨.some ⟨hvw, rfl⟩, .cons ⟨hvalue, rfl⟩ .nil⟩
    | _ => exact failText_carries

theorem Measure.ofDigits_carries (m : Measure) (ds : List Char) :
    Carries Eq (m.ofDigits ds) (m.ofDigits ds) := by
  unfold Measure.ofDigits
  refine .ite (.ok rfl) ?_
  cases m <;> exact .error trivial

theorem Measure.ofFilling_eases (m : Measure) (h : f.Eases g) :
    Carries Eq (m.ofFilling f) (m.ofFilling g) := by
  unfold Measure.ofFilling
  rw [← h.escaping, ← Value.whole?_eases h.value]
  split
  · exact failText_carries
  · exact .ite (.ok rfl) (.error trivial)

/-- A count, and what is left after it. -/
abbrev CountEases (r r' : Option Int × Supply × List Char) : Prop :=
  r.1 = r'.1 ∧ r.2.1.Eases r'.2.1 ∧ r.2.2 = r'.2.2

theorem readCount_eases (m : Measure) (h : s.Eases t) (cs : List Char) :
    Carries CountEases (readCount m s cs) (readCount m t cs) := by
  unfold readCount
  split
  · refine (Supply.next_eases h).bind fun r r' hr => ?_
    refine (m.ofFilling_eases hr.1).bind ?_
    rintro n _ rfl
    exact .ok ⟨rfl, hr.2, rfl⟩
  · refine .ite (.ok ⟨rfl, h, rfl⟩) ?_
    refine (m.ofDigits_carries _).bind ?_
    rintro n _ rfl
    exact .ok ⟨rfl, h, rfl⟩

theorem toWhole_eases (letter : Char) (h : f.Eases g) :
    Carries Eq (toWhole letter f) (toWhole letter g) := by
  obtain ⟨v, x⟩ := f
  obtain ⟨w, y⟩ := g
  obtain ⟨hv, hxy⟩ := h
  obtain rfl : x = y := hxy
  unfold toWhole
  -- An undefined value refuses; everything else that is eased here is the same value.
  cases v with
  | int n | bool b => cases hv; exact .ok rfl
  | float a =>
      cases hv
      simp only
      split
      · exact refuseText_carries
      · exact .error trivial
      · exact .ok rfl
  | undefined u => exact .refuse
  | text s | markup s =>
      cases hv
      simp only [Value.text?]
      refine .ite ?_ failText_carries
      split
      · exact .ok rfl
      · exact refuseText_carries
  | _ => exact failText_carries

theorem toIndex_eases (letter : Char) (h : f.Eases g) :
    Carries Eq (toIndex letter f) (toIndex letter g) := by
  obtain ⟨v, x⟩ := f
  obtain ⟨w, y⟩ := g
  obtain ⟨hv, hxy⟩ := h
  obtain rfl : x = y := hxy
  unfold toIndex
  refine .ite failText_carries ?_
  cases v with
  | int n | bool b => cases hv; exact .ok rfl
  | _ => exact failText_carries

theorem toDouble_eases (h : f.Eases g) : Carries Eq (toDouble f) (toDouble g) := by
  obtain ⟨v, x⟩ := f
  obtain ⟨w, y⟩ := g
  obtain ⟨hv, hxy⟩ := h
  obtain rfl : x = y := hxy
  unfold toDouble
  cases v with
  | int n | bool b | float a => cases hv; exact Value.toFloat_carries _
  | undefined u => exact .refuse
  | text s | markup s =>
      cases hv
      simp only [Value.text?, Value.number?]
      refine .ite ?_ failText_carries
      split
      · exact .ok rfl
      · exact refuseText_carries
  | _ => cases hv <;> exact .ite failText_carries failText_carries

theorem showChar_eases (p : Place) (h : f.Eases g) :
    Carries Eq (showChar p f) (showChar p g) := by
  unfold showChar
  rw [← h.escaping, ← Value.whole?_eases h.value, ← Value.text?_eases h.value]
  refine .ite failText_carries ?_
  split
  · exact .ite (.error trivial) (.ite (.ok rfl) (.error trivial))
  · exact .ite (.ok rfl) failText_carries
  · exact failText_carries

/-- A conversion of what is computed from the value alone. -/
theorem shown_carries {α : Type} {a b : Except Fault α} (h : Carries Eq a b) (show' : α → String) :
    Carries Eq (a.map show') (b.map show') := h.map fun _ _ h => congrArg show' h

theorem showPlace_eases (p : Place) (h : f.Eases g) :
    Carries Eq (showPlace p f) (showPlace p g) := by
  unfold showPlace
  split
  · exact shown_carries (Filling.str_eases h) _
  · exact .ok (congrArg _ (Filling.quoted_eases h))
  · exact .ok (congrArg _ (Filling.quotedAscii_eases h))
  · exact shown_carries (toWhole_eases _ h) _
  · exact shown_carries (toWhole_eases _ h) _
  · exact shown_carries (toWhole_eases _ h) _
  · exact shown_carries (toIndex_eases _ h) _
  · exact shown_carries (toIndex_eases _ h) _
  · exact shown_carries (toIndex_eases _ h) _
  · exact shown_carries (toDouble_eases h) _
  · exact shown_carries (toDouble_eases h) _
  · exact shown_carries (toDouble_eases h) _
  · exact shown_carries (toDouble_eases h) _
  · exact shown_carries (toDouble_eases h) _
  · exact shown_carries (toDouble_eases h) _
  · exact showChar_eases p h
  · exact refuseText_carries

/-- The text of a place, and what is left after it. -/
abbrev PlaceEases (r r' : String × Supply × List Char) : Prop :=
  r.1 = r'.1 ∧ r.2.1.Eases r'.2.1 ∧ r.2.2 = r'.2.2

/-- What a place holds once its key, flags and counts are read. -/
theorem readLetter_eases (total : Nat) (p : Place) (h : s.Eases t) (cs : List Char) :
    let read (supply : Supply) : Except Fault (String × Supply × List Char) :=
      match cs with
      | [] => refuseText "incomplete format"
      | c :: rest => do
        let (f, supply) ← supply.next
        let text ← showPlace { p with letter := c, index := total - rest.length - 1 } f
        return (text, supply, rest)
    Carries PlaceEases (read s) (read t) := by
  cases cs with
  | nil => exact refuseText_carries
  | cons c rest =>
      refine (Supply.next_eases h).bind fun r r' hr => ?_
      refine (showPlace_eases _ hr.1).bind ?_
      rintro text _ rfl
      exact .ok ⟨rfl, hr.2, rfl⟩

theorem readPlace_eases (total : Nat) (h : s.Eases t) (cs : List Char) :
    Carries PlaceEases (readPlace total s cs) (readPlace total t cs) := by
  unfold readPlace
  split
  · exact .ok ⟨rfl, h, rfl⟩
  · -- What comes after the counts, and what after the key, is the same on all ways there.
    extract_lets afterCounts afterKey
    have hcounts : ∀ p s t cs, Supply.Eases s t →
        Carries PlaceEases (afterCounts (p, s, cs)) (afterCounts (p, t, cs)) :=
      fun p s t cs h => readLetter_eases total p h _
    have hkey : ∀ s t cs, Supply.Eases s t →
        Carries PlaceEases (afterKey (s, cs)) (afterKey (t, cs)) := by
      intro s t cs h
      refine (readCount_eases .width h _).bind ?_
      rintro ⟨width, s, cs⟩ ⟨_, t, _⟩ ⟨rfl, h, rfl⟩
      simp only
      split
      · refine (readCount_eases .precision h _).bind ?_
        rintro ⟨n, s, cs⟩ ⟨_, t, _⟩ ⟨rfl, h, rfl⟩
        exact hcounts _ _ _ _ h
      · exact hcounts _ _ _ _ h
    have hnone : s.mapping.isNone = t.mapping.isNone := by
      rw [← Option.not_isSome, ← Option.not_isSome, isSome_of_rel h.mapping]
    split
    · rw [← hnone]
      refine .ite failText_carries ?_
      split
      · exact refuseText_carries
      · exact (Supply.select_eases h _).bind fun s t h => hkey s t _ h
    · exact hkey _ _ _ h

theorem fillFrom_eases (total fuel : Nat) (h : s.Eases t) (cs : List Char) :
    Carries (fun r r' => r.1 = r'.1 ∧ r.2.Eases r'.2) (fillFrom total fuel s cs)
      (fillFrom total fuel t cs) := by
  induction fuel generalizing s t cs with
  | zero => exact .ok ⟨rfl, h⟩
  | succ fuel ih =>
      cases cs with
      | nil => exact .ok ⟨rfl, h⟩
      | cons c cs =>
          unfold fillFrom
          refine .ite ?_ ?_
          · refine (readPlace_eases total h cs).bind ?_
            rintro ⟨text, s, rest⟩ ⟨_, t, _⟩ ⟨rfl, h, rfl⟩
            refine (ih h rest).bind ?_
            rintro ⟨texts, s⟩ ⟨_, t⟩ ⟨rfl, h⟩
            exact .ok ⟨rfl, h⟩
          · refine (ih h cs).bind ?_
            rintro ⟨texts, s⟩ ⟨_, t⟩ ⟨rfl, h⟩
            exact .ok ⟨rfl, h⟩

theorem fill_eases (format : String) (h : s.Eases t) :
    Carries Eq (fill format s) (fill format t) := by
  refine (fillFrom_eases _ _ h _).bind ?_
  rintro ⟨texts, s⟩ ⟨_, t⟩ ⟨rfl, h⟩
  simp only [isSome_of_rel h.mapping, isEmpty_of_forall₂ h.queue]
  exact .ite (.ok rfl) failText_carries

/-- What an eased operand supplies. -/
theorem supplyOf_eases (escaping : Bool) {v w : Value} (h : v.Eases w) :
    (supplyOf escaping v).Eases (supplyOf escaping w) := by
  cases v with
  | tuple xs =>
      obtain ⟨ys, rfl, hxs⟩ := h.tuple_left
      refine ⟨.none, ?_⟩
      exact List.forall₂_map_left_iff.mpr (List.forall₂_map_right_iff.mpr
        (hxs.imp fun _ _ hxy => ⟨hxy, rfl⟩))
  | list xs =>
      obtain ⟨ys, rfl, -⟩ := h.list_left
      exact ⟨.some ⟨h, rfl⟩, .cons ⟨h, rfl⟩ .nil⟩
  | dict es =>
      obtain ⟨fs, rfl, -⟩ := h.dict_left
      exact ⟨.some ⟨h, rfl⟩, .cons ⟨h, rfl⟩ .nil⟩
  | undefined u =>
      obtain ⟨u', rfl, -⟩ := h.undefined_left
      exact ⟨.some ⟨h, rfl⟩, .cons ⟨h, rfl⟩ .nil⟩
  | _ => cases h; exact ⟨.none, .cons ⟨.same _, rfl⟩ .nil⟩

end Format

theorem Value.mod_eases {v v' w w' : Value} (hv : v.Eases v') (hw : w.Eases w') :
    Carries Eases (v.mod w) (v'.mod w') := by
  cases v with
  | text s =>
      cases hv
      exact (Format.fill_eases s (Format.supplyOf_eases false hw)).map fun _ _ h => h ▸ .same _
  | markup s =>
      cases hv
      exact (Format.fill_eases s (Format.supplyOf_eases true hw)).map fun _ _ h => h ▸ .same _
  | _ => cases hv <;> exact numericMod_eases (by constructor <;> assumption) hw

/-! ## Operators of templates -/

namespace Template

open Value (Eases NamedEase EntriesEase)

variable {v v' w w' : Value} {vs ws ks ls : List Value}

theorem BinaryOp.apply_eases (op : BinaryOp) (hv : Eases v v') (hw : Eases w w') :
    Carries Eases (op.apply v w) (op.apply v' w') := by
  cases op with
  | add => exact Value.add_eases hv hw
  | sub => exact Value.sub_eases hv hw
  | mul => exact Value.mul_eases hv hw
  | div => exact Value.div_eases hv hw
  | floorDiv => exact Value.floorDiv_eases hv hw
  | mod => exact Value.mod_eases hv hw

theorem applySign_eases (minus : Bool) (h : Eases v w) :
    Carries Eases (applySign minus v) (applySign minus w) := by
  cases minus with
  | true => exact Value.negate_eases h
  | false => exact Value.affirm_eases h

theorem Comparison.apply_eases (op : Comparison) (hv : Eases v v') (hw : Eases w w') :
    Carries Eq (op.apply v w) (op.apply v' w') := by
  cases op with
  | eq => exact Value.equal_eases hv hw
  | ne => exact (Value.equal_eases hv hw).map fun _ _ h => congrArg _ h
  | order r => exact Value.ordered_eases r hv hw
  | mem => exact Value.member_eases hv hw
  | notMem => exact (Value.member_eases hv hw).map fun _ _ h => congrArg _ h

/-- The texts of values, and which of them are markup. -/
theorem texts_ease (h : List.Forall₂ Eases vs ws) :
    Carries Eq (vs.mapM fun v => v.str.map fun s => (Filter.isMarkup v, s))
      (ws.mapM fun v => v.str.map fun s => (Filter.isMarkup v, s)) := by
  rw [← List.forall₂_eq_eq_eq]
  refine .mapM (fun v w hvw => ?_) h
  exact (Value.str_eases hvw).map fun _ _ h => Prod.ext (Value.isMarkup_eases hvw) h

theorem joinMarkup_eases (h : List.Forall₂ Eases vs ws) :
    Carries Eases (joinMarkup vs) (joinMarkup ws) := by
  refine (texts_ease h).bind ?_
  rintro texts _ rfl
  exact .ite (.ok (.same _)) (.ok (.same _))

theorem joinPlain_eases (h : List.Forall₂ Eases vs ws) :
    Carries Eases (joinPlain vs) (joinPlain ws) := by
  have htexts : Carries Eq (vs.mapM Value.str) (ws.mapM Value.str) := by
    rw [← List.forall₂_eq_eq_eq]
    exact .mapM (fun v w hvw => Value.str_eases hvw) h
  refine htexts.bind ?_
  rintro texts _ rfl
  exact .ok (.same _)

theorem putEntries_ease (ks : List Value) (hvs : List.Forall₂ Eases vs ws)
    {es fs : List (Value × Value)} (h : EntriesEase es fs) :
    EntriesEase ((ks.zip vs).foldl (fun es e => Value.putEntry e.1 e.2 es) es)
      ((ks.zip ws).foldl (fun es e => Value.putEntry e.1 e.2 es) fs) := by
  induction hvs generalizing ks es fs with
  | nil =>
      rw [List.zip_nil_right]
      exact h
  | cons hvw _ ih =>
      cases ks with
      | nil => exact h
      | cons k ks => exact ih ks (Value.putEntry_ease hvw h)

theorem makeDict_eases (hks : List.Forall₂ Eases ks ls) (hvs : List.Forall₂ Eases vs ws) :
    Carries Eases (makeDict ks vs) (makeDict ls ws) := by
  unfold makeDict
  cases hfault : ks.findSome? Value.keyFault? with
  | some f =>
      obtain ⟨k, -, hk⟩ := List.exists_of_findSome?_eq_some hfault
      exact .error (Value.keyFault?_ofUse hk)
  | none =>
      -- What can be keys is the same on both sides.
      obtain rfl := Value.eq_of_findSome? hks hfault
      simp only [hfault]
      exact .ok (Value.Eases.dict_of (putEntries_ease ks hvs .nil))

end Template

end Stencil
