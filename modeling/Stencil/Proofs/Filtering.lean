import Stencil.Proofs.Operating

/-!
# Filters and tests of eased values

A filter and a test are functions with a signature. The signature goes by the names and the number
of arguments, which are the same for eased ones, so the parameters get what they got, eased. From
there on each is a composition of questions about values.

## Theorems

* `Signature.bind_eases`: Eased arguments are bound to the same parameters.
* `Filter.run?_eases`: Filters give what they gave, eased.
* `Test.run?_eases`: Tests answer as they did.
-/

namespace Stencil

open Value (Eases NamedEase)

variable {args args' : List Value} {keywords keywords' : List (String × Value)}

/-! ## Signatures -/

namespace Signature

theorem argumentFault_carries {α β : Type} {R : α → β → Prop} {text : String}
    {b : Except Fault β} : Carries R (argumentFault text) b := .error trivial

/-- What is asked of names alone is answered for eased values as well. -/
theorem find?_ease (p : String → Bool) (h : NamedEase keywords keywords') :
    Option.Rel (fun e f => e.1 = f.1 ∧ Eases e.2 f.2) (keywords.find? fun k => p k.1)
      (keywords'.find? fun k => p k.1) := by
  induction h with
  | nil => exact .none
  | @cons e f _ _ hef _ ih =>
      rw [List.find?_cons, List.find?_cons, ← hef.1]
      cases p e.1 with
      | true => exact .some hef
      | false => exact ih

theorem lookup_ease (n : String) (h : NamedEase keywords keywords') :
    Option.Rel Eases (keywords.lookup n) (keywords'.lookup n) := by
  induction h with
  | nil => exact .none
  | @cons e f _ _ hef _ ih =>
      obtain ⟨k, v⟩ := e
      obtain ⟨k', w⟩ := f
      obtain ⟨hk, hvw⟩ := hef
      obtain rfl : k = k' := hk
      rw [List.lookup_cons, List.lookup_cons]
      cases n == k with
      | true => exact .some hvw
      | false => exact ih

/-- Every parameter gets what is eased, and the same ones stay open. -/
theorem fillParams_ease (hkeywords : NamedEase keywords keywords')
    (params : List (String × Option Value)) (hargs : List.Forall₂ Eases args args') :
    List.Forall₂ Eases (fillParams keywords params args).1 (fillParams keywords' params args').1 ∧
      (fillParams keywords params args).2 = (fillParams keywords' params args').2 := by
  induction params generalizing args args' with
  | nil => cases hargs <;> exact ⟨.nil, rfl⟩
  | cons p params ih =>
      obtain ⟨n, d⟩ := p
      cases hargs with
      | cons hv hargs =>
          obtain ⟨hfilled, hopen⟩ := ih hargs
          exact ⟨.cons hv hfilled, hopen⟩
      | nil =>
          obtain ⟨hfilled, hopen⟩ := ih .nil
          have hgiven : Option.Rel Eases ((keywords.lookup n).or d) ((keywords'.lookup n).or d) := by
            rcases rel_cases (lookup_ease n hkeywords) with ⟨hv, hv'⟩ | ⟨v, v', hv, hv', h⟩
            · rw [hv, hv']
              exact Value.rel_refl d
            · rw [hv, hv']
              exact .some h
          simp only [fillParams]
          rcases rel_cases hgiven with ⟨hv, hv'⟩ | ⟨v, v', hv, hv', h⟩
          · rw [hv, hv']
            exact ⟨hfilled, congrArg (n :: ·) hopen⟩
          · rw [hv, hv']
            exact ⟨.cons h hfilled, hopen⟩

theorem bind_eases (s : Signature) (hargs : List.Forall₂ Eases args args')
    (hkeywords : NamedEase keywords keywords') :
    Carries (List.Forall₂ Eases) (s.bind args keywords) (s.bind args' keywords') := by
  unfold bind
  simp only [← hargs.length_eq]
  rcases rel_cases (find?_ease (fun k => !(s.params.map (·.1)).contains k) hkeywords) with
    ⟨hnone, hnone'⟩ | ⟨e, f, hsome, -⟩
  · rcases rel_cases (find?_ease (fun k => ((s.params.map (·.1)).take args.length).contains k)
      hkeywords) with ⟨hone, hone'⟩ | ⟨e, f, hsome, -⟩
    · simp only [hnone, hnone', hone, hone']
      refine .ite argumentFault_carries ?_
      -- What stays open is the same, so either nothing does or both fail.
      obtain ⟨hfilled, hopen⟩ := fillParams_ease hkeywords s.params hargs
      revert hfilled hopen
      rcases fillParams keywords s.params args with ⟨filled, missing⟩
      rcases fillParams keywords' s.params args' with ⟨filled', missing'⟩
      rintro hfilled rfl
      cases missing with
      | nil => exact .ok hfilled
      | cons n missing => exact argumentFault_carries
    · simp only [hnone, hsome]
      exact argumentFault_carries
  · simp only [hsome]
    exact argumentFault_carries

end Signature

/-! ## Filters -/

namespace Filter

variable {v v' w w' : Value}

theorem onText_eases (f : List Char → List Char) (h : Eases v w) :
    Carries Eases (onText f v) (onText f w) := by
  have htext : Carries Eases (do return .text (String.ofList (f (← v.str).toList)))
      (do return .text (String.ofList (f (← w.str).toList))) := by
    refine (Value.str_eases h).bind ?_
    rintro s _ rfl
    exact .ok (.same _)
  cases v with
  | markup s => cases h; exact .ok (.same _)
  | _ => cases h <;> exact htext

theorem trim_eases (hv : Eases v v') (hw : Eases w w') :
    Carries Eases (trim v w) (trim v' w') := by
  cases w with
  | null => cases hw; exact onText_eases _ hv
  | text | markup => cases hw; exact onText_eases _ hv
  | _ => exact .error trivial

theorem default_eases {other other' boolean boolean' : Value} (hv : Eases v v')
    (hother : Eases other other') (hboolean : Eases boolean boolean') :
    Carries Eases (default v other boolean) (default v' other' boolean') := by
  have hdefined : Carries Eases
      (do if ← boolean.truth then if ← v.truth then return v else return other else return v)
      (do if ← boolean'.truth then if ← v'.truth then return v' else return other' else return v')
      := by
    refine (Value.truth_eases hboolean).bind ?_
    rintro b _ rfl
    refine .ite ((Value.truth_eases hv).bind ?_) (.ok hv)
    rintro b _ rfl
    exact .ite (.ok hv) (.ok hother)
  cases v with
  | undefined u =>
      obtain ⟨u', rfl, -⟩ := hv.undefined_left
      exact .ok hother
  | _ => cases hv <;> exact hdefined

theorem first_eases {s s' : Bool} (hs : s' → s) (h : Eases v w) :
    Carries Eases (first s v) (first s' w) := by
  refine (Value.items_eases h).bind fun vs ws hvs => ?_
  cases hvs with
  | nil => exact .ok (.undefined rfl hs)
  | cons hvw _ => exact .ok hvw

theorem reversible_eases (h : Eases v w) :
    Carries (List.Forall₂ Eases) (reversible v) (reversible w) := by
  have hitems := Value.items_eases h
  cases v with
  | markup s => cases h; exact .ok (Value.allEase_refl _)
  | list | tuple | text | dict | undefined => cases h <;> exact hitems
  | _ => exact .error trivial

theorem last_eases {s s' : Bool} (hs : s' → s) (h : Eases v w) :
    Carries Eases (last s v) (last s' w) := by
  refine (reversible_eases h).bind fun vs ws hvs => ?_
  rw [List.getLast?_eq_head?_reverse, List.getLast?_eq_head?_reverse]
  have hreverse := List.rel_reverse hvs
  revert hreverse
  generalize vs.reverse = vs
  generalize ws.reverse = ws
  rintro (- | ⟨hvw, -⟩)
  · exact .ok (.undefined rfl hs)
  · exact .ok hvw

theorem join_eases {s s' : Bool} (hs : s' → s) {sep sep' key key' : Value} (hv : Eases v v')
    (hsep : Eases sep sep') (hkey : Eases key key') :
    Carries Eases (join v sep key s) (join v' sep' key' s') := by
  refine (Value.items_eases hv).bind fun vs ws hvs => ?_
  extract_lets joined joined'
  have hjoined : ∀ vs ws, List.Forall₂ Eases vs ws → Carries Eases (joined vs) (joined' ws) := by
    intro vs ws hvs
    simp only [joined, joined', ← Value.isMarkup_eases hsep]
    refine .ite ?_ ?_
    · have htexts : Carries Eq (vs.mapM Value.escaped) (ws.mapM Value.escaped) := by
        rw [← List.forall₂_eq_eq_eq]
        exact .mapM (fun v w hvw => Value.escaped_eases hvw) hvs
      refine htexts.bind ?_
      rintro texts _ rfl
      rw [← Value.shown_eases hsep]
      exact .ok (.same _)
    · refine (Template.texts_ease hvs).bind ?_
      rintro texts _ rfl
      refine .ite ?_ ?_
      · refine (Value.escaped_eases hsep).bind ?_
        rintro sep _ rfl
        exact .ok (.same _)
      · refine (Value.str_eases hsep).bind ?_
        rintro sep _ rfl
        exact .ok (.same _)
  -- Without a key the items are joined as they are.
  have hkind := hkey
  cases key with
  | null => cases hkind; exact hjoined _ _ hvs
  | _ =>
      cases hkind <;>
        exact (Carries.mapM (fun x y hxy => Value.item_eases hs hxy hkey) hvs).bind hjoined

theorem single_eases (s : Signature) {f g : Value → Except Fault Value}
    (hf : ∀ v w, Eases v w → Carries Eases (f v) (g w)) (hargs : List.Forall₂ Eases args args')
    (hkeywords : NamedEase keywords keywords') :
    Carries Eases (single s f args keywords) (single s g args' keywords') := by
  refine (s.bind_eases hargs hkeywords).bind fun vs ws hvs => ?_
  cases hvs with
  | nil => exact .ok (.same _)
  | cons hvw _ => exact hf _ _ hvw

theorem lengthOf_eases (hargs : List.Forall₂ Eases args args')
    (hkeywords : NamedEase keywords keywords') :
    Carries Eases (lengthOf args keywords) (lengthOf args' keywords') := by
  unfold lengthOf
  rw [← isEmpty_of_forall₂ hkeywords]
  refine .ite Signature.argumentFault_carries ?_
  cases hargs with
  | nil => exact Signature.argumentFault_carries
  | cons hvw hrest =>
      cases hrest with
      | nil =>
          refine .map (R := Eq) ?_ fun n _ h => h ▸ .same (.int n)
          exact (Value.length_eases hvw).bind fun n m h => .ok (congrArg Nat.cast h)
      | cons => exact Signature.argumentFault_carries

/-- Filters give what is eased, and each is there or not. -/
theorem run?_eases {s s' : Bool} (hs : s' → s) (name : String)
    (hargs : List.Forall₂ Eases args args') (hkeywords : NamedEase keywords keywords') :
    Option.Rel (Carries Eases) (run? s name args keywords) (run? s' name args' keywords') := by
  have hstr (v w : Value) (h : Eases v w) :
      Carries Eases (v.str.map .markup) (w.str.map .markup) :=
    (Value.str_eases h).map fun s _ hs => hs ▸ .same (.markup s)
  have hescaped (v w : Value) (h : Eases v w) :
      Carries Eases (v.escaped.map .markup) (w.escaped.map .markup) :=
    (Value.escaped_eases h).map fun s _ hs => hs ▸ .same (.markup s)
  -- One case for each filter, and one for there being none.
  refine rel_ite ?default (rel_ite ?upper (rel_ite ?lower (rel_ite ?trim (rel_ite ?length
    (rel_ite ?first (rel_ite ?last (rel_ite ?join (rel_ite ?safe (rel_ite ?escape .none)))))))))
  case default =>
    refine .some ((Signature.bind_eases _ hargs hkeywords).bind fun vs ws hvs => ?_)
    rcases hvs with - | ⟨hv, - | ⟨hother, - | ⟨hboolean, - | -⟩⟩⟩
    case cons.cons.cons.nil => exact default_eases hv hother hboolean
    all_goals exact .ok (.same _)
  case upper | lower => exact .some (single_eases _ (fun v w h => onText_eases _ h) hargs hkeywords)
  case trim =>
    refine .some ((Signature.bind_eases _ hargs hkeywords).bind fun vs ws hvs => ?_)
    rcases hvs with - | ⟨hv, - | ⟨hchars, - | -⟩⟩
    case cons.cons.nil => exact trim_eases hv hchars
    all_goals exact .ok (.same _)
  case length => exact .some (lengthOf_eases hargs hkeywords)
  case first => exact .some (single_eases _ (fun v w h => first_eases hs h) hargs hkeywords)
  case last => exact .some (single_eases _ (fun v w h => last_eases hs h) hargs hkeywords)
  case join =>
    refine .some ((Signature.bind_eases _ hargs hkeywords).bind fun vs ws hvs => ?_)
    rcases hvs with - | ⟨hv, - | ⟨hsep, - | ⟨hkey, - | -⟩⟩⟩
    case cons.cons.cons.nil => exact join_eases hs hv hsep hkey
    all_goals exact .ok (.same _)
  case safe => exact .some (single_eases _ hstr hargs hkeywords)
  case escape => exact .some (single_eases _ hescaped hargs hkeywords)

end Filter

/-! ## Tests -/

namespace Test

theorem isUndefined_eases {v w : Value} (h : Eases v w) : isUndefined v = isUndefined w := by
  cases h <;> rfl

theorem isNull_eases {v w : Value} (h : Eases v w) : isNull v = isNull w := by
  cases h <;> rfl

/-- Tests answer the same for eased values. -/
theorem run?_eases (name : String) (hargs : List.Forall₂ Eases args args')
    (hkeywords : NamedEase keywords keywords') :
    Option.Rel (Carries Eases) (run? name args keywords) (run? name args' keywords') := by
  have hask {f : Value → Bool} (hf : ∀ v w, Eases v w → f v = f w) :
      Option.Rel (Carries Eases)
        (some (Filter.single ⟨"test_" ++ name, 0, [("value", none)]⟩ (fun v => .ok (.bool (f v)))
          args keywords))
        (some (Filter.single ⟨"test_" ++ name, 0, [("value", none)]⟩ (fun v => .ok (.bool (f v)))
          args' keywords')) := by
    refine .some (Filter.single_eases _ (fun v w h => ?_) hargs hkeywords)
    rw [hf v w h]
    exact .ok (.same _)
  exact rel_ite (hask fun v w h => congrArg (!·) (isUndefined_eases h))
    (rel_ite (hask fun v w h => isUndefined_eases h) (rel_ite (hask fun v w h => isNull_eases h)
      .none))

end Test

end Stencil
