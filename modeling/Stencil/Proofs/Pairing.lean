import Stencil.Proofs.Lenience
import Stencil.Proofs.Reading

/-!
# Displays that are folded as a whole

Where a list, a tuple or a mapping is printed, its items are compiled one by one. Where it
belongs to a translatable block, the whole is folded, so what would only fail when it is
evaluated may come up while the template is compiled. An expression that has a value does not
fail in this way: what is constant in it is part of that value.

This takes mappings with as many keys as values. A surplus key is not evaluated, but it would
be folded. No expression that is read has one.

## Main definitions

* `Constancy.Stays`: Nothing comes up in the attempt to compute something.
* `Expr.Paired`: An expression whose displays have as many keys as values.

## Theorems

* `paired_builds`: Every expression that is read is one.
* `constant_of_fold`: What was folded does not fail when it is folded as a part.
* `Expr.Paired.folded`: An expression with a value can be folded and checked.
-/

namespace Stencil

namespace Template

variable {s : Settings} {sc : Scope}

/-! ## Constants that do not fail -/

/-- Something is constant or not, and no fault comes up. -/
def Constancy.Stays {α : Type} (c : Constancy α) : Prop := ∀ f, c ≠ .fails f

namespace Constancy.Stays

variable {α β : Type} {c : Constancy α}

theorem value (x : α) : (Pure.pure x : Constancy α).Stays := nofun

theorem varies : (Constancy.varies : Constancy α).Stays := nofun

theorem bind {g : α → Constancy β} (h : c.Stays) (hg : ∀ x, c = .value x → (g x).Stays) :
    (c >>= g).Stays := by
  cases c with
  | value x => exact hg x rfl
  | varies => exact varies
  | fails f => exact absurd rfl (h f)

/-- The constant entries of a mapping are among those that it is evaluated to, whose keys can be
    put into a mapping. -/
theorem entriesInOrder {ks vs : List (Constancy Value)} {ks' vs' : List (Except Fault Value)}
    (hks : List.Forall₂ Computes ks ks') (hvs : List.Forall₂ Computes vs vs')
    (hkeys : ∀ k ∈ ks, k.Stays) (hvalues : ∀ v ∈ vs, v.Stays) {es : List Value × List Value}
    (h : entriesInOrder (fun _ => .ok ()) ks' vs' = .ok es)
    (hfault : ∀ k ∈ es.1, Value.keyFault? k = none) :
    (Template.entriesInOrder (fun k => ((Value.keyFault? k).map Constancy.fails).getD (.value ()))
      ks vs).Stays := by
  induction hks generalizing vs vs' es with
  | nil => exact value _
  | @cons k k' ks ks' hk _ ih =>
      cases hvs with
      | nil => exact value _
      | @cons v v' vs vs' hv hvs =>
          obtain ⟨kv, hkv, h⟩ := exists_of_bind_eq_ok h
          obtain ⟨vv, hvv, h⟩ := exists_of_bind_eq_ok h
          obtain ⟨-, -, h⟩ := exists_of_bind_eq_ok h
          obtain ⟨rest, hrest, h⟩ := exists_of_bind_eq_ok h
          cases h
          obtain ⟨hfault, hfaults⟩ := List.forall_mem_cons.mp hfault
          refine (hkeys k (List.mem_cons_self ..)).bind fun u hu => ?_
          obtain rfl : u = kv := Except.ok.inj ((hk u hu).symm.trans hkv)
          have hcheck : (((Value.keyFault? u).map Constancy.fails).getD (.value ())).Stays := by
            rw [hfault]
            exact value ()
          refine (hvalues v (List.mem_cons_self ..)).bind fun _ _ => hcheck.bind fun _ _ => ?_
          refine (ih hvs (fun k hk => hkeys k (List.mem_cons_of_mem _ hk))
            (fun v hv => hvalues v (List.mem_cons_of_mem _ hv)) hrest hfaults).bind ?_
          exact fun _ _ => value _

end Constancy.Stays

/-! ## What was folded -/

theorem stays_of_foldOne {e f : Expr} (h : foldOne s e = .ok f) : (constant s f).Stays := by
  unfold foldOne at h
  cases hc : constant s e with
  | fails x =>
      rw [hc] at h
      cases h
  | varies =>
      rw [hc] at h
      cases h
      rw [hc]
      exact nofun
  | value v =>
      rw [hc] at h
      simp only [Except.ok.injEq] at h
      split at h
      · subst h
        rw [constant_settled]
        exact nofun
      · subst h
        rw [hc]
        exact nofun

/-- An expression that was folded does not fail to be constant. -/
theorem constant_of_fold {e f : Expr} (h : fold s e = .ok f) : (constant s e).Stays := by
  rw [← (fold_folds h).constant]
  cases e with
  | const v =>
      cases h
      exact nofun
  | name n =>
      cases h
      exact nofun
  | call e es keywords fs =>
      obtain ⟨_, _, h⟩ := exists_of_bind_eq_ok h
      obtain ⟨_, _, h⟩ := exists_of_bind_eq_ok h
      obtain ⟨_, _, h⟩ := exists_of_bind_eq_ok h
      cases h
      exact nofun
  | list _ | tuple _ | concat _ | member _ _ | sign _ _ | not _ =>
      obtain ⟨_, _, h⟩ := exists_of_bind_eq_ok h
      exact stays_of_foldOne h
  | dict _ _ | item _ _ | binary _ _ _ | and _ _ | or _ _ | compare _ _ _ | chooseSome _ _ _ =>
      obtain ⟨_, _, h⟩ := exists_of_bind_eq_ok h
      obtain ⟨_, _, h⟩ := exists_of_bind_eq_ok h
      exact stays_of_foldOne h
  | filter _ _ _ _ _ _ _ | test _ _ _ _ _ _ | choose _ _ _ =>
      obtain ⟨_, _, h⟩ := exists_of_bind_eq_ok h
      obtain ⟨_, _, h⟩ := exists_of_bind_eq_ok h
      obtain ⟨_, _, h⟩ := exists_of_bind_eq_ok h
      exact stays_of_foldOne h

theorem constantEach_of_fold {es fs : List Expr} (h : folds s es = .ok fs) :
    ∀ c ∈ constantEach s es, c.Stays := by
  induction es generalizing fs with
  | nil => exact nofun
  | cons e es ih =>
      obtain ⟨f, hf, h⟩ := exists_of_bind_eq_ok h
      obtain ⟨fs', hfs, -⟩ := exists_of_bind_eq_ok h
      exact List.forall_mem_cons.mpr ⟨constant_of_fold hf, ih hfs⟩

theorem constants_of_fold {es fs : List Expr} (h : folds s es = .ok fs) :
    (constants s es).Stays := by
  induction es generalizing fs with
  | nil => exact nofun
  | cons e es ih =>
      obtain ⟨f, hf, h⟩ := exists_of_bind_eq_ok h
      obtain ⟨fs', hfs, -⟩ := exists_of_bind_eq_ok h
      exact (constant_of_fold hf).bind fun _ _ => (ih hfs).bind fun _ _ => .value _

theorem SettleAll.length {es es' : List Expr} (h : SettleAll s es es') :
    es'.length = es.length := by
  induction es generalizing es' with
  | nil =>
      cases h
      rfl
  | cons e es ih =>
      cases h with
      | cons _ hes => exact congrArg Nat.succ (ih hes)

/-- What can be folded and checked before a value takes its place can be afterwards. -/
theorem exists_foldOne {soft : Bool} {e e' : Expr} (hstays : (constant s e).Stays)
    (h : check s soft e = .ok e') : ∃ f f', foldOne s e = .ok f ∧ check s soft f = .ok f' := by
  unfold foldOne
  cases hc : constant s e with
  | fails x => exact absurd hc (hstays x)
  | varies => exact ⟨e, e', rfl, h⟩
  | value v =>
      by_cases hlasting : isLasting v = true
      · exact ⟨_, _, by simp only [if_pos hlasting], check_settled s soft e.names v⟩
      · exact ⟨e, e', by simp only [if_neg hlasting], h⟩

/-! ## Displays -/

mutual

/-- The mappings of an expression have as many keys as values, as far as its items are compiled
    one by one. -/
def Expr.Paired : Expr → Prop
  | .list es | .tuple es => AllPaired es
  | .dict es fs => es.length = fs.length ∧ AllPaired es ∧ AllPaired fs
  | _ => True

def AllPaired : List Expr → Prop
  | [] => True
  | e :: es => e.Paired ∧ AllPaired es

end

theorem allPaired_of_mem {es : List Expr} (h : ∀ e ∈ es, e.Paired) : AllPaired es := by
  induction es with
  | nil => exact trivial
  | cons e es ih => exact ⟨h e (List.mem_cons_self ..), ih fun f hf => h f (List.mem_cons_of_mem _ hf)⟩

/-- Keys and values are read in pairs. -/
theorem paired_builds : Parser.Builds Expr.Paired where
  null := trivial
  bool _ := trivial
  int _ := trivial
  float _ := trivial
  text _ := trivial
  name _ := trivial
  list _ h := allPaired_of_mem h
  tuple _ h := allPaired_of_mem h
  dict es h := ⟨by rw [List.length_map, List.length_map],
    allPaired_of_mem (List.forall_mem_map.mpr fun e he => (h e he).1),
    allPaired_of_mem (List.forall_mem_map.mpr fun e he => (h e he).2)⟩
  member _ _ _ := trivial
  item _ _ _ _ := trivial
  call _ _ _ _ _ _ _ := trivial
  filter _ _ _ _ _ _ _ _ _ _ := trivial
  test _ _ _ _ _ _ _ _ _ := trivial
  sign _ _ _ := trivial
  not _ _ := trivial
  binary _ _ _ _ _ := trivial
  and _ _ _ _ := trivial
  or _ _ _ _ := trivial
  concat _ _ := trivial
  compare _ _ _ _ _ := trivial
  choose _ _ _ _ _ _ := trivial
  chooseSome _ _ _ _ _ := trivial

theorem evaluates_of_evaluateAll {es : List Expr} {vs : List Value}
    (h : evaluateAll sc es = .ok vs) : ∀ e ∈ es, ∃ v, evaluate sc e = .ok v := by
  induction es generalizing vs with
  | nil => exact nofun
  | cons e es ih =>
      obtain ⟨v, hv, h⟩ := exists_of_bind_eq_ok h
      obtain ⟨vs', hvs, -⟩ := exists_of_bind_eq_ok h
      exact List.forall_mem_cons.mpr ⟨⟨v, hv⟩, ih hvs⟩

/-- All keys and values are evaluated if there are as many of them. -/
theorem evaluates_of_entriesInOrder {es fs : List Expr} (hlength : es.length = fs.length)
    {entries : List Value × List Value}
    (h : entriesInOrder (fun _ => .ok ()) (evaluateEach sc es) (evaluateEach sc fs) =
      .ok entries) :
    (∀ e ∈ es, ∃ v, evaluate sc e = .ok v) ∧ ∀ f ∈ fs, ∃ v, evaluate sc f = .ok v := by
  induction es generalizing fs entries with
  | nil =>
      cases fs with
      | nil => exact ⟨nofun, nofun⟩
      | cons f fs => cases hlength
  | cons e es ih =>
      cases fs with
      | nil => cases hlength
      | cons f fs =>
          obtain ⟨k, hk, h⟩ := exists_of_bind_eq_ok h
          obtain ⟨v, hv, h⟩ := exists_of_bind_eq_ok h
          obtain ⟨-, -, h⟩ := exists_of_bind_eq_ok h
          obtain ⟨rest, hrest, -⟩ := exists_of_bind_eq_ok h
          obtain ⟨hes, hfs⟩ := ih (Nat.succ.inj hlength) hrest
          exact ⟨List.forall_mem_cons.mpr ⟨⟨k, hk⟩, hes⟩, List.forall_mem_cons.mpr ⟨⟨v, hv⟩, hfs⟩⟩

/-- A display of items that can be folded. -/
theorem exists_fold_items {soft : Bool} {es fs fs' : List Expr} {k : List Expr → Expr}
    {g : List Value → Value} (hfs : folds s es = .ok fs) (hfs' : checks s soft fs = .ok fs')
    (hconstant : constant s (k fs) = do return g (← constants s fs))
    (hfold : fold s (k es) = do foldOne s (k (← folds s es)))
    (hcheck : check s soft (k fs) = do return k (← checks s soft fs)) :
    ∃ f f', fold s (k es) = .ok f ∧ check s soft f = .ok f' := by
  have hstays : (constant s (k fs)).Stays := by
    rw [hconstant, constants_of_folds (folds_fold hfs)]
    exact (constants_of_fold hfs).bind fun _ _ => .value _
  rw [hfs'] at hcheck
  rw [hfold, hfs]
  exact exists_foldOne hstays hcheck

mutual

/-- An expression that is compiled by itself and has a value can be folded as a whole. -/
theorem Expr.Paired.folded (hsc : sc.strict = s.strict) {soft : Bool} {e e' : Expr} {v : Value}
    (hp : e.Paired) (h : prepare s soft e = .ok e') (hv : evaluate sc e' = .ok v) :
    ∃ f f', fold s e = .ok f ∧ check s soft f = .ok f' := by
  match e with
  | .const v => exact ⟨.const v, .const v, rfl, rfl⟩
  | .name n => exact ⟨.name n, .name n, rfl, rfl⟩
  | .list es =>
      obtain ⟨es', hes, h⟩ := exists_of_bind_eq_ok h
      cases h
      obtain ⟨vs, hvs, -⟩ := exists_of_bind_eq_ok hv
      obtain ⟨fs, fs', hfs, hfs'⟩ := AllPaired.folded hsc hp hes (evaluates_of_evaluateAll hvs)
      exact exists_fold_items hfs hfs' rfl rfl rfl
  | .tuple es =>
      obtain ⟨es', hes, h⟩ := exists_of_bind_eq_ok h
      cases h
      obtain ⟨vs, hvs, -⟩ := exists_of_bind_eq_ok hv
      obtain ⟨fs, fs', hfs, hfs'⟩ := AllPaired.folded hsc hp hes (evaluates_of_evaluateAll hvs)
      exact exists_fold_items hfs hfs' rfl rfl rfl
  | .dict es es₁ =>
      obtain ⟨es', hes, h⟩ := exists_of_bind_eq_ok h
      obtain ⟨es₁', hes₁, h⟩ := exists_of_bind_eq_ok h
      cases h
      obtain ⟨entries, hentries, hdict⟩ := exists_of_bind_eq_ok hv
      have hfault := List.findSome?_eq_none_iff.mp (keyFault?_of_makeDict hdict)
      -- The keys and values have the values that they are folded to, so the mapping that was made
      -- is the one that folding makes.
      have hks := (prepares_settle hes).computesEach hsc
      have hvs := (prepares_settle hes₁).computesEach hsc
      have hlength : es'.length = es₁'.length := by
        rw [(prepares_settle hes).length, (prepares_settle hes₁).length, hp.1]
      obtain ⟨hkeys, hvalues⟩ := evaluates_of_entriesInOrder hlength hentries
      obtain ⟨fs, fs', hfs, hfs'⟩ := AllPaired.folded hsc hp.2.1 hes hkeys
      obtain ⟨fs₁, fs₁', hfs₁, hfs₁'⟩ := AllPaired.folded hsc hp.2.2 hes₁ hvalues
      have hstays : (constant s (.dict fs fs₁)).Stays := by
        rw [constant, constantEach_of_folds (folds_fold hfs),
          constantEach_of_folds (folds_fold hfs₁)]
        refine (Constancy.Stays.entriesInOrder hks hvs (constantEach_of_fold hfs)
          (constantEach_of_fold hfs₁) hentries hfault).bind fun es hes => ?_
        obtain rfl : es = entries :=
          Except.ok.inj ((Constancy.entriesInOrder_computes hks hvs es hes).symm.trans hentries)
        rw [hdict]
        exact .value _
      have hcheck : check s soft (.dict fs fs₁) = .ok (.dict fs' fs₁') := by
        rw [check, hfs', hfs₁']
        rfl
      rw [fold, hfs, hfs₁]
      exact exists_foldOne hstays hcheck
  | .member .. | .item .. | .call .. | .filter .. | .test .. | .sign .. | .not .. | .binary ..
  | .and .. | .or .. | .concat .. | .compare .. | .choose .. | .chooseSome .. =>
      obtain ⟨f, hf, h⟩ := exists_of_bind_eq_ok h
      exact ⟨f, e', hf, h⟩
termination_by structural e

theorem AllPaired.folded (hsc : sc.strict = s.strict) {soft : Bool} {es es' : List Expr}
    (hp : AllPaired es) (h : prepares s soft es = .ok es')
    (hv : ∀ e' ∈ es', ∃ v, evaluate sc e' = .ok v) :
    ∃ fs fs', folds s es = .ok fs ∧ checks s soft fs = .ok fs' := by
  match es with
  | [] => exact ⟨[], [], rfl, rfl⟩
  | e :: es =>
      obtain ⟨e₁, he, h⟩ := exists_of_bind_eq_ok h
      obtain ⟨es₁, hes, h⟩ := exists_of_bind_eq_ok h
      cases h
      obtain ⟨⟨v, hv⟩, hvs⟩ := List.forall_mem_cons.mp hv
      obtain ⟨f, f', hf, hf'⟩ := Expr.Paired.folded hsc hp.1 he hv
      obtain ⟨fs, fs', hfs, hfs'⟩ := AllPaired.folded hsc hp.2 hes hvs
      refine ⟨f :: fs, f' :: fs', ?_, ?_⟩
      · rw [folds, hf, hfs]
        rfl
      · rw [checks, hf', hfs']
        rfl
termination_by structural es

end

end Template

end Stencil
