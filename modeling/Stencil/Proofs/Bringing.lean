import Stencil.Proofs.Changes

/-!
# What the helpers of a view have in common

Helpers get into a table by being added or laid over it, and scripts, routines and other helpers
that are called bring constants only. So if all helpers of a table are of some kind, and constants are,
and so is what callers bring, then all the helpers stay of that kind, whatever is done.

## Main definitions

* `HelperTable.All`: All helpers of a table are of a kind.
* `Change.Brings`, `ViewStep.Brings`, `Operation.Brings`: What is brought is of a kind.

## Theorems

* `HelperMap.afterAll_all`: Changes that bring helpers of a kind leave helpers of that kind.
* `Routine.changes_brings`, `Reached.changes_brings`, `Script.deedsChanges_brings`: Routines,
  helpers and scripts bring constants.
* `View.after_all`: All helpers stay of a kind over whole runs.
-/

namespace Stencil

variable {P : String → Helper → Prop} {cs : List Change} {s t : Scene}

/-- All the helpers of a table are of a kind. -/
def HelperTable.All (P : String → Helper → Prop) (t : HelperTable) : Prop :=
  ∀ n h, t.toMap n = some h → P n h

/-- Every helper that a change can bind to a name is of a kind. No name is empty that a helper
is bound to. -/
def Change.Brings (P : String → Helper → Prop) : Change → Prop
  | .add n h => n ≠ "" → P n h
  | .overlay hs => ∀ e ∈ hs, e.1 ≠ "" → P e.1 e.2
  | .write _ | .remove _ => True

/-- All the helpers that a step brings are of a kind. -/
def ViewStep.Brings (P : String → Helper → Prop) : ViewStep → Prop
  | .setHelper n h => (Change.add n h).Brings P
  | .render _ helpers => (Change.overlay helpers).Brings P
  | _ => True

/-- All the helpers that an operation brings are of a kind. -/
def Operation.Brings (P : String → Helper → Prop) : Operation → Prop
  | .step st => st.Brings P
  | .merge helpers => (Change.overlay helpers).Brings P
  | .elsewhere _ => True

/-! ## Changes -/

theorem HelperMap.update_all {m : HelperMap} {k : String} {g : Helper}
    (hm : ∀ n h, m n = some h → P n h) (hg : P k g) :
    ∀ n h, Function.update m k (some g) n = some h → P n h := by
  intro n h hn
  rw [Function.update_apply] at hn
  split at hn
  · rename_i hnk
    exact hnk ▸ Option.some.inj hn ▸ hg
  · exact hm n h hn

theorem HelperMap.overlay_all {m : HelperMap} {hs : List (String × Helper)}
    (hm : ∀ n h, m n = some h → P n h) (hhs : ∀ e ∈ hs, e.1 ≠ "" → P e.1 e.2) :
    ∀ n h, m.overlay hs n = some h → P n h := by
  have hnamed : ∀ e ∈ namedHelpers hs, P e.1 e.2 := fun e he =>
    hhs e (List.takeWhile_prefix _ |>.subset he) (by simpa using List.mem_takeWhile_imp he)
  rw [HelperMap.overlay]
  generalize namedHelpers hs = named at hnamed
  induction named generalizing m with
  | nil => exact hm
  | cons e named ih =>
      exact ih (update_all hm (hnamed e List.mem_cons_self)) fun e he =>
        hnamed e (List.mem_cons_of_mem _ he)

/-- Helpers stay of a kind if all that are brought are of it. -/
theorem HelperMap.afterAll_all {m : HelperMap} (hm : ∀ n h, m n = some h → P n h)
    (hcs : ∀ c ∈ cs, c.Brings P) : ∀ n h, m.afterAll cs n = some h → P n h := by
  induction cs generalizing m with
  | nil => exact hm
  | cons c cs ih =>
      refine ih ?_ fun c hc => hcs c (List.mem_cons_of_mem _ hc)
      have hc := hcs c List.mem_cons_self
      -- A helper is there from before, or it is what the change brought.
      cases c with
      | write es => exact hm
      | add k g =>
          rw [Change.after]
          split
          · exact hm
          · rename_i hk
            exact update_all hm (hc fun heq => hk (.inl heq))
      | remove k =>
          intro n h hn
          rw [Change.after, Function.update_apply] at hn
          split at hn
          · cases hn
          · exact hm n h hn
      | overlay hs => exact overlay_all hm hc

/-- Changes that bring helpers of a kind leave helpers of that kind. -/
theorem Changed.all (h : Changed s cs t) (hs : s.helpers.All P) (hcs : ∀ c ∈ cs, c.Brings P) :
    t.helpers.All P := by
  rw [HelperTable.All, h.helpers]
  exact HelperMap.afterAll_all hs hcs

theorem HelperTable.all_overlay_nil {hs : List (String × Helper)}
    (hhs : (Change.overlay hs).Brings P) : (overlay [] hs).1.All P := by
  rw [All, toMap_overlay]
  exact HelperMap.overlay_all (fun _ _ => nofun) hhs

/-! ## Where changes come from -/

section

variable (hconst : ∀ n x, P n (.const x))
include hconst

/-- Routines bring constants only. -/
theorem Routine.changes_brings (r : Routine) (s : Scene) : ∀ c ∈ r.changes s, c.Brings P := by
  induction r generalizing s with
  | answer v => exact List.forall_mem_nil _
  | fail kind args => exact List.forall_mem_nil _
  | readData next ih => exact ih s.data s
  | readNames next ih => exact ih s.helpers.names s
  | write es next ih => exact List.forall_mem_cons.mpr ⟨trivial, ih _⟩
  | edit e next catches caught ih ihcaught =>
      have hedit : e.change.Brings P := by
        cases e with
        | add n v => exact fun _ => hconst n v
        | remove n => exact trivial
      rw [Routine.changes]
      refine List.forall_mem_cons.mpr ⟨hedit, ?_⟩
      split
      · exact ih _
      · exact ihcaught _ _
      · exact List.forall_mem_nil _

/-- So do helpers that are called. -/
theorem Reached.changes_brings (q : Reached) (s : Scene) : ∀ c ∈ q.changes s, c.Brings P := by
  intro c hc
  rw [Reached.changes] at hc
  split at hc
  · rw [List.mem_singleton.mp hc]
    trivial
  · rw [List.mem_singleton.mp hc]
    trivial
  · rw [List.mem_singleton.mp hc]
    exact fun _ => hconst _ _
  · rw [List.mem_singleton.mp hc]
    trivial
  · exact Routine.changes_brings hconst _ s c hc
  · cases hc

theorem changesOf?_brings (q : Option Reached) (s : Scene) : ∀ c ∈ changesOf? s q, c.Brings P := by
  cases q with
  | none => exact nofun
  | some q => exact q.changes_brings hconst s

/-- So do scripts. -/
theorem Script.Deed.changes_brings (d : Script.Deed) (s : Scene) :
    ∀ c ∈ d.changes s, c.Brings P := by
  cases d with
  | call route name args keywords => exact changesOf?_brings hconst _ s
  | add n x =>
      intro c hc
      rw [List.mem_singleton.mp hc]
      exact fun _ => hconst n x
  | remove n =>
      intro c hc
      rw [List.mem_singleton.mp hc]
      trivial

theorem Script.deedsChanges_brings (call : Script.Caller) (ds : List Script.Deed) (s : Scene) :
    ∀ c ∈ Script.deedsChanges call ds s, c.Brings P := by
  induction ds generalizing s with
  | nil => exact nofun
  | cons d ds ih =>
      intro c hc
      rcases List.mem_append.mp hc with hc | hc
      · exact d.changes_brings hconst _ c hc
      · exact ih _ c hc

/-- A step changes no more than what it brings and what scripts do. -/
theorem ViewStep.changes_brings {st : ViewStep} (hst : st.Brings P) (v : View) (s : Scene) :
    ∀ c ∈ st.changes v s, c.Brings P := by
  have hsingle : ∀ {c₀ : Change}, c₀.Brings P → ∀ c ∈ [c₀], c.Brings P := by
    intro c₀ h c hc
    rw [List.mem_singleton.mp hc]
    exact h
  cases st with
  | set data value | setAll data | setOne key value | removeHelper n => exact hsingle trivial
  | setHelper n h => exact hsingle hst
  | invoke n args keywords => exact changesOf?_brings hconst _ s
  | call n args keywords =>
      rw [ViewStep.changes]
      split
      · exact Script.Deed.changes_brings hconst _ _
      · exact List.forall_mem_nil _
  | resolve | name | shown | config => exact List.forall_mem_nil _
  -- A render of a template lays data over, one of a script its helpers as well, and then the script
  -- does what it does.
  | render data helpers =>
      rw [ViewStep.changes, View.renderChanges]
      split
      · exact List.forall_mem_nil _
      · split
        · exact hsingle trivial
        · intro c hc
          rcases List.mem_append.mp hc with hc | hc
          · rcases List.mem_cons.mp hc with rfl | hc
            · trivial
            · have hover : (Change.overlay helpers).Brings P := hst
              exact hsingle hover c hc
          · split at hc
            · exact Script.deedsChanges_brings hconst _ _ _ c hc
            · cases hc

theorem Operation.done_all {o : Operation} (ho : o.Brings P) (v : View) {s : Scene}
    (hs : s.helpers.All P) : (o.done v s).helpers.All P := by
  refine (changed_operation v o s).all hs ?_
  cases o with
  | step st => exact ViewStep.changes_brings hconst ho v s
  | merge helpers =>
      intro c hc
      rw [List.mem_singleton.mp hc]
      exact ho
  | elsewhere f => exact nofun

/-- All helpers stay of a kind if all that are brought in a run are of it. -/
theorem View.after_all {ops : List Operation} (hops : ∀ o ∈ ops, o.Brings P) (v : View)
    {s : Scene} (hs : s.helpers.All P) : (v.after ops s).helpers.All P := by
  induction ops generalizing s with
  | nil => exact hs
  | cons o ops ih =>
      exact ih (fun o ho => hops o (List.mem_cons_of_mem _ ho))
        (Operation.done_all hconst (hops o List.mem_cons_self) v hs)

end

end Stencil
