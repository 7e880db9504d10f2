import Stencil.Proofs.HelperMap
import Stencil.Proofs.Staging

/-!
# Merges that fail

Laying a table of helpers over another one fails if a name in it is empty. Names are looked
at one after the other, and nothing is undone, so a merge that fails has bound the helpers that
stand before the empty name, and gets no further: all that does not stand before it is bound
as it was, and nothing at all has happened if the empty name comes first.

In a render the data of the call are merged before the helpers, and stay merged if the
helpers are refused, as they do after any other fault of a render whose name has an owner.
Only a render of a name without an owner leaves the view as it was.

## Main definitions

* `HelperTable.MergedUpTo`: What a merge has done to a table.
* `MergeStops`: What merges with an empty name in them leave.

## Theorems

* `HelperTable.overlay_mergedUpTo`: A merge binds just the names that it gets to.
* `merge_stops`: What is left when helpers are refused.
* `not_merged_wholly`: It is not always what was there before.
-/

namespace Stencil

/-- What a merge of helpers has done to a table: it has bound the names that it got to, each to
    the last helper that it was given for it there, and done nothing to the others. -/
structure HelperTable.MergedUpTo (t t' : HelperTable) (hs : List (String × Helper)) : Prop where
  before : ∀ front back n h, namedHelpers hs = front ++ (n, h) :: back →
    (∀ h', (n, h') ∉ back) → t'.find? n = some ⟨h, 0⟩
  beyond : ∀ n, (∀ h, (n, h) ∉ namedHelpers hs) → t'.find? n = t.find? n
  first : namedHelpers hs = [] → t' = t

/-- What merges of helpers leave if a name among these is empty. -/
structure MergeStops (v : View) (data : Bindings) (hs : List (String × Helper)) (s : Scene) :
    Prop where
  /-- A merge fails exactly if a name is empty. -/
  result : ((Registry.mergeDefaults hs).perform s).1 =
    if ∃ e ∈ hs, e.1 = "" then .error (.refused .emptyHelperName) else .ok ()
  keepsData : ((Registry.mergeDefaults hs).perform s).2.data = s.data
  table : s.helpers.MergedUpTo ((Registry.mergeDefaults hs).perform s).2.helpers hs
  /-- So does the render of a script, which has merged its data by then. -/
  script : ∀ r w, v.resolve.perform s.world = (.ok r, w) → r.kind = .rawScript →
    (∃ e ∈ hs, e.1 = "") →
    ((v.render data hs).perform s).1 = .error (.refused .emptyHelperName) ∧
      ((v.render data hs).perform s).2.data = s.data.update data ∧
      s.helpers.MergedUpTo ((v.render data hs).perform s).2.helpers hs
  /-- A render of a name without an owner leaves everything but the world as it was. -/
  unresolved : ∀ f w, v.resolve.perform s.world = (.error f, w) →
    (v.render data hs).perform s = (.error f, { s with world := w })

/-- Binding helpers does nothing to a name that is not among theirs. -/
theorem HelperTable.find?_foldl_bind_of_not_mem {n : String} (es : List (String × Helper))
    (t : HelperTable) (h : ∀ h', (n, h') ∉ es) :
    (es.foldl (fun t e => t.bind e.1 ⟨e.2, 0⟩) t).find? n = t.find? n := by
  induction es generalizing t with
  | nil => rfl
  | cons e es ih =>
      have hne : n ≠ e.1 := by
        rintro rfl
        exact h e.2 List.mem_cons_self
      rw [List.foldl_cons, ih _ fun h' hmem => h h' (List.mem_cons_of_mem e hmem),
        find?_bind_of_ne t ⟨e.2, 0⟩ hne]

/-- A merge binds the names before the empty one and does nothing to the others. -/
theorem HelperTable.overlay_mergedUpTo (t : HelperTable) (hs : List (String × Helper)) :
    t.MergedUpTo (t.overlay hs).1 hs := by
  rw [overlay_eq]
  refine ⟨fun front back n h hsplit hlast => ?_,
    fun n => find?_foldl_bind_of_not_mem (namedHelpers hs) t, fun hnil => by rw [hnil]; rfl⟩
  -- No helper behind the last one that is given for a name binds that name again.
  rw [hsplit, List.foldl_append, List.foldl_cons, find?_foldl_bind_of_not_mem back _ hlast,
    find?_bind_self]

/-- Whatever helpers are given, a merge that fails gets no further than to the empty name, and
    a render that fails with it has merged its data. -/
theorem merge_stops (v : View) (data : Bindings) (hs : List (String × Helper)) (s : Scene) :
    MergeStops v data hs s := by
  have hstopped : (s.helpers.overlay hs).2 = decide (∃ e ∈ hs, e.1 = "") := by
    rw [HelperTable.overlay_eq, Bool.eq_iff_iff]
    simp
  -- The overlay says itself whether it was stopped, and by what it was laid over until then.
  rcases Registry.mergeDefaults_perform hs s with ⟨w, -, hmerge⟩
  refine ⟨?_, by rw [hmerge], by rw [hmerge]; exact s.helpers.overlay_mergedUpTo hs, ?_,
    fun f w h => View.render_unresolved data hs v h⟩
  · rw [hmerge, hstopped]
    simp only [decide_eq_true_eq]
  · intro r w hresolve hk hempty
    rcases stage_rawScript v.engine data hs hresolve hk with ⟨r', w', -, hstage, hstop⟩
    rw [hstop (by rw [hstopped]; exact decide_eq_true hempty)] at hstage
    rw [View.render_eq, Stateful.perform_bind_error hstage]
    exact ⟨rfl, rfl, s.helpers.overlay_mergedUpTo hs⟩

/-- A world with a script. -/
def greetFiles : World :=
  .ofFiles ⟨[(["templates"], .directory),
    (["templates", "greet.pyt"], .file (.script [.write [.lit (.text "hi")]]) 10)]⟩ 0 ""
    ⟨.here, []⟩

/-- A view of that script. -/
def greetView : View := ⟨.text "greet", .default, 0, [], []⟩

/-- Helpers with an empty name behind another one. -/
def greetHelpers : List (String × Helper) := [("a", .const (.int 1)), ("", .const (.int 2))]

/-- The script is not run, and the data of the call are there. -/
theorem merge_stops_greet :
    let s := ((greetView.render [("k", .int 1)] greetHelpers).perform ⟨[], [], greetFiles⟩)
    s.1 = .error (.refused .emptyHelperName) ∧ s.2.data = [("k", .int 1)] := by
  have hresolve : (greetView.resolve.perform greetFiles).1 =
      .ok ⟨.rawScript, ⟨.here, ["templates", "greet.pyt"]⟩⟩ := by decide +kernel
  have hscript := (merge_stops greetView [("k", .int 1)] greetHelpers ⟨[], [], greetFiles⟩).script
    _ _ (Prod.ext hresolve rfl) rfl ⟨("", .const (.int 2)), by simp [greetHelpers], rfl⟩
  exact ⟨hscript.1, hscript.2.1⟩

/-- What stands before the empty name is bound, and the data of the call are merged by then. -/
theorem not_merged_wholly :
    (¬∀ (hs : List (String × Helper)) (s : Scene), (∃ e ∈ hs, e.1 = "") →
      ((Registry.mergeDefaults hs).perform s).2.helpers = s.helpers) ∧
    ¬∀ (v : View) (data : Bindings) (hs : List (String × Helper)) (s : Scene) (r : Resolution)
      (w : World), v.resolve.perform s.world = (.ok r, w) → r.kind = .rawScript →
      (∃ e ∈ hs, e.1 = "") →
      ((v.render data hs).perform s).2.data = s.data ∧
        ((v.render data hs).perform s).2.helpers = s.helpers := by
  have hempty : ∃ e ∈ greetHelpers, e.1 = "" :=
    ⟨("", .const (.int 2)), by simp [greetHelpers], rfl⟩
  constructor
  · intro h
    have hnames := congrArg List.length (h greetHelpers ⟨[], [], greetFiles⟩ hempty)
    have hbound : ((Registry.mergeDefaults greetHelpers).perform
        ⟨[], [], greetFiles⟩).2.helpers.length = 1 := by decide +kernel
    exact absurd (hbound.symm.trans hnames) (by decide)
  · intro h
    have hresolve : (greetView.resolve.perform greetFiles).1 =
        .ok ⟨.rawScript, ⟨.here, ["templates", "greet.pyt"]⟩⟩ := by decide +kernel
    have hleft := h greetView [("k", .int 1)] greetHelpers ⟨[], [], greetFiles⟩ _ _
      (Prod.ext hresolve rfl) rfl hempty
    have hdata : ((greetView.render [("k", .int 1)] greetHelpers).perform
        ⟨[], [], greetFiles⟩).2.data.length = 1 := by decide +kernel
    exact absurd (hdata.symm.trans (congrArg List.length hleft.1)) (by decide)

end Stencil
