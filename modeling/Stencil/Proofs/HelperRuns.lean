import Stencil.Proofs.Changes

/-!
# The helpers of a view over whole runs

A view starts with the helpers that it is made with, and then helpers are added, removed and
merged, by the view's own functions, by renders, and in the middle of scripts, also by any
callables that keep to the view. At any time its table is the finite map that comes of these
operations: binding a free name, refusing a bound or an empty one, removing a bound name,
refusing a free one, and laying tables over what is there. What the view answers depends on
that map only.

## Main definitions

* `HelperTable.Presents`: A table is a finite map, seen from outside.
* `View.Answers`: A view answers as a finite map would.
* `View.MergesHelpers`: Which renders lay their helpers over those of the view.

## Theorems

* `View.answers`, `View.mergesHelpers`: Views go by the map that their table stands for.
* `helperTable_run`: The table after a run is the map that comes of its operations.
-/

namespace Stencil

/-- A table is a finite map, seen from outside. -/
structure HelperTable.Presents (t : HelperTable) (m : HelperMap) : Prop where
  map : t.toMap = m
  /-- The names are in strictly ascending order. -/
  ascending : t.names.Pairwise (· < ·)
  /-- They are the names that are bound. -/
  bound : ∀ n, n ∈ t.names ↔ (m n).isSome
  /-- The table is as long as there are names. -/
  length : t.length = t.names.length

/-- A view answers as a finite map of helpers would. -/
structure View.Answers (v : View) (s : Scene) (m : HelperMap) : Prop where
  add : ∀ n h, ((Session.viewStep v (.setHelper n h)).perform s).1 =
    if n = "" then .error (.refused .emptyHelperName)
    else if (m n).isSome then .error (.duplicateHelper n) else .ok .none
  remove : ∀ n, ((Session.viewStep v (.removeHelper n)).perform s).1 =
    if (m n).isSome then .ok .none else .error (.unknownHelper n)
  merge : ∀ hs, (∀ e ∈ hs, e.1 ≠ "") → ((Registry.mergeDefaults hs).perform s).1 = .ok ()
  /-- A bound name calls the helper that it was bound to last. -/
  invoke : ∀ n h args keywords, m n = some h → h ≠ .absent → ¬RepeatsParameter keywords →
    ∃ calls, (v.invoke n args keywords).perform s =
      (applyHelper nestedRender v.owner args n ⟨h, calls⟩ keywords).perform s
  unknown : ∀ n args keywords, m n = none → ¬RepeatsParameter keywords →
    ((v.invoke n args keywords).perform s).1 = .error (.unknownHelper n)
  /-- With a keyword that repeats a parameter no name is looked up. -/
  refused : ∀ n args keywords, RepeatsParameter keywords → ∃ k ∈ reservedKeywords,
    (v.invoke n args keywords).perform s = (.error (.misuse (.arguments
      ("TemplateView.invoke() got multiple values for argument " ++ Text.quoted k))), s)

/-- A render lays its helpers over those of the view exactly if it comes to a script. -/
structure View.MergesHelpers (v : View) (s : Scene) (m : HelperMap) : Prop where
  /-- The script starts with them, and whatever it does then is done to that table. -/
  script : ∀ data helpers r w, v.resolve.perform s.world = (.ok r, w) → r.kind = .rawScript →
    (∀ e ∈ helpers, e.1 ≠ "") → ∃ t : Scene, t.helpers.toMap = m.overlay helpers ∧
      (v.render data helpers).perform s = (renderScript nestedRender v.owner r.path).perform t
  otherwise : ∀ data helpers,
    (∀ r w, v.resolve.perform s.world = (.ok r, w) → r.kind ≠ .rawScript) →
      ((v.render data helpers).perform s).2.helpers = s.helpers

theorem HelperTable.Distinct.presents {t : HelperTable} (h : t.Distinct) : t.Presents t.toMap :=
  ⟨rfl, h.names_ascending, fun _ => mem_names, t.length_names.symm⟩

variable {s : Scene} {m : HelperMap} {v : View}

/-- Helpers that all have names are laid over others without a fault. -/
theorem HelperTable.overlay_named (t : HelperTable) {hs : List (String × Helper)}
    (h : ∀ e ∈ hs, e.1 ≠ "") : (t.overlay hs).2 = false := by
  rw [overlay_eq]
  simpa using h

theorem View.answers (v : View) (s : Scene) : v.Answers s s.helpers.toMap where
  add n h := by
    rcases Registry.add_perform n h s with ⟨w, hadd⟩
    rw [Session.viewStep, Stateful.perform_bind, hadd, ← HelperTable.has_eq]
    by_cases hn : n = ""
    · rw [if_pos hn, if_pos hn]
    · rw [if_neg hn, if_neg hn]
      cases s.helpers.has n <;> rfl
  remove n := by
    rcases Registry.remove_perform n s with ⟨w, hremove⟩
    rw [Session.viewStep, Stateful.perform_bind, hremove, ← HelperTable.has_eq]
    cases s.helpers.has n <;> rfl
  merge hs hnamed := by
    rcases Registry.mergeDefaults_perform hs s with ⟨w, -, hmerge⟩
    rw [hmerge, s.helpers.overlay_named hnamed]
    rfl
  invoke n h args keywords hbound hpresent hk := by
    -- The map forgets how often the helper was called, which only its own count depends on.
    rcases Option.map_eq_some_iff.mp hbound with ⟨⟨h', calls⟩, hfind, rfl⟩
    exact ⟨calls, callNamed_perform _ "TemplateView" hfind hpresent args hk⟩
  unknown n args keywords hfree hk := by
    have hfind : s.helpers.find? n = none := Option.map_eq_none_iff.mp hfree
    rcases callNamed_unbound (ownCallee nestedRender v.owner) "TemplateView" hfind args hk with
      ⟨w, hw⟩
    exact congrArg Prod.fst hw
  refused n args keywords hk := callNamed_refuses _ "TemplateView" s (.text n) args hk

theorem View.mergesHelpers (v : View) (s : Scene) : v.MergesHelpers s s.helpers.toMap where
  script data helpers r w hresolve hk hnamed := by
    rcases View.render_rawScript data helpers v hresolve hk (s.helpers.overlay_named hnamed) with
      ⟨w', hrender⟩
    exact ⟨_, s.helpers.toMap_overlay helpers, hrender⟩
  otherwise data helpers hkind := by
    rw [View.render_eq, Stateful.perform_bind]
    cases hresolve : v.resolve.perform s.world with
    | mk r w =>
        cases r with
        | error f => rw [stage_unresolved v.engine data helpers hresolve]
        | ok resolution =>
            cases hk : resolution.kind with
            | rawScript => exact absurd hk (hkind resolution w hresolve)
            | compiled =>
                rcases stage_compiled v.engine data helpers hresolve hk with ⟨r, w', hstage⟩
                rw [hstage]
                cases r <;> rfl

/-- After every run of a view that was made with some helpers its table is the finite map that
    comes of them by what was done, and the view answers as that map would. -/
theorem helperTable_run (v : View) (data : Bindings) (hs : List (String × Helper)) (w : World)
    (ops : List Operation) :
    let start : Scene := ⟨data, (HelperTable.overlay [] hs).1, w⟩
    let m := (HelperMap.overlay (fun _ => none) hs).afterAll (v.changes ops start)
    (v.after ops start).helpers.Presents m ∧ v.Answers (v.after ops start) m ∧
      v.MergesHelpers (v.after ops start) m := by
  intro start m
  have hchanged := changed_run v ops start
  have hdistinct : (v.after ops start).helpers.Distinct :=
    hchanged.distinct (HelperTable.distinct_nil.overlay hs)
  have hmap : (v.after ops start).helpers.toMap = m := by
    rw [hchanged.helpers, HelperTable.toMap_overlay]
    rfl
  exact ⟨hmap ▸ hdistinct.presents, hmap ▸ v.answers _, hmap ▸ v.mergesHelpers _⟩

end Stencil
