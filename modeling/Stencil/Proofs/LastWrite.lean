import Mathlib.Data.List.Induction
import Stencil.Proofs.Changes

/-!
# The last write wins

The data of a view are a mapping in order of insertion that is only ever written. So after
a run they are what they were before it with everything written that was written in the run,
one entry after the other: by the view's own functions, by renders, whether or not they
succeed, and by the helpers that scripts call, which may be any callables that keep to the
view. The last value written to a key is the one that is found, a key stays where it was
inserted first, and none is ever taken away.

## Main definitions

* `View.writes`: What a run writes, in order.
* `LastWriteWins`: What the data are after a run, and what writes nothing.

## Theorems

* `Bindings.get?_update`: The last value written to a key is the one that is found.
* `Bindings.keys_update`: Keys keep the order of their first insertion.
* `lastWrite_wins`: The data after a run are those before it with all writes.
-/

namespace Stencil

namespace Bindings

theorem update_concat (b ws : Bindings) (e : String × Value) :
    b.update (ws ++ [e]) = (b.update ws).set e.1 e.2 := by
  rw [update, List.foldl_append]
  rfl

/-- The last value written to a key is the one that is found. -/
theorem get?_update (b ws : Bindings) (k : String) :
    (b.update ws).get? k = (ws.reverse.lookup k).or (b.get? k) := by
  induction ws using List.reverseRecOn with
  | nil => rfl
  | append_singleton ws e ih =>
      obtain ⟨k', v⟩ := e
      rw [update_concat, List.reverse_concat, List.lookup_cons]
      by_cases h : k = k'
      · rw [h, get?_set_self, beq_self_eq_true]
        rfl
      · have hne : (k == k') = false := beq_false_of_ne h
        rw [get?_set_of_ne _ v h, hne, ih]

/-- The keys that are there keep their places, and the new ones follow in the order in which
    they are written first. -/
theorem keys_update (b ws : Bindings) :
    (b.update ws).keys = b.keys ++ (ws.keys.removeAll b.keys).eraseDups := by
  induction ws using List.reverseRecOn with
  | nil => exact (List.append_nil _).symm
  | append_singleton ws e ih =>
      have hconcat : keys (ws ++ [e]) = keys ws ++ [e.1] := List.map_append
      rw [update_concat, keys_set, ih, hconcat, List.removeAll, List.removeAll,
        List.filter_append, List.eraseDups_append]
      by_cases hold : e.1 ∈ b.keys
      · simp [hold]
      · by_cases hwritten : e.1 ∈ keys ws
        · simp [hold, hwritten, List.removeAll]
        · simp [hold, hwritten, List.removeAll, List.eraseDups_cons]

end Bindings

/-- What a run of operations writes, in order. -/
def View.writes (v : View) (ops : List Operation) (s : Scene) : Bindings :=
  writesOf (v.changes ops s)

/-- What the data of a view are after a run, and which of its operations write nothing. -/
structure LastWriteWins (v : View) (ops : List Operation) (s : Scene) : Prop where
  /-- The data are those before the run with everything written, in order. -/
  fold : (v.after ops s).data = s.data.update (v.writes ops s)
  /-- The value of a key is the last one that was written to it. -/
  last : ∀ k, (v.after ops s).data.get? k =
    ((v.writes ops s).reverse.lookup k).or (s.data.get? k)
  /-- Keys stay where they were inserted first, and none goes away. -/
  keys : (v.after ops s).data.keys =
    s.data.keys ++ ((v.writes ops s).keys.removeAll s.data.keys).eraseDups
  /-- A mapping together with a value is refused. -/
  refused : ∀ t es x, (Session.viewStep v (.set (.dict es) (some x))).perform t =
    (.error (.misuse (.arguments
      "set() takes no value when the first argument is a mapping")), t)
  /-- What is neither a mapping nor a key is ignored. -/
  ignored : ∀ t data value, (∀ es, data ≠ .dict es) → data.text? = none →
    ∃ w, (Session.viewStep v (.set data value)).perform t = (.ok .none, { t with world := w })
  /-- A render of a name without an owner fails, and does not get to the data. -/
  unresolved : ∀ t data helpers f w, v.resolve.perform t.world = (.error f, w) →
    (Session.viewStep v (.render data helpers)).perform t = (.error f, { t with world := w })

theorem View.set_ignored (v : View) (s : Scene) {data : Value} (value : Option Value)
    (hdict : ∀ es, data ≠ .dict es) (htext : data.text? = none) :
    ∃ w, (Session.viewStep v (.set data value)).perform s = (.ok .none, { s with world := w }) := by
  rw [Session.viewStep]
  cases data with
  | dict es => exact absurd rfl (hdict es)
  | text k | markup k => cases htext
  | _ => exact ⟨_, rfl⟩

/-- After every run the data of a view are those before it with everything that was written
    meanwhile, each key with its last value and in its first place. -/
theorem lastWrite_wins (v : View) (ops : List Operation) (s : Scene) : LastWriteWins v ops s where
  fold := (changed_run v ops s).data
  last k := by rw [(changed_run v ops s).data, Bindings.get?_update, View.writes]
  keys := by rw [(changed_run v ops s).data, Bindings.keys_update, View.writes]
  refused _ _ _ := rfl
  ignored t data value := v.set_ignored t value
  unresolved t data helpers f w h :=
    Stateful.perform_bind_error (View.render_unresolved data helpers v h) _

end Stencil
