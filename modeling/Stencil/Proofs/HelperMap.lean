import Stencil.Helper
import Mathlib.Data.List.Sort
import Mathlib.Data.List.TakeWhile
import Mathlib.Data.String.Basic
import Mathlib.Logic.Function.Basic

/-!
# The table of helpers as a finite map

A table of helpers is a list of bindings, in the order in which they were made, each with a
count of the calls of its helper. Seen from outside it is a map from names to helpers, and
binding, removing and laying helpers over the table are the same things done to the map.

No name stands in a table twice. So the names of the table, in ascending order, are a list
of the names that are bound in the map, and as long as the table.

## Main definitions

* `HelperMap`: Helpers by name.
* `HelperTable.toMap`: The map that a table stands for.
* `HelperTable.Distinct`: No name stands in the table twice.

## Theorems

* `HelperTable.overlay_eq`: What an overlay binds, and when it stops.
* `HelperTable.toMap_bind`, `HelperTable.toMap_unbind`, `HelperTable.toMap_overlay`: What is
  done to the table is done to the map.
* `HelperTable.Distinct.names_ascending`, `HelperTable.mem_names`, `HelperTable.length_names`:
  The names of a table.
-/

namespace Stencil

/-- Helpers by name. -/
abbrev HelperMap := String → Option Helper

/-- Helpers up to the first with an empty name. -/
def namedHelpers (hs : List (String × Helper)) : List (String × Helper) :=
  hs.takeWhile (·.1 ≠ "")

/-- Lays helpers over a map, up to the first with an empty name. -/
def HelperMap.overlay (m : HelperMap) (hs : List (String × Helper)) : HelperMap :=
  (namedHelpers hs).foldl (fun m e => Function.update m e.1 (some e.2)) m

/-- Where no key stands twice every entry is the one that is found. -/
theorem lookup_of_mem {K V : Type} [BEq K] [LawfulBEq K] {es : List (K × V)}
    (hes : (es.map (·.1)).Nodup) {e : K × V} (he : e ∈ es) : es.lookup e.1 = some e.2 := by
  induction es with
  | nil => cases he
  | cons e' es ih =>
      obtain ⟨hnew, hes⟩ := List.nodup_cons.mp hes
      rw [List.lookup_cons]
      rcases List.mem_cons.mp he with rfl | he
      · rw [beq_self_eq_true]
      · have hne : (e.1 == e'.1) = false :=
          beq_false_of_ne fun heq => hnew (List.mem_map.mpr ⟨e, he, heq⟩)
        rw [hne]
        exact ih hes he

namespace HelperTable

variable {t : HelperTable} {m n : String} {b : HelperBinding} {hs : List (String × Helper)}

/-- The map that a table stands for. -/
def toMap (t : HelperTable) : HelperMap := fun n => (t.find? n).map (·.helper)

/-- No name stands in the table twice. -/
def Distinct (t : HelperTable) : Prop := (t.map (·.1)).Nodup

theorem toMap_bind (t : HelperTable) (n : String) (b : HelperBinding) :
    (t.bind n b).toMap = Function.update t.toMap n (some b.helper) := by
  funext m
  by_cases h : m = n
  · rw [h, Function.update_self, toMap, find?_bind_self]
    rfl
  · rw [Function.update_of_ne h, toMap, find?_bind_of_ne t b h, toMap]

theorem toMap_unbind (t : HelperTable) (n : String) :
    (t.unbind n).toMap = Function.update t.toMap n none := by
  funext m
  by_cases h : m = n
  · rw [h, Function.update_self, toMap, find?_unbind_self]
    rfl
  · rw [Function.update_of_ne h, toMap, find?_unbind_of_ne t h, toMap]

/-- An overlay binds the helpers before the first empty name, and stops if there is one. -/
theorem overlay_eq (t : HelperTable) (hs : List (String × Helper)) :
    t.overlay hs =
      ((namedHelpers hs).foldl (fun t e => t.bind e.1 ⟨e.2, 0⟩) t, hs.any (·.1 = "")) := by
  induction hs generalizing t with
  | nil => rfl
  | cons e hs ih =>
      rw [overlay, namedHelpers]
      by_cases h : e.1 = ""
      · simp [h]
      · simp only [h, if_false, ih]
        simp [h, namedHelpers]

theorem toMap_overlay (t : HelperTable) (hs : List (String × Helper)) :
    (t.overlay hs).1.toMap = t.toMap.overlay hs := by
  rw [overlay_eq, HelperMap.overlay]
  induction namedHelpers hs generalizing t with
  | nil => rfl
  | cons e hs ih => rw [List.foldl_cons, List.foldl_cons, ih, toMap_bind]

theorem has_eq (t : HelperTable) (n : String) : t.has n = (t.toMap n).isSome := by
  rw [has, toMap, Option.isSome_map]

theorem keys_bind (t : HelperTable) (n : String) (b : HelperBinding) :
    (t.bind n b).map (·.1) = if n ∈ t.map (·.1) then t.map (·.1) else t.map (·.1) ++ [n] := by
  induction t with
  | nil => rfl
  | cons e t ih =>
      rw [bind]
      by_cases h : n = e.1
      · simp [h]
      · simp only [h, if_false, List.map_cons, ih, List.mem_cons, false_or]
        split <;> rfl

theorem distinct_nil : Distinct [] := List.nodup_nil

theorem Distinct.bind (h : t.Distinct) (n : String) (b : HelperBinding) :
    (t.bind n b).Distinct := by
  rw [Distinct, keys_bind]
  split
  · exact h
  · rename_i hn
    exact List.nodup_append.mpr ⟨h, List.nodup_singleton n, fun a ha c hc => by
      rintro rfl
      exact hn (List.mem_singleton.mp hc ▸ ha)⟩

theorem Distinct.unbind (h : t.Distinct) (n : String) : (t.unbind n).Distinct :=
  h.sublist (List.filter_sublist.map _)

theorem Distinct.overlay (h : t.Distinct) (hs : List (String × Helper)) :
    (t.overlay hs).1.Distinct := by
  rw [overlay_eq]
  induction namedHelpers hs generalizing t with
  | nil => exact h
  | cons e hs ih => exact ih (h.bind e.1 ⟨e.2, 0⟩)

theorem insertName_eq (n : String) (ns : List String) :
    insertName n ns = ns.orderedInsert (· ≤ ·) n := by
  induction ns with
  | nil => rfl
  | cons m ns ih => rw [insertName, List.orderedInsert, ih]

theorem sortNames_eq (ns : List String) : sortNames ns = ns.insertionSort (· ≤ ·) := by
  induction ns with
  | nil => rfl
  | cons n ns ih => rw [sortNames, List.foldr_cons, ← sortNames, ih, insertName_eq]; rfl

theorem names_perm (t : HelperTable) : t.names.Perm (t.map (·.1)) := by
  rw [names, sortNames_eq]
  exact List.perm_insertionSort _ _

theorem length_names (t : HelperTable) : t.names.length = t.length := by
  rw [t.names_perm.length_eq, List.length_map]

theorem mem_names : n ∈ t.names ↔ (t.toMap n).isSome := by
  rw [t.names_perm.mem_iff, ← has_eq, has, find?, List.lookup_isSome_iff, List.mem_map]
  constructor
  · rintro ⟨e, he, rfl⟩
    exact ⟨e, he, beq_self_eq_true e.1⟩
  · rintro ⟨e, he, hn⟩
    exact ⟨e, he, (beq_iff_eq.mp hn).symm⟩

/-- The names are in strictly ascending order. -/
theorem Distinct.names_ascending (h : t.Distinct) : t.names.Pairwise (· < ·) := by
  have hnodup : t.names.Nodup := t.names_perm.nodup_iff.mpr h
  have hsorted : t.names.Pairwise (· ≤ ·) := by
    rw [names, sortNames_eq]
    exact List.pairwise_insertionSort _ _
  exact hsorted.imp₂ (fun _ _ hle hne => lt_of_le_of_ne hle hne) hnodup

end HelperTable

end Stencil
