import Stencil.Proofs.LastWrite
import Stencil.Toml.Table

/-!
# Asking tables

A mapping is a list of entries, and looking a key up finds the first entry that has it while
writing the entries into another mapping keeps the last. For a mapping without repeated keys
the two are the same. The tables that are read from settings files are such mappings, and so
are the tables inside them.

## Theorems

* `Bindings.get?_update_of_nodup`: Looking up in a mapping that others were laid over.
* `Value.findEntry_toValue`: A mapping as a value is asked like the mapping.
-/

namespace Stencil

namespace Bindings

variable {b ws : Bindings} {k : String}

/-- Without repeated keys every entry is the one that is found. -/
theorem get?_of_mem (hb : b.keys.Nodup) {v : Value} (h : (k, v) ∈ b) : b.get? k = some v :=
  lookup_of_mem hb h

/-- What is asked of a mapping without repeated keys, entry by entry. -/
theorem get?_eq_some_iff (hb : b.keys.Nodup) {v : Value} : b.get? k = some v ↔ (k, v) ∈ b :=
  ⟨mem_of_get?, get?_of_mem hb⟩

/-- What is laid over a mapping comes first. -/
theorem get?_update_of_nodup (b : Bindings) (hws : ws.keys.Nodup) (k : String) :
    (b.update ws).get? k = (ws.get? k).or (b.get? k) := by
  have hreverse : (keys ws.reverse).Nodup := by
    rw [keys, List.map_reverse]
    exact List.nodup_reverse.mpr hws
  have hlookup : ws.reverse.lookup k = ws.get? k := by
    refine Option.ext fun v => ?_
    rw [get?_eq_some_iff hws, ← List.mem_reverse]
    exact get?_eq_some_iff hreverse
  rw [get?_update, hlookup]

theorem nodup_filter (p : String × Value → Bool) (hb : b.keys.Nodup) :
    (keys (b.filter p)).Nodup :=
  hb.sublist (List.filter_sublist.map _)

/-- Looking up among the entries that meet a condition on their keys. -/
theorem get?_filter_keys (b : Bindings) (p : String → Bool) (hk : p k = true) :
    get? (b.filter fun e => p e.1) k = b.get? k := by
  induction b with
  | nil => rfl
  | cons e b ih =>
      rw [List.filter_cons]
      split
      · rw [get?, get?, List.lookup_cons, List.lookup_cons]
        split
        · rfl
        · exact ih
      · rename_i he
        have hne : (k == e.1) = false := beq_false_of_ne fun heq => he (heq ▸ hk)
        rw [ih, get?, get?, List.lookup_cons, hne]

end Bindings

theorem Value.isTrue_equal_text (k j : String) :
    isTrue (equal (.text k) (.text j)) = (k == j) := by
  rw [equal, text?, isTrue, Option.some_beq_some, BEq.comm]
  intro u hu
  cases hu

/-- A mapping as a value is asked like the mapping. -/
theorem Value.findEntry_toValue (k : String) (b : Bindings) :
    findEntry (.text k) (b.map fun e => (Value.text e.1, e.2)) = b.get? k := by
  induction b with
  | nil => rfl
  | cons e b ih =>
      rw [List.map_cons, findEntry, List.findSome?_cons, isTrue_equal_text, Bindings.get?,
        List.lookup_cons]
      cases k == e.1 with
      | true => rfl
      | false => exact ih

end Stencil
