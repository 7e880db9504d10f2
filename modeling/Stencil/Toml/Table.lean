import Stencil.Value

/-!
# Tables

A table is a mapping whose keys are all different, and so are those of the tables in it. A
table stays one when a key is written, because the key is put where there is none or in the
place of the old one. A value may also be put under a path of keys, through tables that are
there or come about on the way; a list of tables is entered at its last.

## Main definitions

* `Table`, `Proper`: A table without repeated keys, whose tables have none either.
* `putAt`: Writing under a path of keys.

## Theorems

* `Table.set`: A table stays one when a key is written.
* `putAt_table`: So it does when something is written under a path.
-/

namespace Stencil

namespace Bindings

variable {b : Bindings} {k : String}

theorem mem_of_get? {v : Value} (h : b.get? k = some v) : (k, v) ∈ b := by
  obtain ⟨before, rest, heq, -⟩ := List.lookup_eq_some_iff.mp h
  exact heq ▸ List.mem_append_right before (List.mem_cons_self ..)

theorem nodup_set (hb : b.keys.Nodup) (k : String) (v : Value) : (b.set k v).keys.Nodup := by
  rw [keys_set]
  split
  · exact hb
  · rename_i h
    exact List.nodup_append.mpr ⟨hb, by simp, fun j hj i hi =>
      fun heq => h (List.mem_singleton.mp hi ▸ heq ▸ hj)⟩

theorem mem_set {v : Value} {e : String × Value} (h : e ∈ b.set k v) : e = (k, v) ∨ e ∈ b := by
  induction b with
  | nil => exact Or.inl (List.mem_singleton.mp h)
  | cons e' b ih =>
      rw [set] at h
      split at h
      · rcases List.mem_cons.mp h with rfl | h
        · exact Or.inl rfl
        · exact Or.inr (List.mem_cons_of_mem _ h)
      · rcases List.mem_cons.mp h with rfl | h
        · exact Or.inr (List.mem_cons_self ..)
        · exact (ih h).imp_right (List.mem_cons_of_mem _)

theorem ofEntries_toValue (b : Bindings) :
    ofEntries (b.map fun e => (Value.text e.1, e.2)) = b := by
  rw [ofEntries, List.filterMap_map]
  exact List.filterMap_some

end Bindings

namespace Toml

/-- What settings files hold: the keys of a table are all different, and so are those of the
    tables in it. -/
inductive Proper : Value → Prop
  | plain {v : Value} (h : ∀ es, v ≠ .dict es) : Proper v
  | table {b : Bindings} (keys : b.keys.Nodup) (items : ∀ k v, (k, v) ∈ b → Proper v) :
      Proper b.toValue

/-- A table without repeated keys, whose tables have none either. -/
structure Table (b : Bindings) : Prop where
  keys : b.keys.Nodup
  items : ∀ k v, (k, v) ∈ b → Proper v

namespace Table

variable {b : Bindings}

theorem nil : Table [] := ⟨List.nodup_nil, nofun⟩

theorem proper (h : Table b) : Proper b.toValue := .table h.keys h.items

theorem get? (h : Table b) {k : String} {v : Value} (hv : b.get? k = some v) : Proper v :=
  h.items k v (Bindings.mem_of_get? hv)

theorem set (h : Table b) (k : String) {v : Value} (hv : Proper v) : Table (b.set k v) := by
  refine ⟨Bindings.nodup_set h.keys k v, fun j w hw => ?_⟩
  rcases Bindings.mem_set hw with heq | hw
  · cases heq
    exact hv
  · exact h.items j w hw

end Table

/-- A table as a value is the mapping of its entries. -/
theorem Proper.entries {es : List (Value × Value)} (h : Proper (.dict es)) :
    Table (Bindings.ofEntries es) ∧ (Bindings.ofEntries es).toValue = .dict es := by
  generalize hv : Value.dict es = v at h
  cases h with
  | plain h => exact absurd hv.symm (h es)
  | table keys items =>
      obtain rfl := Value.dict.inj hv
      rw [Bindings.ofEntries_toValue]
      exact ⟨⟨keys, items⟩, rfl⟩

/-- The last of some values in which something is done, if that is a table. -/
def inLast (f : Bindings → Option Bindings) (vs : List Value) : Option Value :=
  match vs.getLast? with
  | some (.dict es) => do
    return .list (vs.dropLast ++ [Bindings.toValue (← f (Bindings.ofEntries es))])
  | _ => none

/-- Writes under a path of keys, through tables that are there or come about. What is
    written under the last key depends on what stands there. None if that is refused, or
    if something else than a table stands in the way. -/
def putAt (write : Option Value → Option Value) (t : Bindings) : List String → Option Bindings
  | [] => some t
  | [k] => (write (t.get? k)).map (t.set k)
  | k :: ks =>
    match t.get? k with
    | none => do return t.set k (Bindings.toValue (← putAt write [] ks))
    | some (.dict es) => do
      return t.set k (Bindings.toValue (← putAt write (Bindings.ofEntries es) ks))
    | some (.list vs) => (inLast (putAt write · ks) vs).map (t.set k)
    | some _ => none

theorem inLast_plain {f : Bindings → Option Bindings} {vs : List Value} {v : Value}
    (h : inLast f vs = some v) (es : List (Value × Value)) : v ≠ .dict es := by
  unfold inLast at h
  split at h
  · obtain ⟨t, -, ht⟩ := Option.bind_eq_some_iff.mp h
    cases ht
    exact nofun
  · cases h

/-- Writing under a path keeps a table one, and the tables on the way to the value. -/
theorem putAt_table {write : Option Value → Option Value}
    (hwrite : ∀ old new, (∀ v ∈ old, Proper v) → write old = some new → Proper new)
    (path : List String) {t t' : Bindings} (ht : Table t) (h : putAt write t path = some t') :
    Table t' := by
  induction path generalizing t t' with
  | nil =>
      cases h
      exact ht
  | cons k ks ih =>
      cases ks with
      | nil =>
          obtain ⟨v, hv, rfl⟩ := Option.map_eq_some_iff.mp h
          exact ht.set k (hwrite _ _ (fun w hw => ht.get? hw) hv)
      | cons k' ks =>
          rw [putAt] at h
          · split at h
            · obtain ⟨inner, hinner, h⟩ := Option.bind_eq_some_iff.mp h
              cases h
              exact ht.set k (ih .nil hinner).proper
            · rename_i es hes
              obtain ⟨inner, hinner, h⟩ := Option.bind_eq_some_iff.mp h
              cases h
              exact ht.set k (ih (ht.get? hes).entries.1 hinner).proper
            · obtain ⟨v, hv, rfl⟩ := Option.map_eq_some_iff.mp h
              exact ht.set k (.plain (inLast_plain hv))
            · cases h
          · exact nofun

end Toml

end Stencil
