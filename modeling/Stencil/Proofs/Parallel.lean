import Stencil.Proofs.Coherence

/-!
# Trees that change alike

Two trees that agree are the same as far as paths can tell, and what is done to trees goes
by paths. So if the same is done to both, it succeeds or fails on both, and trees are left
that agree again. Making directories, writing files and deleting them are of this kind.

None of this brings a file about, except for the one that is written. Whatever file is found
afterwards was there before, with its content and its time, or it is what was written.

## Main definitions

* `Alike`: Two changes fail alike, or leave trees that agree.

## Theorems

* `makeDirectories_alike`: Directories are made alike in trees that agree.
* `writeDeep_agree`, `deleted_agree`: So are files written and deleted.
* `node?_writeDeep`, `node?_deleted`: The files that are there afterwards.
-/

namespace Stencil

namespace Files

/-- Two changes of trees fail with the same fault, or leave trees that agree. -/
inductive Alike {ε : Type} : Except ε Files → Except ε Files → Prop where
  | ok {t t' : Files} (h : Agree t t') : Alike (.ok t) (.ok t')
  | error (f : ε) : Alike (.error f) (.error f)

variable {t t' : Files}

/-- Where a change fails nothing is changed. -/
theorem Alike.getD {ε : Type} {r r' : Except ε Files} (h : Alike r r') (ht : Agree t t') :
    Agree (r.toOption.getD t) (r'.toOption.getD t') := by
  cases h with
  | ok h => exact h
  | error f => exact ht

/-- A change goes on alike from trees that agree. -/
theorem Alike.bind {ε : Type} {r r' : Except ε Files} {k k' : Files → Except ε Files}
    (h : Alike r r') (hk : ∀ {t t'}, Agree t t' → Alike (k t) (k' t')) :
    Alike (r >>= k) (r' >>= k') := by
  cases h with
  | ok h => exact hk h
  | error f => exact .error f

theorem put_alike (h : Agree t t') (l : Location) (n : Node) : Agree (t.put l n) (t'.put l n) := by
  intro k hk
  by_cases hkl : k = l
  · subst hkl
    apply node?_congr
    rw [put, put, List.lookup_cons_self, List.lookup_cons_self]
  · rw [node?_put_of_ne n hkl, node?_put_of_ne n hkl, h k hk]

theorem makeOne_alike (h : Agree t t') (p : Path) : Alike (t.makeOne p) (t'.makeOne p) := by
  rw [makeOne, makeOne, agree_locate h]
  cases hl : t'.locate p with
  | error r => exact .error r
  | ok l =>
      have hreach := reachable_locate hl
      simp only [h l hreach, h (up l) (reachable_up hreach)]
      -- What is at the place and above it decides, and it is the same in both.
      cases t'.node? l with
      | some n => cases n with
        | directory => exact .ok h
        | file c m => exact .error _
      | none => cases t'.node? (up l) with
        | none => exact .error _
        | some n => cases n with
          | directory => exact .ok (put_alike h l .directory)
          | file c m => exact .error _

theorem makeUp_alike (h : Agree t t') (p : Path) (depth : Nat) :
    Alike (t.makeUp p depth) (t'.makeUp p depth) := by
  induction depth generalizing p with
  | zero => exact .error _
  | succ depth ih =>
      rw [makeUp, makeUp]
      have hone := makeOne_alike h p
      generalize t.makeOne p = one at hone ⊢
      generalize t'.makeOne p = one' at hone ⊢
      cases hone with
      | ok hone => exact .ok hone
      | error r =>
          -- Only a missing directory above is made first, and then this one is tried again.
          cases r with
          | missing =>
              refine (ih (above p)).bind fun {u u'} hup => ?_
              have hlast := makeOne_alike hup p
              generalize u.makeOne p = last at hlast ⊢
              generalize u'.makeOne p = last' at hlast ⊢
              cases hlast with
              | ok hlast => exact .ok hlast
              | error r => exact .error _
          | _ => exact .error _

/-- Directories are made alike in trees that agree. -/
theorem makeDirectories_alike (h : Agree t t') (p : Path) :
    Alike (t.makeDirectories p) (t'.makeDirectories p) := by
  rw [makeDirectories, makeDirectories]
  split
  · exact .error _
  · exact makeUp_alike h p _

theorem write_alike (h : Agree t t') (p : Path) (c : Content) (m : Nat) :
    Alike (t.write p c m) (t'.write p c m) := by
  rw [write, write, agree_locate h]
  split
  · exact .error _
  · cases hl : t'.locate p with
    | error r => exact .error _
    | ok l =>
        have hreach := reachable_locate hl
        simp only [h l hreach, h (up l) (reachable_up hreach)]
        cases t'.node? l with
        | some n => cases n with
          | directory => exact .error _
          | file c' m' => exact .ok (put_alike h l _)
        | none => cases t'.node? (up l) with
          | none => exact .error _
          | some n => cases n with
            | directory => exact .ok (put_alike h l _)
            | file c' m' => exact .error _

/-- Files are written alike in trees that agree. -/
theorem writeDeep_agree (h : Agree t t') (p : Path) (n : Node) :
    Agree (t.writeDeep p n) (t'.writeDeep p n) := by
  cases n with
  | directory => exact (makeDirectories_alike h p).getD h
  | file c m =>
      have habove := (makeDirectories_alike h (above p)).getD h
      exact (write_alike habove p c m).getD habove

/-- A file that is there after another was written is that one, or was there before. -/
theorem node?_write {p : Path} {c c' : Content} {m m' : Nat} {k : Location}
    (h : t.write p c m = .ok t') (hk : t'.node? k = some (.file c' m')) :
    t.node? k = some (.file c' m') ∨ k = place p ∧ c' = c ∧ m' = m := by
  -- Writing puts a file where there is none or where there was one, and nowhere else.
  have hput : ∀ l, t.locate p = .ok l → t.node? l ≠ some .directory → t.put l (.file c m) = t' →
      t.node? k = some (.file c' m') ∨ k = place p ∧ c' = c ∧ m' = m := by
    rintro l hl hdir rfl
    rw [node?_put_eq _ hdir] at hk
    split at hk
    · rename_i hkl
      cases hk
      exact .inr ⟨hkl.trans (locate_eq_place hl), rfl, rfl⟩
    · exact .inl hk
  rw [write] at h
  split at h
  · cases h
  · split at h
    · cases h
    · rename_i l hl
      split at h
      · cases h
      · rename_i hnode
        exact hput l hl (by simp [hnode]) (Except.ok.inj h)
      · rename_i hnode
        split at h
        · exact hput l hl (by simp [hnode]) (Except.ok.inj h)
        · cases h
        · cases h

/-- So it is if the directories on the way are made first. -/
theorem node?_writeDeep (ht : Tidy t) {p : Path} {c c' : Content} {m m' : Nat} {k : Location}
    (hk : (t.writeDeep p (.file c m)).node? k = some (.file c' m')) :
    t.node? k = some (.file c' m') ∨ k = place p ∧ c' = c ∧ m' = m := by
  let t₁ := (t.makeDirectories (above p)).toOption.getD t
  have hmade : t₁.node? k = some (.file c' m') → t.node? k = some (.file c' m') := by
    intro h
    cases hq : t.makeDirectories (above p) with
    | error f => rwa [show t₁ = t by simp only [t₁, hq]; rfl] at h
    | ok u =>
        rw [show t₁ = u by simp only [t₁, hq]; rfl] at h
        exact (makeDirectories_grown ht hq).files k c' m' h
  have hwritten : ((t₁.write p c m).toOption.getD t₁).node? k = some (.file c' m') := hk
  cases hw : t₁.write p c m with
  | error f =>
      rw [hw] at hwritten
      exact .inl (hmade hwritten)
  | ok u =>
      rw [hw] at hwritten
      exact (node?_write hw hwritten).imp_left hmade

end Files

namespace Engine

open Files (Agree Tidy)

variable {t t' : Files}

/-- What deleting comes to: a file is taken away, or nothing is. -/
theorem deleted_cases (t : Files) (p : Path) :
    (∃ l c m, t.locate p = .ok l ∧ t.node? l = some (.file c m) ∧
      Happening.deleted t p = t.remove l) ∨
    (∀ l c m, t.locate p = .ok l → t.node? l ≠ some (.file c m)) ∧ Happening.deleted t p = t := by
  -- A path may lead nowhere, to nothing, to a directory or to a file, and only the last is deleted.
  cases hl : t.locate p with
  | error r =>
      refine .inr ⟨fun l c m hl' => (by cases hl'), ?_⟩
      unfold Happening.deleted
      rw [hl]
      split
      · rename_i heq
        cases heq
      · rfl
  | ok l =>
      cases hnode : t.node? l with
      | none =>
          refine .inr ⟨fun l' c m hl' => ?_, ?_⟩
          · obtain rfl := Except.ok.inj hl'
            simp [hnode]
          · have hstat : t.stat p = .error .missing := by
              simp only [Files.stat, hl, bind, Except.bind, hnode]
            rw [Happening.deleted, hstat]
      | some n =>
          have hstat := Files.stat_of_locate hl hnode
          cases n with
          | directory =>
              refine .inr ⟨fun l' c m hl' => ?_, by rw [Happening.deleted, hstat]⟩
              obtain rfl := Except.ok.inj hl'
              simp [hnode]
          | file c m =>
              exact .inl ⟨l, c, m, rfl, hnode, by rw [Happening.deleted, hstat, hl]⟩

/-- Files are deleted alike in trees that agree. -/
theorem deleted_agree (ht : Tidy t) (ht' : Tidy t') (h : Agree t t') (p : Path) :
    Agree (Happening.deleted t p) (Happening.deleted t' p) := by
  have hlocate := Files.agree_locate h p
  rcases deleted_cases t p with ⟨l, c, m, hl, hnode, hdel⟩ | ⟨hnone, hdel⟩
  · have hl' := hlocate ▸ hl
    have hnode' := h l (Files.reachable_locate hl) ▸ hnode
    have hdel' : Happening.deleted t' p = t'.remove l := by
      rw [Happening.deleted, Files.stat_of_locate hl' hnode', hl']
    rw [hdel, hdel']
    intro k hk
    rw [Files.node?_remove ht hnode, Files.node?_remove ht' hnode', h k hk]
  · rcases deleted_cases t' p with ⟨l, c, m, hl, hnode, -⟩ | ⟨-, hdel'⟩
    · have hl' := hlocate.trans hl
      exact absurd ((h l (Files.reachable_locate hl)).trans hnode) (hnone l c m hl')
    · rw [hdel, hdel']
      exact h

/-- A file that is there after another was deleted was there before. -/
theorem node?_deleted (ht : Tidy t) {p : Path} {k : Location} {c : Content} {m : Nat}
    (hk : (Happening.deleted t p).node? k = some (.file c m)) : t.node? k = some (.file c m) := by
  rcases deleted_cases t p with ⟨l, c', m', -, hnode, hdel⟩ | ⟨-, hdel⟩
  · rw [hdel, Files.node?_remove ht hnode] at hk
    split at hk
    · cases hk
    · exact hk
  · rwa [hdel] at hk

end Engine

end Stencil
