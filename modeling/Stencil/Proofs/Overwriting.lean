import Stencil.Proofs.Tree

/-!
# Writing over a file

A file that is there can be written over, and then nothing changes but what it holds.
Every path leads where it led before, the same paths name files, and a file somewhere
else is read as before. The file itself can have been asked for by another path. Such a
path ends in the same name, unless it ends in a double dot, because the name of a file is
the last step on the way to it.

## Main definitions

* `Files.Named`: A path ends in a name.
* `Files.Overwritten`: Only the file at one location holds something else.

## Theorems

* `Files.Overwritten.locate`: Every path leads where it led before.
* `Files.Overwritten.isFile`, `Files.Overwritten.read`: What is asked of other files is
  answered as before.
* `Files.name_eq_of_locate`: The paths of one file end in one name.
* `Files.overwritten_of_write`: Writing over a file that is there changes nothing else.
-/

namespace Stencil

namespace Files

/-- A path ends in a name, and not in a double dot. -/
def Named (p : Path) : Prop := Path.IsSegment p.name ∧ p.name ≠ ".."

/-- Only the file at a location holds something else. -/
structure Overwritten (t t' : Files) (l : Location) : Prop where
  before : ∃ c m, t.node? l = some (.file c m)
  after : ∃ c m, t'.node? l = some (.file c m)
  others : ∀ k, k ≠ l → t'.node? k = t.node? k

variable {t t' : Files} {l : Location} {p q : Path}

namespace Overwritten

/-- A location holds what it held, or a file in both trees. -/
theorem node_cases (h : Overwritten t t' l) (k : Location) :
    t'.node? k = t.node? k ∨
      (∃ c m, t.node? k = some (.file c m)) ∧ ∃ c m, t'.node? k = some (.file c m) := by
  by_cases hk : k = l
  · exact .inr ⟨hk ▸ h.before, hk ▸ h.after⟩
  · exact .inl (h.others k hk)

theorem follow (h : Overwritten t t' l) (k : Location) (steps : List String) :
    t'.follow k steps = t.follow k steps := by
  induction steps generalizing k with
  | nil => rfl
  | cons s steps ih =>
      rw [Files.follow, Files.follow]
      -- What a file holds is not asked for on the way.
      rcases h.node_cases k with hk | ⟨⟨c, m, hbefore⟩, c', m', hafter⟩
      · rw [hk]
        simp only [ih]
      · rw [hbefore, hafter]

/-- Every path leads where it led before. -/
theorem locate (h : Overwritten t t' l) (p : Path) : t'.locate p = t.locate p := by
  rw [Files.locate, Files.locate, h.follow]

theorem isFile (h : Overwritten t t' l) (p : Path) : t'.isFile p = t.isFile p := by
  rw [Files.isFile, Files.isFile, asks, asks, stat, stat, h.locate]
  cases t.locate p with
  | error r => rfl
  | ok k =>
      simp only [bind, Except.bind]
      rcases h.node_cases k with hk | ⟨⟨c, m, hbefore⟩, c', m', hafter⟩
      · rw [hk]
      · rw [hbefore, hafter]
        rfl

/-- A file somewhere else is read as before. -/
theorem read (h : Overwritten t t' l) (hp : t.locate p ≠ .ok l) : t'.read p = t.read p := by
  have hstat : t'.stat p = t.stat p := by
    simp only [stat, h.locate p, bind, Except.bind]
    cases hk : t.locate p with
    | error r => rfl
    | ok k => simp only [h.others k fun heq => hp (heq ▸ hk)]
  rw [Files.read, Files.read, contentAt, contentAt, hstat]

end Overwritten

/-- A path without the character that no file system allows names what it leads to. -/
theorem isFile_of_locate {c : Content} {m : Nat} (hnul : hasNul p = false)
    (hl : t.locate p = .ok l) (hn : t.node? l = some (.file c m)) : t.isFile p = .ok true := by
  rw [isFile, asks, hnul, stat_of_locate hl hn]
  rfl

theorem read_of_locate {c : Content} {m : Nat} (hnul : hasNul p = false)
    (hl : t.locate p = .ok l) (hn : t.node? l = some (.file c m)) : t.read p = c.chars := by
  rw [read, contentAt, hnul, stat_of_locate hl hn]
  rfl

/-- The name of a file is the last step to it. -/
theorem getLast?_of_locate (hp : Named p) (hl : t.locate p = .ok l) :
    l.getLast? = some p.name := by
  obtain ⟨a, parts⟩ := p
  have hparts : parts ≠ [] := by
    rintro rfl
    exact hp.1.1 rfl
  have hname : (⟨a, parts⟩ : Path).name = parts.getLast hparts := by
    rw [Path.name, List.getLastD_eq_getLast?, List.getLast?_eq_some_getLast hparts]
    rfl
  rw [Named, hname] at hp
  rw [hname]
  have hsteps : steps ⟨a, parts⟩ = steps ⟨a, parts.dropLast⟩ ++ [parts.getLast hparts] := by
    conv_lhs => rw [← List.dropLast_append_getLast hparts]
    exact steps_append fun r hr => List.mem_singleton.mp hr ▸ hp.1
  have hfollow := (locate_eq_ok.mp hl).2
  rw [hsteps, follow_append] at hfollow
  obtain ⟨k, -, hstep⟩ := exists_of_bind_eq_ok hfollow
  rw [((follow_singleton hp.2 hp.1.2.1).mp hstep).2.2, List.getLast?_concat]

/-- The paths of one file end in one name. -/
theorem name_eq_of_locate (hp : Named p) (hq : Named q) (hpl : t.locate p = .ok l)
    (hql : t.locate q = .ok l) : p.name = q.name :=
  Option.some.inj ((getLast?_of_locate hp hpl).symm.trans (getLast?_of_locate hq hql))

/-- Writing over a file that is there changes nothing else. -/
theorem overwritten_of_write {c : Content} {m : Nat} (h : t.write p c m = .ok t')
    (hthere : t.isFile p = .ok true) :
    ∃ l, t.locate p = .ok l ∧ Overwritten t t' l := by
  obtain ⟨-, l, hl, -, rfl⟩ := write_cases h
  obtain ⟨⟨c', m'⟩, hfile⟩ := isFile_iff.mp hthere
  obtain ⟨-, k, hk, hnode⟩ := file?_eq_some.mp hfile
  obtain rfl : l = k := Except.ok.inj (hl.symm.trans hk)
  have hdir : t.node? l ≠ some .directory := by
    rw [hnode]
    exact nofun
  exact ⟨l, hl, ⟨_, _, hnode⟩, ⟨_, _, node?_put _ hdir⟩, fun k hk => node?_put_of_ne _ hk⟩

/-- A file that is there can be written over. -/
theorem write_over (h : t.isFile p = .ok true) (c : Content) (m : Nat) :
    t.write p c m = .ok ((t.write p c m).toOption.getD .empty) := by
  obtain ⟨x, hx⟩ := isFile_iff.mp h
  obtain ⟨t', ht'⟩ := exists_write hx c m
  rw [ht']
  rfl

end Files

end Stencil
