import Mathlib.Data.List.Induction
import Mathlib.Logic.Relation
import Stencil.Engine
import Stencil.Proofs.Segments

/-!
# What changes to a file tree leave alone

Paths only lead to locations without a slash in any name, and the compiled templates
are kept at locations with one. So a tree has two halves that do not see each other:
what paths can name, and what engines keep. Whoever writes or deletes files changes the
first half only, and whoever keeps a compiled template the second.

In a tidy tree everything stands in a directory. Writing and making directories keep it
tidy and never turn a directory into something else, so what once led somewhere still
does. Making directories moreover leaves every file in its place.

## Main definitions

* `Reachable`: A location that paths can lead to.
* `place`: The location that a path leads to if it leads anywhere.
* `Agree`: Two trees are the same as far as paths can tell.
* `Tidy`: Everything stands in a directory, which can be named, and nothing compiled can.
* `Edit`: A change that the half of the engines does not see.
* `Grown`: An edit that only adds directories.
* `MadeOne`: A directory is made by itself.

## Theorems

* `locate_eq_place`: A path that leads somewhere leads to its place.
* `agree_file?`: Trees that agree have the same files at the same paths.
* `put_edit`, `remove_edit`: Writing and removing a file are edits.
* `makeDirectories_made`: Directories are made one after the other.
* `makeDirectories_grown`: Making directories only adds directories.
* `writeDeep_edit`: Writing a file with the directories on the way is an edit.
* `file?_write`: What is written is there.
* `locate_concat`: A segment behind a directory leads to its name in it.
* `isFile_iff`: A path names a file exactly if there is one to read.
* `getLast?_steps_of_isFile`: What ends in a dot is no file.
* `file?_of_grown`: Added directories change no file under a directory.
-/

namespace Stencil

/-- Leaving out entries that a lookup does not find changes nothing for it. -/
theorem lookup_filter_of_lookup {K V : Type} [BEq K] [LawfulBEq K] {es : List (K × V)}
    {p : K × V → Bool} {k : K} (h : ∀ v, es.lookup k = some v → p (k, v) = true) :
    (es.filter p).lookup k = es.lookup k := by
  induction es with
  | nil => rfl
  | cons e es ih =>
      rcases e with ⟨j, v⟩
      by_cases hj : k = j
      · subst hj
        have hp : p (k, v) = true := h v (by simp)
        rw [List.filter_cons_of_pos hp]
        simp
      · have hne : (k == j) = false := by simpa using hj
        have ih := ih fun v' hv' => h v' (by rw [List.lookup_cons, hne]; exact hv')
        -- The entry is of another key, so it makes no difference whether it stays.
        rw [List.lookup_cons, hne]
        by_cases hp : p (j, v) = true
        · rw [List.filter_cons_of_pos hp, List.lookup_cons, hne]
          exact ih
        · rw [List.filter_cons_of_neg hp]
          exact ih

namespace Files

/-- A location that paths can lead to: only the root has a slash in its name. -/
def Reachable (l : Location) : Prop := ∀ s ∈ l, '/' ∈ s.toList → s = "/"

theorem reachable_up {l : Location} (h : Reachable l) : Reachable (up l) := by
  unfold up
  split
  · intro s hs hslash
    rcases List.mem_cons.mp hs with rfl | hs
    · exact absurd hslash (by decide)
    · exact h s hs hslash
  · split
    · exact h
    · exact fun s hs => h s (List.dropLast_subset l hs)

theorem reachable_concat {l : Location} (h : Reachable l) {s : String} (hs : '/' ∉ s.toList) :
    Reachable (l ++ [s]) := by
  intro r hr hslash
  rcases List.mem_append.mp hr with hr | hr
  · exact h r hr hslash
  · rw [List.mem_singleton] at hr
    subst hr
    exact absurd hslash hs

theorem up_concat {l : Location} {s : String} (hdots : s ≠ "..") (hroot : l ++ [s] ≠ ["/"]) :
    up (l ++ [s]) = l := by
  -- Neither of the two places that are above themselves is meant.
  have hall : (l ++ [s]).all (· == "..") = false := by simp [hdots]
  rw [up, hall, if_neg (by decide), if_neg (by simpa using hroot), List.dropLast_concat]

/-- Where steps lead, whatever is there. -/
def walk (l : Location) (steps : List String) : Location :=
  steps.foldl (fun l s => if s = "." then l else if s = ".." then up l else l ++ [s]) l

/-- Where following a path starts. -/
def start (p : Path) : Location := if p.isAbsolute then ["/"] else []

/-- Where a path leads if it leads anywhere. -/
def place (p : Path) : Location := walk (start p) (steps p)

theorem reachable_start (p : Path) : Reachable (start p) := by
  unfold start
  split
  · intro s hs _
    exact List.mem_singleton.mp hs
  · exact fun s hs => absurd hs List.not_mem_nil

theorem reachable_walk {l : Location} (h : Reachable l) {ss : List String}
    (hs : ∀ s ∈ ss, '/' ∉ s.toList) : Reachable (walk l ss) := by
  induction ss generalizing l with
  | nil => exact h
  | cons s ss ih =>
      have hss := fun r hr => hs r (List.mem_cons_of_mem _ hr)
      rw [walk, List.foldl_cons]
      split
      · exact ih h hss
      · split
        · exact ih (reachable_up h) hss
        · exact ih (reachable_concat h (hs s List.mem_cons_self)) hss

theorem not_slash_of_mem_steps {p : Path} {s : String} (h : s ∈ steps p) : '/' ∉ s.toList := by
  rw [steps, List.mem_flatMap] at h
  rcases h with ⟨r, -, h⟩
  rcases List.mem_map.mp h with ⟨cs, hcs, rfl⟩
  rw [String.toList_ofList]
  exact Path.not_mem_of_mem_splitOn (List.mem_filter.mp hcs).1

theorem reachable_place (p : Path) : Reachable (place p) :=
  reachable_walk (reachable_start p) fun _ => not_slash_of_mem_steps

/-- A step is taken from a directory, by a name that is not too long. -/
theorem follow_cons_eq_ok {t : Files} {l k : Location} {s : String} {ss : List String} :
    t.follow l (s :: ss) = .ok k ↔
      t.node? l = some .directory ∧ (s = "." ∨ s = ".." ∨ s.utf8ByteSize ≤ longestName) ∧
        t.follow (walk l [s]) ss = .ok k := by
  rw [follow, walk, List.foldl_cons, List.foldl_nil]
  cases t.node? l with
  | none => simp
  | some n =>
      cases n with
      | file c m => simp
      | directory =>
          by_cases hdot : s = "."
          · simp [hdot]
          · by_cases hdots : s = ".."
            · simp [hdots]
            · -- Only such a step goes down, and so has a name to look at.
              by_cases hlong : longestName < s.utf8ByteSize
              · simp [hdot, hdots, hlong, Nat.not_le_of_lt hlong]
              · simp [hdot, hdots, hlong, Nat.le_of_not_lt hlong]

/-- Steps that lead somewhere lead where they would in any tree. -/
theorem follow_eq_walk {t : Files} {l k : Location} {ss : List String}
    (h : t.follow l ss = .ok k) : k = walk l ss := by
  induction ss generalizing l with
  | nil => exact (Except.ok.inj h).symm
  | cons s ss ih => exact ih (follow_cons_eq_ok.mp h).2.2

theorem follow_append (t : Files) (l : Location) (xs ys : List String) :
    t.follow l (xs ++ ys) = (t.follow l xs).bind fun k => t.follow k ys := by
  induction xs generalizing l with
  | nil => rfl
  | cons s ss ih =>
      rw [List.cons_append, follow, follow]
      split
      · rfl
      · rfl
      · split
        · exact ih l
        · split
          · exact ih _
          · split
            · rfl
            · exact ih _

/-- A path leads where its steps do, if it is not too long. -/
theorem locate_eq_ok {t : Files} {p : Path} {l : Location} :
    t.locate p = .ok l ↔
      p.text.utf8ByteSize < longestPath ∧ t.follow (start p) (steps p) = .ok l := by
  rw [locate, start]
  split
  · rename_i hlong
    exact ⟨fun h => (nomatch h), fun h => absurd h.1 (by omega)⟩
  · rename_i hlong
    exact (and_iff_right (by omega)).symm

theorem locate_eq_place {t : Files} {p : Path} {l : Location} (h : t.locate p = .ok l) :
    l = place p :=
  follow_eq_walk (locate_eq_ok.mp h).2

theorem reachable_locate {t : Files} {p : Path} {l : Location} (h : t.locate p = .ok l) :
    Reachable l := by
  rw [locate_eq_place h]
  exact reachable_place p

/-- Two trees are the same as far as paths can tell. -/
def Agree (t t' : Files) : Prop := ∀ l, Reachable l → t.node? l = t'.node? l

theorem Agree.symm {t t' : Files} (h : Agree t t') : Agree t' t := fun l hl => (h l hl).symm

theorem Agree.trans {t t' t'' : Files} (h : Agree t t') (h' : Agree t' t'') : Agree t t'' :=
  fun l hl => (h l hl).trans (h' l hl)

theorem agree_follow {t t' : Files} (h : Agree t t') {l : Location} (hl : Reachable l)
    {ss : List String} (hs : ∀ s ∈ ss, '/' ∉ s.toList) : t.follow l ss = t'.follow l ss := by
  induction ss generalizing l with
  | nil => rfl
  | cons s ss ih =>
      have hss := fun r hr => hs r (List.mem_cons_of_mem _ hr)
      -- All that is looked at on the way are locations that paths can lead to.
      rw [follow, follow, h l hl, ih hl hss, ih (reachable_up hl) hss,
        ih (reachable_concat hl (hs s List.mem_cons_self)) hss]

theorem agree_locate {t t' : Files} (h : Agree t t') (p : Path) : t.locate p = t'.locate p := by
  have hfollow : t.follow (start p) (steps p) = t'.follow (start p) (steps p) :=
    agree_follow h (reachable_start p) fun _ => not_slash_of_mem_steps
  rw [start] at hfollow
  rw [locate, locate, hfollow]

theorem agree_stat {t t' : Files} (h : Agree t t') (p : Path) : t.stat p = t'.stat p := by
  rw [stat, stat, agree_locate h]
  cases hl : t'.locate p with
  | error r => rfl
  | ok l => simp only [bind, Except.bind, h l (reachable_locate hl)]

theorem agree_asks {t t' : Files} (h : Agree t t') (p : Path) (q : Node → Bool) :
    t.asks p q = t'.asks p q := by
  rw [asks, asks, agree_stat h]

/-- Trees that agree have the same files at the same paths. -/
theorem agree_file? {t t' : Files} (h : Agree t t') (p : Path) : t.file? p = t'.file? p := by
  rw [file?, file?, agree_stat h]

theorem node?_congr {t t' : Files} {l : Location} (h : t.nodes.lookup l = t'.nodes.lookup l) :
    t.node? l = t'.node? l := by
  rw [node?, node?, h]

theorem node?_put_of_ne {t : Files} {k l : Location} (n : Node) (h : k ≠ l) :
    (t.put l n).node? k = t.node? k := by
  apply node?_congr
  have hne : (k == l) = false := by simpa using h
  rw [put, List.lookup_cons, hne]
  exact lookup_filter_of_lookup fun _ _ => by simpa using h

/-- Where there is no directory what is put there is found. -/
theorem node?_put {t : Files} {l : Location} (n : Node) (h : t.node? l ≠ some .directory) :
    (t.put l n).node? l = some n := by
  apply node?_put_self
  -- The locations that are directories for good are the only ones that hide what is put
  -- there.
  cases hfixed : l.all (· == "..") || l == ["/"] with
  | false => rfl
  | true => exact absurd (if_pos hfixed) h

theorem node?_put_eq {t : Files} {l : Location} (n : Node) (h : t.node? l ≠ some .directory)
    (k : Location) : (t.put l n).node? k = if k = l then some n else t.node? k := by
  by_cases hkl : k = l
  · rw [if_pos hkl, hkl, node?_put n h]
  · rw [if_neg hkl, node?_put_of_ne n hkl]

/-- Putting something at a location that paths cannot lead to is not seen by them. -/
theorem put_agree (t : Files) {l : Location} (n : Node) (h : ¬Reachable l) :
    Agree (t.put l n) t := by
  intro k hk
  apply node?_put_of_ne
  rintro rfl
  exact h hk

/-- Everything stands in a directory, which can be named, and nothing compiled can. -/
structure Tidy (t : Files) : Prop where
  parent : ∀ l, (t.node? l).isSome → t.node? (up l) = some .directory
  plain : ∀ l n, Reachable l → t.node? l = some n → Engine.isStored n = false
  named : ∀ l, t.node? l = some .directory → Reachable l

theorem tidy_empty : Tidy empty := by
  have hnode : ∀ {l n}, empty.node? l = some n → n = .directory ∧
      (l.all (· == "..") || l == ["/"]) = true := by
    intro l n h
    rw [node?] at h
    split at h
    · rename_i hfixed
      exact ⟨(Option.some.inj h).symm, hfixed⟩
    · cases h
  refine ⟨fun l hl => ?_, fun l n _ hn => ?_, fun l hl => ?_⟩
  · rcases Option.isSome_iff_exists.mp hl with ⟨n, hn⟩
    -- Above a directory whose parts are all double dots is another one, above the root itself.
    have hfixed := (hnode hn).2
    rw [Bool.or_eq_true] at hfixed
    refine if_pos ?_
    rw [up]
    split
    · rename_i hall
      simp [hall]
    · rename_i hall
      have hroot := hfixed.resolve_left hall
      rw [if_pos hroot, hroot, Bool.or_true]
  · rw [(hnode hn).1]
    rfl
  · intro s hs hslash
    rcases Bool.or_eq_true _ _ |>.mp (hnode hl).2 with hall | hroot
    · obtain rfl : s = ".." := by simpa using List.all_eq_true.mp hall s hs
      exact absurd hslash (by decide)
    · rw [beq_iff_eq.mp hroot] at hs
      exact List.mem_singleton.mp hs

/-- A change that the half of the engines does not see, and which leaves directories
    what they are. -/
structure Edit (t t' : Files) : Prop where
  tidy : Tidy t'
  directory : ∀ l, t.node? l = some .directory → t'.node? l = some .directory
  hidden : ∀ l, ¬Reachable l → t'.node? l = t.node? l

theorem Edit.refl {t : Files} (h : Tidy t) : Edit t t := ⟨h, fun _ => id, fun _ _ => rfl⟩

theorem Edit.trans {t t' t'' : Files} (h : Edit t t') (h' : Edit t' t'') : Edit t t'' :=
  ⟨h'.tidy, fun l hl => h'.directory l (h.directory l hl),
    fun l hl => (h'.hidden l hl).trans (h.hidden l hl)⟩

/-- Putting something where no directory is, in one that is there, is an edit. -/
theorem put_edit {t : Files} (ht : Tidy t) {l : Location} {n : Node} (hl : Reachable l)
    (hup : t.node? (up l) = some .directory) (hdir : t.node? l ≠ some .directory)
    (hn : Engine.isStored n = false) : Edit t (t.put l n) := by
  have hkeep : ∀ k, t.node? k = some .directory → (t.put l n).node? k = some .directory := by
    -- The new node is put where there is no directory, so it hides none.
    intro k hk
    rw [node?_put_of_ne n (by rintro rfl; exact hdir hk)]
    exact hk
  refine ⟨⟨?_, ?_, ?_⟩, hkeep, ?_⟩
  · intro k hk
    rw [node?_put_eq n hdir] at hk
    split at hk
    · rename_i hkl
      exact hkl ▸ hkeep _ hup
    · exact hkeep _ (ht.parent k hk)
  · intro k m hk hm
    rw [node?_put_eq n hdir] at hm
    split at hm
    · obtain rfl := Option.some.inj hm
      exact hn
    · exact ht.plain k m hk hm
  · intro k hk
    rw [node?_put_eq n hdir] at hk
    split at hk
    · rename_i hkl
      exact hkl ▸ hl
    · exact ht.named k hk
  · intro k hk
    exact node?_put_of_ne n (by rintro rfl; exact hk hl)

theorem not_fixed_of_file {t : Files} {l : Location} {c : Content} {m : Nat}
    (h : t.node? l = some (.file c m)) : (l.all (· == "..") || l == ["/"]) = false := by
  cases hfixed : l.all (· == "..") || l == ["/"] with
  | false => rfl
  | true =>
      rw [node?, hfixed] at h
      cases h

/-- Nothing stands below a file. -/
theorem Tidy.not_below {t : Files} (ht : Tidy t) {l : Location} {c : Content} {m : Nat}
    (hl : t.node? l = some (.file c m)) {r : Location} (hr : r ≠ []) :
    t.node? (l ++ r) = none := by
  have hfixed := not_fixed_of_file hl
  rw [Bool.or_eq_false_iff] at hfixed
  -- Otherwise the location one step above would be a directory, and so on up to the file.
  induction r using List.reverseRecOn with
  | nil => exact absurd rfl hr
  | append_singleton r s ih =>
      have hup : up (l ++ (r ++ [s])) = l ++ r := by
        have hall : (l ++ (r ++ [s])).all (· == "..") = false := by
          rw [List.all_append, hfixed.1, Bool.false_and]
        have hne : l ++ (r ++ [s]) ≠ ["/"] := by
          intro h
          have hlen := congrArg List.length h
          obtain rfl : l = [] := by
            simp only [List.length_append, List.length_cons, List.length_nil] at hlen
            exact List.eq_nil_of_length_eq_zero (by omega)
          exact absurd hfixed.1 (by simp)
        rw [up, hall, if_neg (by decide), if_neg (by simpa using hne), ← List.append_assoc,
          List.dropLast_concat]
      -- Something there would have a directory above it, which is the file or below it.
      cases hnode : t.node? (l ++ (r ++ [s])) with
      | none => rfl
      | some n =>
          have hdir := ht.parent _ (by rw [hnode]; rfl)
          rw [hup] at hdir
          by_cases hr' : r = []
          · subst hr'
            rw [List.append_nil, hl] at hdir
            cases hdir
          · rw [ih hr'] at hdir
            cases hdir

theorem node?_remove {t : Files} (ht : Tidy t) {l : Location} {c : Content} {m : Nat}
    (hl : t.node? l = some (.file c m)) (k : Location) :
    (t.remove l).node? k = if k = l then none else t.node? k := by
  have hfixed := not_fixed_of_file hl
  by_cases hkl : k = l
  · subst hkl
    rw [if_pos rfl, node?, hfixed, if_neg (by decide), List.lookup_eq_none_iff]
    -- Of the entries that are left none is at the location or below it.
    intro e he
    have hkeep := (List.mem_filter.mp he).2
    rw [bne_iff_ne]
    rintro rfl
    rw [Bool.not_eq_true', ← Bool.not_eq_true, List.isPrefixOf_iff_prefix] at hkeep
    exact hkeep (List.prefix_refl _)
  · rw [if_neg hkl]
    by_cases hpre : l <+: k
    · -- Only the file itself is lost, for nothing stands below it.
      rcases hpre with ⟨r, rfl⟩
      have hnone := ht.not_below hl (r := r) (by rintro rfl; exact hkl (List.append_nil l))
      apply node?_congr
      refine lookup_filter_of_lookup fun v hv => ?_
      rw [node?] at hnone
      split at hnone
      · cases hnone
      · rw [hnone] at hv
        cases hv
    · apply node?_congr
      refine lookup_filter_of_lookup fun _ _ => ?_
      rw [Bool.not_eq_true', ← Bool.not_eq_true, List.isPrefixOf_iff_prefix]
      exact hpre

/-- Removing a file is an edit. -/
theorem remove_edit {t : Files} (ht : Tidy t) {l : Location} {c : Content} {m : Nat}
    (hreach : Reachable l) (hl : t.node? l = some (.file c m)) : Edit t (t.remove l) := by
  have hnode := node?_remove ht hl
  have hkeep : ∀ k, t.node? k = some .directory → (t.remove l).node? k = some .directory := by
    intro k hk
    -- A directory is no file, so it is not what was removed.
    rw [hnode, if_neg (by rintro rfl; rw [hl] at hk; cases hk)]
    exact hk
  refine ⟨⟨?_, ?_, ?_⟩, hkeep, ?_⟩
  · intro k hk
    rw [hnode] at hk
    split at hk
    · cases hk
    · exact hkeep _ (ht.parent k hk)
  · intro k n hk hn
    rw [hnode] at hn
    split at hn
    · cases hn
    · exact ht.plain k n hk hn
  · intro k hk
    rw [hnode] at hk
    split at hk
    · cases hk
    · exact ht.named k hk
  · intro k hk
    rw [hnode, if_neg (by rintro rfl; exact hk hreach)]

/-- An edit that only adds directories. -/
structure Grown (t t' : Files) : Prop extends Edit t t' where
  kept : ∀ l n, t.node? l = some n → t'.node? l = some n
  files : ∀ l c m, t'.node? l = some (.file c m) → t.node? l = some (.file c m)

theorem Grown.refl {t : Files} (h : Tidy t) : Grown t t :=
  ⟨.refl h, fun _ _ => id, fun _ _ _ => id⟩

theorem Grown.trans {t t' t'' : Files} (h : Grown t t') (h' : Grown t' t'') : Grown t t'' :=
  ⟨h.toEdit.trans h'.toEdit, fun l n hl => h'.kept l n (h.kept l n hl),
    fun l c m hl => h.files l c m (h'.files l c m hl)⟩

/-- A directory that is made where nothing is adds itself only. -/
theorem put_directory_grown {t : Files} (ht : Tidy t) {l : Location} (hl : Reachable l)
    (hup : t.node? (up l) = some .directory) (hnone : t.node? l = none) :
    Grown t (t.put l .directory) := by
  have hdir : t.node? l ≠ some .directory := by rw [hnone]; exact fun h => nomatch h
  refine ⟨put_edit ht hl hup hdir rfl, ?_, ?_⟩
  · intro k n hk
    rw [node?_put_of_ne _ (by rintro rfl; rw [hnone] at hk; cases hk)]
    exact hk
  · intro k c m hk
    rw [node?_put_eq _ hdir] at hk
    split at hk
    · cases hk
    · exact hk

/-- A directory is made by itself where it is already, or where nothing is in one that is
    there. -/
theorem makeOne_cases {t t' : Files} {p : Path} (h : t.makeOne p = .ok t') :
    ∃ l, t.locate p = .ok l ∧ (t.node? l = some .directory ∧ t' = t ∨
      t.node? l = none ∧ t.node? (up l) = some .directory ∧ t' = t.put l .directory) := by
  rw [makeOne] at h
  split at h
  · cases h
  · rename_i l hl
    refine ⟨l, hl, ?_⟩
    split at h
    · rename_i hdir
      exact Or.inl ⟨hdir, (Except.ok.inj h).symm⟩
    · cases h
    · rename_i hnone
      split at h
      · rename_i hup
        exact Or.inr ⟨hnone, hup, (Except.ok.inj h).symm⟩
      · cases h
      · cases h

theorem makeOne_grown {t t' : Files} (ht : Tidy t) {p : Path} (h : t.makeOne p = .ok t') :
    Grown t t' := by
  rcases makeOne_cases h with ⟨l, hl, ⟨-, rfl⟩ | ⟨hnone, hup, rfl⟩⟩
  · exact .refl ht
  · exact put_directory_grown ht (reachable_locate hl) hup hnone

/-- A directory is made by itself. -/
def MadeOne (t t' : Files) : Prop := ∃ p, t.makeOne p = .ok t'

/-- Whatever is made above it, a directory is made by itself in the end. -/
theorem makeUp_made {t t' : Files} {p : Path} {depth : Nat} (h : t.makeUp p depth = .ok t') :
    ∃ t₁, Relation.ReflTransGen MadeOne t t₁ ∧ t₁.makeOne p = .ok t' := by
  induction depth generalizing t t' p with
  | zero => cases h
  | succ depth ih =>
      rw [makeUp] at h
      split at h
      · rename_i hone
        obtain rfl := Except.ok.inj h
        exact ⟨t, .refl, hone⟩
      · -- The directories above are made first, then this one is tried again.
        rcases exists_of_bind_eq_ok h with ⟨t₁, hup, h⟩
        rcases ih hup with ⟨t₀, h₀, habove⟩
        refine ⟨t₁, h₀.tail ⟨above p, habove⟩, ?_⟩
        split at h
        · rename_i hone
          obtain rfl := Except.ok.inj h
          exact hone
        · cases h
      · cases h

/-- Directories are made one after the other, the one that is asked for in the end. -/
theorem makeDirectories_made {t t' : Files} {p : Path} (h : t.makeDirectories p = .ok t') :
    hasNul p = false ∧
      ∃ t₁, Relation.ReflTransGen MadeOne t t₁ ∧ t₁.makeOne p = .ok t' := by
  rw [makeDirectories] at h
  split at h
  · cases h
  · rename_i hnul
    exact ⟨Bool.eq_false_iff.mpr hnul, makeUp_made h⟩

theorem grown_of_made {t t' : Files} (ht : Tidy t) (h : Relation.ReflTransGen MadeOne t t') :
    Grown t t' := by
  induction h with
  | refl => exact .refl ht
  | tail _ hone ih =>
      rcases hone with ⟨p, hone⟩
      exact ih.trans (makeOne_grown ih.tidy hone)

/-- Making directories only adds directories. -/
theorem makeDirectories_grown {t t' : Files} (ht : Tidy t) {p : Path}
    (h : t.makeDirectories p = .ok t') : Grown t t' := by
  rcases makeDirectories_made h with ⟨-, t₁, h₁, hone⟩
  have hgrown := grown_of_made ht h₁
  exact hgrown.trans (makeOne_grown hgrown.tidy hone)

/-- A file is written over where one is, or put in a directory that is there. -/
theorem write_cases {t t' : Files} {p : Path} {c : Content} {m : Nat}
    (h : t.write p c m = .ok t') : hasNul p = false ∧ ∃ l, t.locate p = .ok l ∧
      ((∃ c' m', t.node? l = some (.file c' m')) ∨
        t.node? l = none ∧ t.node? (up l) = some .directory) ∧
      t' = t.put l (.file c m) := by
  rw [write] at h
  split at h
  · cases h
  · rename_i hnul
    refine ⟨Bool.eq_false_iff.mpr hnul, ?_⟩
    split at h
    · cases h
    · rename_i l hl
      refine ⟨l, hl, ?_⟩
      split at h
      · cases h
      · rename_i c' m' hnode
        exact ⟨Or.inl ⟨c', m', hnode⟩, (Except.ok.inj h).symm⟩
      · rename_i hnone
        split at h
        · rename_i hup
          exact ⟨Or.inr ⟨hnone, hup⟩, (Except.ok.inj h).symm⟩
        · cases h
        · cases h

/-- Writing a file is an edit. -/
theorem write_edit {t t' : Files} (ht : Tidy t) {p : Path} {c : Content} {m : Nat}
    (hc : Engine.isStored (.file c m) = false) (h : t.write p c m = .ok t') : Edit t t' := by
  rcases write_cases h with ⟨-, l, hl, ⟨c', m', hnode⟩ | ⟨hnone, hup⟩, rfl⟩
  · have hup := ht.parent l (by rw [hnode]; rfl)
    exact put_edit ht (reachable_locate hl) hup (by rw [hnode]; exact fun h => nomatch h) hc
  · exact put_edit ht (reachable_locate hl) hup (by rw [hnone]; exact fun h => nomatch h) hc

/-- Writing a file with the directories on the way is an edit, whatever comes of it. -/
theorem writeDeep_edit {t : Files} (ht : Tidy t) (p : Path) {n : Node}
    (hn : Engine.isStored n = false) : Edit t (t.writeDeep p n) := by
  have hmake : ∀ q, Edit t ((t.makeDirectories q).toOption.getD t) := by
    intro q
    cases hq : t.makeDirectories q with
    | error f => exact .refl ht
    | ok t₁ => exact (makeDirectories_grown ht hq).toEdit
  cases n with
  | directory => exact hmake p
  | file c m =>
      -- Whichever of the two steps fails leaves an edit behind.
      have h₁ := hmake (above p)
      show Edit t ((Files.write _ p c m).toOption.getD _)
      cases hw : ((t.makeDirectories (above p)).toOption.getD t).write p c m with
      | error f => exact h₁
      | ok t₂ => exact h₁.trans (write_edit h₁.tidy hn hw)

/-- What led somewhere still does as long as directories stay. -/
theorem follow_mono {t t' : Files}
    (h : ∀ l, t.node? l = some .directory → t'.node? l = some .directory) {l k : Location}
    {ss : List String} (hk : t.follow l ss = .ok k) : t'.follow l ss = .ok k := by
  induction ss generalizing l with
  | nil => exact hk
  | cons s ss ih =>
      rcases follow_cons_eq_ok.mp hk with ⟨hdir, hname, hk⟩
      exact follow_cons_eq_ok.mpr ⟨h l hdir, hname, ih hk⟩

theorem locate_mono {t t' : Files}
    (h : ∀ l, t.node? l = some .directory → t'.node? l = some .directory) {p : Path}
    {l : Location} (hl : t.locate p = .ok l) : t'.locate p = .ok l := by
  rcases locate_eq_ok.mp hl with ⟨hlong, hl⟩
  exact locate_eq_ok.mpr ⟨hlong, follow_mono h hl⟩

theorem stat_of_locate {t : Files} {p : Path} {l : Location} {n : Node} (hl : t.locate p = .ok l)
    (hn : t.node? l = some n) : t.stat p = .ok n := by
  simp only [stat, hl, bind, Except.bind, hn]
  rfl

theorem exists_locate_of_stat {t : Files} {p : Path} {n : Node} (h : t.stat p = .ok n) :
    ∃ l, t.locate p = .ok l ∧ t.node? l = some n := by
  rw [stat] at h
  rcases exists_of_bind_eq_ok h with ⟨l, hl, h⟩
  split at h
  · rename_i m hm
    obtain rfl := Except.ok.inj h
    exact ⟨l, hl, hm⟩
  · cases h

/-- A path names a directory exactly if it can be followed to one. -/
theorem isDirectory_iff {t : Files} {p : Path} :
    t.isDirectory p = .ok true ↔
      hasNul p = false ∧ ∃ l, t.locate p = .ok l ∧ t.node? l = some .directory := by
  rw [isDirectory, asks]
  cases hnul : hasNul p with
  | true => simp
  | false =>
      simp only [Bool.false_eq_true, if_false, true_and]
      constructor
      · intro h
        split at h
        · rename_i n hn
          rcases exists_locate_of_stat hn with ⟨l, hl, hnode⟩
          cases n with
          | directory => exact ⟨l, hl, hnode⟩
          | file c m => cases h
        · cases h
        · cases h
      · rintro ⟨l, hl, hnode⟩
        rw [stat_of_locate hl hnode]
        rfl

theorem isDirectory_mono {t t' : Files}
    (h : ∀ l, t.node? l = some .directory → t'.node? l = some .directory) {p : Path}
    (hp : t.isDirectory p = .ok true) : t'.isDirectory p = .ok true := by
  rw [isDirectory_iff] at hp ⊢
  rcases hp with ⟨hnul, l, hl, hdir⟩
  exact ⟨hnul, l, locate_mono h hl, h l hdir⟩

theorem makeOne_locate {t t' : Files} (ht : Tidy t) {p : Path} (h : t.makeOne p = .ok t') :
    ∃ l, t'.locate p = .ok l ∧ t'.node? l = some .directory := by
  rcases makeOne_cases h with ⟨l, hl, ⟨hdir, rfl⟩ | ⟨hnone, -, rfl⟩⟩
  · exact ⟨l, hl, hdir⟩
  · refine ⟨l, locate_mono (makeOne_grown ht h).directory hl, ?_⟩
    exact node?_put _ (by rw [hnone]; exact fun h => nomatch h)

/-- A directory that could be made is there. -/
theorem isDirectory_makeDirectories {t t' : Files} (ht : Tidy t) {p : Path}
    (h : t.makeDirectories p = .ok t') : t'.isDirectory p = .ok true := by
  rcases makeDirectories_made h with ⟨hnul, t₁, h₁, hone⟩
  exact isDirectory_iff.mpr ⟨hnul, makeOne_locate (grown_of_made ht h₁).tidy hone⟩

/-- A directory that is there is made without a change. -/
theorem makeDirectories_of_isDirectory {t : Files} {p : Path} (h : t.isDirectory p = .ok true) :
    t.makeDirectories p = .ok t := by
  rcases isDirectory_iff.mp h with ⟨hnul, l, hl, hdir⟩
  have hone : t.makeOne p = .ok t := by simp only [makeOne, hl, hdir]
  rw [makeDirectories, hnul, if_neg (by decide), makeUp, hone]

/-- A step downwards. -/
theorem follow_singleton {t : Files} {l k : Location} {s : String} (hdots : s ≠ "..")
    (hdot : s ≠ ".") :
    t.follow l [s] = .ok k ↔
      t.node? l = some .directory ∧ s.utf8ByteSize ≤ longestName ∧ k = l ++ [s] := by
  rw [follow_cons_eq_ok]
  refine and_congr_right fun _ => and_congr ?_ ?_
  · rw [or_iff_right hdot, or_iff_right hdots]
  · rw [walk, List.foldl_cons, List.foldl_nil, if_neg hdot, if_neg hdots, follow, Except.ok.injEq,
      eq_comm]

/-- Steps downwards that lead to something in one tree can be taken in every tidy tree
    that has something there. -/
theorem follow_of_tidy {t t' : Files} (ht : Tidy t) {l k : Location} {ss : List String}
    (hs : ∀ s ∈ ss, s ≠ ".." ∧ s ≠ "." ∧ s ≠ "/") (hk : t'.follow l ss = .ok k)
    (hnode : (t.node? k).isSome) : t.follow l ss = .ok k := by
  induction ss using List.reverseRecOn generalizing k with
  | nil => exact hk
  | append_singleton ss s ih =>
      have hlast := hs s (List.mem_append_right _ (List.mem_singleton_self s))
      rw [follow_append] at hk ⊢
      rcases exists_of_bind_eq_ok hk with ⟨j, hj, hstep⟩
      rcases (follow_singleton hlast.1 hlast.2.1).mp hstep with ⟨-, hlong, rfl⟩
      have hdir := ht.parent _ hnode
      rw [up_concat hlast.1 fun h => hlast.2.2 (List.append_eq_singleton_iff.mp h |>.elim
        (fun h => (List.cons.inj h.2).1) fun h => (nomatch h.2))] at hdir
      -- What is there stands in a directory, so the steps before lead somewhere too.
      rw [ih (fun r hr => hs r (List.mem_append_left _ hr)) hj (by rw [hdir]; rfl)]
      exact (follow_singleton hlast.1 hlast.2.1).mpr ⟨hdir, hlong, rfl⟩

/-- The steps of segments are the segments. -/
theorem steps_append {a : Anchor} {parts segs : List String}
    (hs : ∀ s ∈ segs, Path.IsSegment s) : steps ⟨a, parts ++ segs⟩ = steps ⟨a, parts⟩ ++ segs := by
  rw [steps, steps, List.flatMap_append]
  congr 1
  induction segs with
  | nil => rfl
  | cons s segs ih =>
      have hseg := hs s List.mem_cons_self
      rw [List.flatMap_cons, ih fun r hr => hs r (List.mem_cons_of_mem _ hr), Path.splitOn_eq,
        List.splitOn_eq_singleton hseg.2.2, List.filter_cons_of_pos (by simpa using hseg.ne_nil),
        List.filter_nil, List.map_singleton, String.ofList_toList]
      rfl

/-- A segment behind a directory leads to its name in it, unless that is too long. -/
theorem locate_concat {t : Files} {root : Path} {l : Location} {s : String}
    (hl : t.locate root = .ok l) (hdir : t.node? l = some .directory) (hs : Path.IsSegment s)
    (hdots : s ≠ "..")
    (hpath : (⟨root.anchor, root.parts ++ [s]⟩ : Path).text.utf8ByteSize < longestPath) :
    t.locate ⟨root.anchor, root.parts ++ [s]⟩ =
      if longestName < s.utf8ByteSize then .error .nameTooLong else .ok (l ++ [s]) := by
  have hsteps : steps ⟨root.anchor, root.parts ++ [s]⟩ = steps root ++ [s] :=
    steps_append fun r hr => List.mem_singleton.mp hr ▸ hs
  have hroot : t.follow (start root) (steps root) = .ok l := (locate_eq_ok.mp hl).2
  rw [locate, if_neg (by omega), hsteps]
  change t.follow (start root) _ = _
  rw [follow_append, hroot]
  show t.follow l [s] = _
  rw [follow, hdir]
  simp only [if_neg hs.2.1, if_neg hdots]
  rfl

theorem file?_eq_some {t : Files} {p : Path} {x : Content × Nat} :
    t.file? p = some x ↔
      hasNul p = false ∧ ∃ l, t.locate p = .ok l ∧ t.node? l = some (.file x.1 x.2) := by
  rw [file?]
  cases hnul : hasNul p with
  | true => simp
  | false =>
      simp only [Bool.false_eq_true, if_false, true_and]
      constructor
      · intro h
        split at h
        · rename_i c m hstat
          obtain rfl := Option.some.inj h
          exact exists_locate_of_stat hstat
        · cases h
      · rintro ⟨l, hl, hnode⟩
        rw [stat_of_locate hl hnode]

/-- What is written is there. -/
theorem file?_write {t t' : Files} {p : Path} {c : Content} {m : Nat}
    (h : t.write p c m = .ok t') : t'.file? p = some (c, m) := by
  rcases write_cases h with ⟨hnul, l, hl, hnode, rfl⟩
  have hfree : t.node? l ≠ some .directory := by
    rcases hnode with ⟨c', m', hnode⟩ | ⟨hnone, -⟩
    · rw [hnode]
      exact fun h => nomatch h
    · rw [hnone]
      exact fun h => nomatch h
  -- The directories on the way stay, because no file is put in place of one.
  have hdirs : ∀ k, t.node? k = some .directory →
      (t.put l (.file c m)).node? k = some .directory := by
    intro k hk
    rw [node?_put_of_ne]
    · exact hk
    · rintro rfl
      exact hfree hk
  exact file?_eq_some.mpr ⟨hnul, l, locate_mono hdirs hl, node?_put _ hfree⟩

/-- A file that is there can be written over. -/
theorem exists_write {t : Files} {p : Path} {x : Content × Nat} (h : t.file? p = some x)
    (c : Content) (m : Nat) : ∃ t', t.write p c m = .ok t' := by
  rcases file?_eq_some.mp h with ⟨hnul, l, hl, hnode⟩
  refine ⟨t.put l (.file c m), ?_⟩
  simp only [write, hnul, Bool.false_eq_true, if_false, hl, hnode]

/-- A path names a file exactly if there is one to read. -/
theorem isFile_iff {t : Files} {p : Path} :
    t.isFile p = .ok true ↔ ∃ file, t.file? p = some file := by
  rw [isFile, asks, file?]
  cases hnul : hasNul p with
  | true => simp
  | false =>
      simp only [Bool.false_eq_true, if_false]
      rcases hstat : t.stat p with r | n
      · cases r <;> simp
      · cases n <;> simp [Node.isFile]

/-- A file that is there has a content. -/
theorem contentAt_of_isFile {t : Files} {p : Path} (h : t.isFile p = .ok true) :
    ∃ c, t.contentAt p = .ok c := by
  rw [isFile, asks] at h
  split at h
  · cases h
  · rename_i hnul
    rw [contentAt, if_neg hnul]
    split at h
    · rename_i n hstat
      rw [hstat]
      cases n with
      | directory => cases h
      | file c m => exact ⟨c, rfl⟩
    · cases h
    · cases h

/-- Only a path that is too long cannot be asked about. -/
theorem asks_error {t : Files} {p : Path} {q : Node → Bool} {f : Fault}
    (h : t.asks p q = .error f) : f = .system .nameTooLong p.text := by
  rw [asks] at h
  split at h
  · cases h
  · split at h
    · cases h
    · exact (Except.error.inj h).symm
    · cases h

/-- What ends in a dot is a directory. -/
theorem getLast?_steps_of_isFile {t : Files} {p : Path} (h : t.isFile p = .ok true) :
    (steps p).getLast? ≠ some "." := by
  rcases isFile_iff.mp h with ⟨file, hfile⟩
  rcases file?_eq_some.mp hfile with ⟨-, l, hl, hnode⟩
  intro hlast
  rcases List.getLast?_eq_some_iff.mp hlast with ⟨before, hsteps⟩
  have hfollow := (locate_eq_ok.mp hl).2
  rw [hsteps, follow_append] at hfollow
  rcases exists_of_bind_eq_ok hfollow with ⟨k, -, hstep⟩
  -- The dot is a step from a directory to itself.
  rcases follow_cons_eq_ok.mp hstep with ⟨hdir, -, hstay⟩
  obtain rfl : k = l := Except.ok.inj hstay
  rw [hdir] at hnode
  cases hnode

/-- A path whose last part got an extension with a slash ends in a dot. -/
theorem getLast?_steps_of_slash (a : Anchor) (parts : List String) (n : String) {ext : String}
    (hext : Attachable ext) (hslash : '/' ∈ ext.toList) :
    (steps ⟨a, parts ++ [n ++ ext]⟩).getLast? = some "." := by
  -- The extension is cut at its last slash.
  rcases List.eq_append_cons_of_mem (List.mem_reverse.mpr hslash) with ⟨q, r, hrev, hq⟩
  have hcut : ext.toList = r.reverse ++ '/' :: q.reverse := by
    rw [← List.reverse_reverse ext.toList, hrev]
    simp
  have hlast : Path.splitOn '/' q.reverse = [q.reverse] := by
    rw [Path.splitOn_eq, List.splitOn_eq_singleton (by simpa using hq)]
  have hdot : q.reverse = ['.'] := by
    have hmem : q.reverse ∈ (Path.splitOn '/' ext.toList).tail := by
      rw [hcut, Path.splitOn_append, hlast, List.tail_append_of_ne_nil]
      · exact List.mem_append_right _ (List.mem_singleton_self _)
      · rw [Path.splitOn_eq]
        exact List.splitOn_ne_nil _ _
    -- The piece behind the slash is not empty, for then the extension would end in a slash.
    refine (hext.2 _ hmem).resolve_left fun hnil => hext.1 ?_
    rw [hcut, hnil, List.getLast?_concat]
  rw [hdot] at hcut hlast
  rw [steps, List.flatMap_append, List.flatMap_singleton, String.toList_append, hcut,
    ← List.append_assoc, Path.splitOn_append, hlast, List.filter_append]
  simp

/-- Added directories change no file under a directory. -/
theorem file?_of_grown {t t' : Files} (ht : Tidy t) (h : Grown t t') {root : Path}
    (hroot : t.isDirectory root = .ok true) {segs : List String}
    (hs : ∀ s ∈ segs, Path.IsSegment s) (hdots : ".." ∉ segs) :
    t'.file? ⟨root.anchor, root.parts ++ segs⟩ = t.file? ⟨root.anchor, root.parts ++ segs⟩ := by
  rcases isDirectory_iff.mp hroot with ⟨-, l, hl, -⟩
  have hdown : ∀ s ∈ segs, s ≠ ".." ∧ s ≠ "." ∧ s ≠ "/" := by
    intro s hmem
    refine ⟨by rintro rfl; exact hdots hmem, (hs s hmem).2.1, ?_⟩
    rintro rfl
    exact (hs _ hmem).2.2 (by decide)
  have hbase : t.follow (start root) (steps root) = .ok l := (locate_eq_ok.mp hl).2
  ext x
  rw [file?_eq_some, file?_eq_some]
  refine and_congr_right fun _ => ⟨?_, ?_⟩
  · rintro ⟨k, hk, hnode⟩
    have hnode' := h.files _ _ _ hnode
    rcases locate_eq_ok.mp hk with ⟨hlong, hfollow⟩
    refine ⟨k, locate_eq_ok.mpr ⟨hlong, ?_⟩, hnode'⟩
    rw [steps_append hs, follow_append] at hfollow ⊢
    rcases exists_of_bind_eq_ok hfollow with ⟨j, hj, hk⟩
    -- The root leads to the same directory in both trees.
    obtain rfl : j = l := (follow_eq_walk hj).trans (follow_eq_walk hbase).symm
    change (t.follow (start root) (steps root)).bind _ = _
    rw [hbase]
    exact follow_of_tidy ht hdown hk (by rw [hnode']; rfl)
  · rintro ⟨k, hk, hnode⟩
    -- The other way round nothing has to be shown of the steps, as all directories stayed.
    exact ⟨k, locate_mono h.directory hk, h.kept _ _ hnode⟩

end Files

end Stencil
