import Stencil.Proofs.Building

/-!
# When an engine renders what the files say

Over the life of an engine files are written and deleted, it renders and is cleared, and
other engines of its configuration that share its directory do the same. After all that
it renders exactly what a new engine renders, provided that each name it reaches is
settled: it was not loaded since the engine was cleared, or its file is gone, or has
another modification time than when it was loaded last, or the same content.

What carries the proof is a record of readings. For each name it has the content and the
time that its file had when the engine last loaded it, and every history keeps the memory
in line with the record: a template in memory was compiled from the content in the
record, at the time in the record. A failed load leaves memory and record as they were.

The record goes by names as inclusions spell them, and has to. A template known by two
names is in memory twice, and loading it by one of them says nothing of the other.

## Main definitions

* `Happening`: What can happen between two renderings.
* `readings`: The record after a history, by names or by what names have in common.
* `Settled`: The record does not stand in the way of a name.
* `Recorded`: The memory of an engine is in line with a record.

## Theorems

* `happen_recorded`: What happens keeps the memory in line with the record.
* `history_recorded`: So does a history.
* `render_coherent`: An engine renders what a new one renders.
* `not_coherent_by_file`: A record by files would not do.
* `not_coherent_beside_extensions`: Nor would engines with other extensions.
-/

namespace Stencil

namespace Engine

open Files (Agree Tidy Reachable Grown Edit place)

/-- A content that can be written. What is compiled only engines keep. -/
abbrev Written := { content : Content // isStored (.file content 0) = false }

theorem isStored_text (text : String) : isStored (.file (.text text) 0) = false := rfl

/-- What can happen between two renderings: a file is written with any modification time
    or deleted, and an engine renders or is cleared. -/
inductive Happening where
  | write (path : Path) (content : Written) (modified : Nat)
  | delete (path : Path)
  | render (by' : EngineId) (name : Value) (data : Bindings)
  | clear (by' : EngineId)

theorem Written.plain (content : Written) (modified : Nat) :
    isStored (.file content.1 modified) = false := by
  rcases content with ⟨content, h⟩
  cases content <;> exact h

namespace Happening

/-- The engine that acts, if one does. -/
def engine? : Happening → Option EngineId
  | .write .. | .delete _ => none
  | .render id .. | .clear id => some id

/-- A tree without the file that a path names, if it names one. -/
def deleted (t : Files) (p : Path) : Files :=
  match t.stat p, t.locate p with
  | .ok (.file ..), .ok l => t.remove l
  | _, _ => t

/-- The world after something happened in it, whatever came of it. -/
def after (w : World) : Happening → World
  | .write p content modified =>
    { w with files := w.files.writeDeep p (.file content.1 modified) }
  | .delete p => { w with files := deleted w.files p }
  | .render id name data => ((Engine.render id name data).perform w).2
  | .clear id => ((Engine.clear id).perform w).2

end Happening

/-- The world after a history. -/
def afterAll (w : World) (history : List Happening) : World := history.foldl Happening.after w

/-- The names that an engine loaded between two worlds: those of which its memory has
    templates with numbers that had not been given. -/
def loadedBetween (id : EngineId) (w w' : World) : List String :=
  match w'.engine? id with
  | none => []
  | some e => (e.memory.map (·.1)).filter fun n =>
      (Memory.find? e.memory n).any fun l => w.loads ≤ l.serial

/-- For each key the content and the time that a file had when it was loaded last. -/
abbrev Readings (κ : Type) := κ → Option (Content × Nat)

section

variable {κ : Type} [DecidableEq κ] (key : String → κ) (c : Config) (id : EngineId)

/-- The record after something happened. -/
def readingsAfter (r : Readings κ) (w : World) (h : Happening) : Readings κ := fun k =>
  match h with
  | .clear j => if j = id then none else r k
  | h =>
    match (loadedBetween id w (h.after w)).find? fun n => key n = k with
    | some n => fileOf? c w.files n
    | none => r k

/-- The record after a history, from one that is given. -/
def readingsFrom (r : Readings κ) (w : World) : List Happening → Readings κ
  | [] => r
  | h :: history => readingsFrom (readingsAfter key c id r w h) (h.after w) history

/-- The record after a history. -/
def readings (w : World) (history : List Happening) : Readings κ :=
  readingsFrom key c id (fun _ => none) w history

/-- The record does not stand in the way of a name: there is no reading, the file is gone,
    or it has another time or the same content. -/
def Settled (r : Readings κ) (t : Files) (n : String) : Prop :=
  r (key n) = none ∨ fileOf? c t n = none ∨
    ∃ old new, r (key n) = some old ∧ fileOf? c t n = some new ∧ (old.2 ≠ new.2 ∨ old.1 = new.1)

end

variable {c : Config} {x : Extensions} {tr : Translations} {id : EngineId} {w w' : World}

/-- The memory of an engine is in line with a record: what it has was compiled from the
    content in the record, at its time. -/
structure Recorded (c : Config) (x : Extensions) (tr : Translations) (id : EngineId)
    (r : Readings String) (w : World) : Prop where
  running : Running c x tr id w
  memory : ∀ e n l, w.engine? id = some e → Memory.find? e.memory n = some l →
    l.serial < w.loads ∧ ∃ content, r n = some (content, l.modified) ∧
      compiled c x n content = .ok l.body

/-- What is in line with the record and settled is right. -/
theorem Recorded.current {r : Readings String} (h : Recorded c x tr id r w) {n : String}
    (hn : Settled (fun n => n) c r w.files n) : Current c x id w n := by
  intro e l content hid hl hfile
  rcases (h.memory e n l hid hl).2 with ⟨old, hr, hbody⟩
  -- The record has a reading and the file is there, so it is the third way of being settled.
  rcases hn with hnone | hgone | ⟨old', new, hold, hnew, hsame⟩
  · rw [hr] at hnone
    cases hnone
  · rw [hfile] at hgone
    cases hgone
  · obtain rfl := Option.some.inj (hr.symm.trans hold)
    obtain rfl := Option.some.inj (hfile.symm.trans hnew)
    rcases hsame with htime | hcontent
    · exact absurd rfl htime
    · obtain rfl : old = content := hcontent
      exact hbody

/-- An engine that may use the directory of a configuration, as it compiles alike. -/
def Shares (c : Config) (x : Extensions) (w : World) (j : EngineId) : Prop :=
  ∃ e, w.engine? j = some e ∧ Serves c x w.files e

theorem Shares.running {j : EngineId} (h : Shares c x w j) (hw : Sound c x w.files) :
    ∃ tr, Running c x tr j w := by
  rcases h with ⟨e, hid, he⟩
  exact ⟨e.translations, hw, e, hid, he, rfl⟩

theorem Worked.keeps {j : EngineId} (h : Worked c x j w w') (hj : Running c x tr j w)
    {i : EngineId} {tr' : Translations} (hi : Running c x tr' i w) : Running c x tr' i w' := by
  by_cases hij : i = j
  · subst hij
    exact h.running hi
  · rcases hi.engine with ⟨e, hid, he, htr⟩
    exact ⟨h.sound, e, (h.others i hij).trans hid, he.agree h.agree, htr⟩

theorem Running.edit (h : Running c x tr id w) {t : Files} (ht : Edit w.files t) :
    Running c x tr id { w with files := t } := by
  rcases h.engine with ⟨e, hid, he, htr⟩
  refine ⟨⟨ht.tidy, fun name file n f source body m hnode => ?_⟩, e, hid, he.mono ht.directory,
    htr⟩
  -- What is kept is in the half of the tree that edits do not touch.
  rw [ht.hidden _ (not_reachable_keptAt c name file)] at hnode
  exact h.sound.kept _ _ _ _ _ _ _ hnode

theorem deleted_edit {t : Files} (ht : Tidy t) (p : Path) : Edit t (Happening.deleted t p) := by
  unfold Happening.deleted
  split
  · rename_i l hstat hl
    rcases Files.exists_locate_of_stat hstat with ⟨k, hk, hnode⟩
    obtain rfl := Except.ok.inj (hl.symm.trans hk)
    exact Files.remove_edit ht (Files.reachable_locate hl) hnode
  · exact .refl ht

/-- Loading numbers the templates in the memory upwards, so those that were there are no
    new ones. -/
theorem loadedBetween_eq_nil {e : Engine} (hid : w'.engine? id = some e)
    (h : ∀ n l, Memory.find? e.memory n = some l → l.serial < w.loads) :
    loadedBetween id w w' = [] := by
  rw [loadedBetween, hid]
  simp only [List.filter_eq_nil_iff, Option.any_eq_true, decide_eq_true_eq, not_exists, not_and]
  rintro n - l hl
  have := h n l hl
  omega

theorem mem_loadedBetween {e : Engine} (hid : w'.engine? id = some e) {n : String} {l : Loaded}
    (hl : Memory.find? e.memory n = some l) :
    n ∈ loadedBetween id w w' ↔ w.loads ≤ l.serial := by
  rw [loadedBetween, hid]
  simp only [List.mem_filter, hl, Option.any_some, decide_eq_true_eq, and_iff_right_iff_imp]
  -- What is found in memory is there under its name.
  rcases List.lookup_eq_some_iff.mp hl with ⟨l₁, l₂, hmem, -⟩
  intro _
  rw [hmem]
  exact List.mem_map_of_mem (List.mem_append_right _ List.mem_cons_self)

/-- What an engine did leaves its memory in line with the record. -/
theorem Worked.recorded {r : Readings String} (h : Worked c x id w w')
    (hr : Recorded c x tr id r w) :
    Recorded c x tr id (fun n =>
      match (loadedBetween id w w').find? fun k => k = n with
      | some k => fileOf? c w.files k
      | none => r n) w' := by
  refine ⟨h.running hr.running, fun e' n l hid' hl => ?_⟩
  rcases hr.running.engine with ⟨e, hid, -, -⟩
  rcases h.own e hid with ⟨memory, hid₂, hold⟩
  obtain rfl := Option.some.inj (hid₂.symm.trans hid')
  have hnew := mem_loadedBetween (w := w) hid' hl
  rcases hold n l hl with hl' | ⟨hge, hlt, content, hfile, hbody⟩
  · -- The template was there before, so its name is none of the new ones.
    rcases hr.memory e n l hid hl' with ⟨hlt, content, hread, hbody⟩
    refine ⟨Nat.lt_of_lt_of_le hlt h.loads, content, ?_, hbody⟩
    have hnone : (loadedBetween id w w').find? (fun k => k = n) = none := by
      rw [List.find?_eq_none]
      intro k hk hkn
      obtain rfl : k = n := by simpa using hkn
      have := hnew.mp hk
      omega
    simp only [hnone]
    exact hread
  · refine ⟨hlt, content, ?_, hbody⟩
    -- The template is new, so the record has what its file was.
    have hsome : (loadedBetween id w w').find? (fun k => k = n) = some n := by
      cases hfind : (loadedBetween id w w').find? fun k => k = n with
      | none =>
          rw [List.find?_eq_none] at hfind
          exact absurd (by simp) (hfind n (hnew.mpr hge))
      | some k => rw [show k = n by simpa using List.find?_some hfind]
    simp only [hsome]
    exact hfile

/-- What leaves an engine as it is leaves its memory in line with the record. -/
theorem Recorded.frame {r : Readings String} (hr : Recorded c x tr id r w)
    (hrun : Running c x tr id w') (hid : w'.engine? id = w.engine? id)
    (hloads : w.loads ≤ w'.loads) :
    Recorded c x tr id (fun n =>
      match (loadedBetween id w w').find? fun k => k = n with
      | some k => fileOf? c w.files k
      | none => r n) w' := by
  rcases hrun.engine with ⟨e, he, -, -⟩
  -- The numbers in memory were all given before.
  have hnone : loadedBetween id w w' = [] :=
    loadedBetween_eq_nil he fun n l hl => (hr.memory e n l (hid ▸ he) hl).1
  refine ⟨hrun, fun e' n l hid' hl => ?_⟩
  rcases hr.memory e' n l (hid ▸ hid') hl with ⟨hlt, hread⟩
  simp only [hnone, List.find?_nil]
  exact ⟨Nat.lt_of_lt_of_le hlt hloads, hread⟩

/-- What happens keeps every engine that shares the directory running. -/
theorem running_after {h : Happening}
    (hby : ∀ j, h.engine? = some j → ∃ tr, Running c x tr j w) {i : EngineId}
    (hi : Running c x tr i w) : Running c x tr i (h.after w) := by
  cases h with
  | write p content modified =>
      exact hi.edit (Files.writeDeep_edit hi.sound.tidy p (content.plain modified))
  | delete p => exact hi.edit (deleted_edit hi.sound.tidy p)
  | render j name data =>
      rcases hby j rfl with ⟨tr', hj⟩
      exact (render_worked hj name data).keeps hj hi
  | clear j =>
      rcases hby j rfl with ⟨tr', hj⟩
      exact (clear_worked hj).2.1.keeps hj hi

/-- What happens keeps the memory in line with the record. -/
theorem happen_recorded {r : Readings String} (hr : Recorded c x tr id r w) {h : Happening}
    (hby : ∀ j, h.engine? = some j → ∃ tr, Running c x tr j w) :
    Recorded c x tr id (readingsAfter (fun n => n) c id r w h) (h.after w) := by
  have hrun := running_after hby hr.running
  cases h with
  | write p content modified => exact hr.frame hrun rfl (Nat.le_refl _)
  | delete p => exact hr.frame hrun rfl (Nat.le_refl _)
  | render j name data =>
      rcases hby j rfl with ⟨tr', hj⟩
      have hwork := render_worked hj name data
      -- Another engine leaves the memory of this one alone.
      by_cases hij : id = j
      · subst hij
        exact hwork.recorded hr
      · exact hr.frame hrun (hwork.others id hij) hwork.loads
  | clear j =>
      rcases hby j rfl with ⟨tr', hj⟩
      rcases clear_worked hj with ⟨-, hwork, hempty⟩
      -- Clearing empties memory and record, if it is this engine that is cleared.
      refine ⟨hrun, fun e n l hid hl => ?_⟩
      by_cases hij : id = j
      · subst hij
        rw [hempty e hid] at hl
        cases hl
      · rcases hr.memory e n l ((hwork.others id hij).symm.trans hid) hl with ⟨hlt, hread⟩
        refine ⟨Nat.lt_of_lt_of_le hlt hwork.loads, ?_⟩
        simp only [readingsAfter, if_neg (Ne.symm hij)]
        exact hread

/-- The engines that act in the rest of a history run once something happened. -/
theorem running_rest {h : Happening} {history : List Happening}
    (hby : ∀ h' ∈ h :: history, ∀ j, h'.engine? = some j → ∃ tr, Running c x tr j w) :
    ∀ h' ∈ history, ∀ j, h'.engine? = some j → ∃ tr, Running c x tr j (h.after w) := by
  intro h' hh' j hj
  rcases hby h' (List.mem_cons_of_mem _ hh') j hj with ⟨tr', hrun⟩
  exact ⟨tr', running_after (hby h List.mem_cons_self) hrun⟩

/-- A history keeps the memory in line with the record, and the engines running. -/
theorem history_recorded {r : Readings String} (hr : Recorded c x tr id r w)
    {history : List Happening}
    (hby : ∀ h ∈ history, ∀ j, h.engine? = some j → ∃ tr, Running c x tr j w) :
    Recorded c x tr id (readingsFrom (fun n => n) c id r w history) (afterAll w history) := by
  induction history generalizing r w with
  | nil => exact hr
  | cons h history ih =>
      exact ih (happen_recorded hr (hby h List.mem_cons_self)) (running_rest hby)

/-- What happens leaves directories in place. -/
theorem isDirectory_after {h : Happening} (hw : Running c x tr id w)
    (hby : ∀ j, h.engine? = some j → ∃ tr, Running c x tr j w) {p : Path}
    (hp : w.files.isDirectory p = .ok true) : (h.after w).files.isDirectory p = .ok true := by
  cases h with
  | write q content modified =>
      exact Files.isDirectory_mono
        (Files.writeDeep_edit hw.sound.tidy q (content.plain modified)).directory hp
  | delete q => exact Files.isDirectory_mono (deleted_edit hw.sound.tidy q).directory hp
  | render j name data =>
      rcases hby j rfl with ⟨tr', hj⟩
      have hwork := render_worked hj name data
      exact (Files.agree_asks hwork.agree p _).symm.trans hp
  | clear j =>
      rcases hby j rfl with ⟨tr', hj⟩
      exact (Files.agree_asks (clear_worked hj).2.1.agree p _).symm.trans hp

theorem isDirectory_afterAll (hw : Running c x tr id w) {history : List Happening}
    (hby : ∀ h ∈ history, ∀ j, h.engine? = some j → ∃ tr, Running c x tr j w) {p : Path}
    (hp : w.files.isDirectory p = .ok true) :
    (afterAll w history).files.isDirectory p = .ok true := by
  induction history generalizing w with
  | nil => exact hp
  | cons h history ih =>
      have hfirst := hby h List.mem_cons_self
      exact ih (running_after hfirst hw) (running_rest hby) (isDirectory_after hw hfirst hp)

theorem readingsFrom_concat {κ : Type} [DecidableEq κ] (key : String → κ) (c : Config)
    (id : EngineId) (r : Readings κ) (w : World) (history : List Happening) (h : Happening) :
    readingsFrom key c id r w (history ++ [h]) =
      readingsAfter key c id (readingsFrom key c id r w history) (afterAll w history) h := by
  induction history generalizing r w with
  | nil => rfl
  | cons h' history ih => exact ih _ _

/-- After an engine is cleared the record is empty. -/
theorem readings_of_clear {history : List Happening} (h : history.getLast? = some (.clear id))
    (c : Config) (w : World) (n : String) : readings (fun n => n) c id w history n = none := by
  rcases List.getLast?_eq_some_iff.mp h with ⟨before, rfl⟩
  rw [readings, readingsFrom_concat]
  exact if_pos rfl

/-- Nothing compiled is kept for a configuration. -/
def NothingKept (c : Config) (t : Files) : Prop :=
  ∀ name file, t.node? (keptAt c name file) = none

theorem NothingKept.sound {t : Files} (h : NothingKept c t) (ht : Tidy t) (x : Extensions) :
    Sound c x t := by
  refine ⟨ht, fun name file n f source body m hnode => ?_⟩
  rw [h name file] at hnode
  cases hnode

theorem NothingKept.edit {t t' : Files} (h : NothingKept c t) (ht : Edit t t') :
    NothingKept c t' := by
  intro name file
  rw [ht.hidden _ (not_reachable_keptAt c name file)]
  exact h name file

theorem created_of_create {extensions : Option Extensions} {translations : Option Translations}
    {e : Engine} (hmade : (create c extensions translations).perform w = (.ok id, w'))
    (he : w'.engine? id = some e) : Created c e.extensions w w' id e := by
  rcases create_cases hmade with ⟨e', hcreated, -⟩
  obtain rfl := Option.some.inj (hcreated.engine?.symm.trans he)
  have hx := hcreated.extensions
  rw [← hx] at hcreated
  exact hcreated

/-- A new engine has nothing in memory, which is in line with the empty record. -/
theorem Created.recorded {e : Engine} (h : Created c x w w' id e) (hw : Sound c x w.files) :
    Recorded c x e.translations id (fun _ => none) w' := by
  refine ⟨h.running hw, fun e' n l hid hl => ?_⟩
  obtain rfl := Option.some.inj (h.engine?.symm.trans hid)
  rw [h.memory] at hl
  cases hl

/-- The names that rendering from the files reaches. -/
def reached (c : Config) (x : Extensions) (tr : Translations) (t : Files) (name : Value)
    (data : Bindings) : List String := ((renderAnew c x tr t name data).perform []).2

/-- An engine that was made where nothing compiled was kept, whatever happened since,
    renders what a new engine renders that is made where nothing compiled is kept,
    provided that the names it reaches are settled. Right after it was cleared they are. -/
theorem render_coherent {c : Config} {extensions : Option Extensions}
    {translations : Option Translations} {w₀ w₁ : World} {id : EngineId} {e : Engine}
    (htidy : Tidy w₀.files) (hempty : NothingKept c w₀.files)
    (hmade : (create c extensions translations).perform w₀ = (.ok id, w₁))
    (he : w₁.engine? id = some e) (history : List Happening)
    (hshared : ∀ h ∈ history, ∀ j, h.engine? = some j → Shares c e.extensions w₁ j)
    (name : Value) (data : Bindings) :
    let w := afterAll w₁ history
    let new := (create c (some e.extensions) (some e.translations)).perform (emptied c w)
    (e.store.isSome → ∃ id' w', new = (.ok id', w')) ∧
      ∀ id' w', new = (.ok id', w') →
        (history.getLast? = some (.clear id) ∨
          ∀ n ∈ reached c e.extensions e.translations w.files name data,
            Settled (fun n => n) c (readings (fun n => n) c id w₁ history) w.files n) →
        ((render id name data).perform w).1 = ((render id' name data).perform w').1 := by
  intro w new
  have hcreated := created_of_create hmade he
  have hsound₀ : Sound c e.extensions w₀.files := hempty.sound htidy _
  have hrunning := hcreated.running hsound₀
  have hby : ∀ h ∈ history, ∀ j, h.engine? = some j → ∃ tr, Running c e.extensions tr j w₁ :=
    fun h hh j hj => (hshared h hh j hj).running hrunning.sound
  have hrecorded := history_recorded (hcreated.recorded hsound₀) hby
  have hsound : Sound c e.extensions (emptied c w).files :=
    withoutStored_sound hrecorded.running.sound.tidy c _
  have hagree : Agree w.files (emptied c w).files :=
    withoutStored_agree hrecorded.running.sound.tidy _
  refine ⟨fun hstore => ?_, fun id' w' hnew hsettled => ?_⟩
  · -- Its directory and the root stayed in place, which is all that a new engine needs.
    rcases hcreated.store with ⟨hnone, -⟩ | ⟨-, hroot, hmake⟩
    · rw [hnone] at hstore
      cases hstore
    · have hroot₁ := Files.isDirectory_mono (hcreated.grown htidy).directory hroot
      have hdir₁ := Files.isDirectory_makeDirectories htidy hmake
      exact exists_create
        ((Files.agree_asks hagree _ _).symm.trans (isDirectory_afterAll hrunning hby hroot₁))
        ((Files.agree_asks hagree _ _).symm.trans (isDirectory_afterAll hrunning hby hdir₁)) _ _
  · rcases create_cases hnew with ⟨e₂, hcreated₂, htr⟩
    -- An engine without extensions has no translations, whatever it was given.
    have htr₂ : e₂.translations = e.translations := by
      have hx₂ : e₂.extensions = e.extensions := hcreated₂.extensions
      cases hany : e.extensions.any with
      | true => exact htr _ rfl (hx₂ ▸ hany)
      | false =>
          rw [hcreated.translations hany, hcreated₂.translations (hx₂ ▸ hany)]
    rw [hcreated₂.render hsound, htr₂]
    have hcurrent : ∀ n ∈ reached c e.extensions e.translations w.files name data,
        Current c e.extensions id w n := by
      intro n hn
      refine hrecorded.current ?_
      rcases hsettled with hclear | hsettled
      · exact Or.inl (readings_of_clear hclear c w₁ n)
      · exact hsettled n hn
    rw [render_result hrecorded.running name data hcurrent]
    exact congrArg (fun b => (Stateful.perform b []).1)
      (renderAnew_congr (readAnew_agree hagree c _) name data)

/-- An engine shares the directory that it was made with. -/
theorem shares_of_create {extensions : Option Extensions} {translations : Option Translations}
    {w₀ w₁ : World} {id : EngineId} {e : Engine} (htidy : Tidy w₀.files)
    (hempty : NothingKept c w₀.files)
    (hmade : (create c extensions translations).perform w₀ = (.ok id, w₁))
    (he : w₁.engine? id = some e) : Shares c e.extensions w₁ id := by
  rcases ((created_of_create hmade he).running (hempty.sound htidy _)).engine with
    ⟨e', hid, hserves, -⟩
  exact ⟨e', hid, hserves⟩

/-- An engine goes on sharing the directory when another one is made. -/
theorem Shares.created {e : Engine} {j : EngineId} {y : Extensions} (h : Shares c y w j)
    (hw : Tidy w.files) (hcreated : Created c x w w' id e) : Shares c y w' j := by
  rcases h with ⟨e', hid, hserves⟩
  have hlen := (List.getElem?_eq_some_iff.mp hid).1
  refine ⟨e', ?_, hserves.mono (hcreated.grown hw).directory⟩
  rw [World.engine?, hcreated.engines, List.getElem?_append_left hlen]
  exact hid

/-- A tree of text files that were all written at one time. -/
def textFiles (fs : List (String × String)) (modified : Nat) : Files :=
  fs.foldl (fun t f => t.writeDeep (Path.ofString f.1) (.file (.text f.2) modified)) .empty

theorem textFiles_edit (fs : List (String × String)) (modified : Nat) :
    Edit .empty (textFiles fs modified) := by
  have hfold : ∀ t, Edit .empty t → Edit .empty (fs.foldl (fun t f =>
      t.writeDeep (Path.ofString f.1) (.file (.text f.2) modified)) t) := by
    induction fs with
    | nil => exact fun _ => id
    | cons f fs ih => exact fun t ht => ih _ (ht.trans (Files.writeDeep_edit ht.tidy _ rfl))
  exact hfold _ (.refl Files.tidy_empty)

theorem nothingKept_empty (c : Config) : NothingKept c .empty := by
  intro name file
  have hhidden := not_reachable_keptAt c name file
  cases hnode : Files.empty.node? (keptAt c name file) with
  | none => rfl
  | some n =>
      cases n with
      | directory => exact absurd (Files.tidy_empty.named _ hnode) hhidden
      | file content m =>
          rw [Files.node?] at hnode
          split at hnode <;> cases hnode

theorem textFiles_nothingKept (fs : List (String × String)) (modified : Nat) (c : Config) :
    NothingKept c (textFiles fs modified) :=
  (nothingKept_empty c).edit (textFiles_edit fs modified)

/-- Whether a reading is of a text can be decided. -/
instance (r : Option (Content × Nat)) (s : String) (m : Nat) : Decidable (r = some (.text s, m)) :=
  match r with
  | some (.text s', m') => decidable_of_iff (s' = s ∧ m' = m) (by simp)
  | some (.bytes _, _) | some (.script _, _) | some (.brokenScript _, _) | some (.catalog _, _)
  | some (.compiled .., _) | none => isFalse (by simp)

/-- The text of a template that includes another. -/
def including (name : String) : String := "\x7b% include \"" ++ name ++ "\" %\x7d"

/-- A template that two others include, each by another name. -/
def twoNames : World :=
  .ofFiles (textFiles [("templates/a.j2", "one"), ("templates/m1.j2", including "a.j2"),
    ("templates/m2.j2", including "./a.j2")] 10) 0 "" ⟨.here, []⟩

/-- The world after an engine was made for them. -/
def twoNamesMade : World := ((create .default none none).perform twoNames).2

/-- The engine that was made. -/
def twoNamesEngine : Engine :=
  ⟨.default, ⟨true, false⟩, [], some Config.default.cacheDir, []⟩

theorem twoNames_made : (create .default none none).perform twoNames = (.ok 0, twoNamesMade) := by
  have hid : ((create .default none none).perform twoNames).1 = .ok 0 := by decide +kernel
  rw [twoNamesMade, ← hid]

theorem twoNames_engine : twoNamesMade.engine? 0 = some twoNamesEngine := by
  rfl

theorem twoNames_tidy : Tidy twoNames.files := (textFiles_edit _ _).tidy

theorem twoNames_nothingKept : NothingKept .default twoNames.files := textFiles_nothingKept _ _ _

/-- Nobody else has a part in what happens to them. -/
theorem twoNames_shared (history : List Happening)
    (h : ∀ h ∈ history, ∀ j, h.engine? = some j → j = 0) :
    ∀ h ∈ history, ∀ j, h.engine? = some j →
      Shares .default twoNamesEngine.extensions twoNamesMade j := by
  intro h' hh' j hj
  obtain rfl := h h' hh' j hj
  exact shares_of_create twoNames_tidy twoNames_nothingKept twoNames_made twoNames_engine

/-- The included template is written, once so that it does not compile and once so that
    it does, and rendered in between. -/
def rewriting : List Happening :=
  [.render 0 (.text "m1") [], .write (Path.ofString "templates/a.j2") ⟨.text "\x7b% if", rfl⟩ 20,
    .render 0 (.text "m1") [], .write (Path.ofString "templates/a.j2") ⟨.text "two", rfl⟩ 30]

/-- After that the template is new to the engine and to a new one. -/
theorem render_coherent_rewriting :
    ∃ id' w', (create .default (some ⟨true, false⟩) (some [])).perform
        (emptied .default (afterAll twoNamesMade rewriting)) = (.ok id', w') ∧
      ((render id' (.text "m1") []).perform w').1 = .ok "two" := by
  have hby : ∀ h ∈ rewriting, ∀ j, h.engine? = some j → j = 0 := by
    simp only [rewriting, List.forall_mem_cons]
    simp [Happening.engine?]
  have hshared := twoNames_shared rewriting hby
  rcases render_coherent twoNames_tidy twoNames_nothingKept twoNames_made twoNames_engine
    rewriting hshared (.text "m1") [] with ⟨hexists, hsame⟩
  rcases hexists rfl with ⟨id', w', hnew⟩
  have hfacts : reached .default ⟨true, false⟩ [] (afterAll twoNamesMade rewriting).files
        (.text "m1") [] = ["a.j2", "m1.j2"] ∧
      readings (fun n => n) .default 0 twoNamesMade rewriting "a.j2" = some (.text "one", 10) ∧
      fileOf? .default (afterAll twoNamesMade rewriting).files "a.j2" = some (.text "two", 30) ∧
      readings (fun n => n) .default 0 twoNamesMade rewriting "m1.j2" =
        some (.text (including "a.j2"), 10) ∧
      fileOf? .default (afterAll twoNamesMade rewriting).files "m1.j2" =
        some (.text (including "a.j2"), 10) ∧
      ((render 0 (.text "m1") []).perform (afterAll twoNamesMade rewriting)).1 = .ok "two" := by
    decide +kernel
  rcases hfacts with ⟨hreached, hread, hfile, hread', hfile', hresult⟩
  refine ⟨id', w', hnew, (hsame id' w' hnew (Or.inr fun n hn => Or.inr (Or.inr ?_))).symm.trans
    hresult⟩
  -- The included file has another time than when it was loaded, the other its content.
  have hn' : n = "a.j2" ∨ n = "m1.j2" := by
    have : n ∈ ["a.j2", "m1.j2"] := hreached ▸ hn
    simpa using this
  rcases hn' with rfl | rfl
  · exact ⟨_, _, hread, hfile, Or.inl (by decide)⟩
  · exact ⟨_, _, hread', hfile', Or.inr rfl⟩

/-- The included template is written without a change of its time, and read again under
    its other name. -/
def respelling : List Happening :=
  [.render 0 (.text "m1") [], .write (Path.ofString "templates/a.j2") ⟨.text "two", rfl⟩ 10,
    .render 0 (.text "m2") []]

/-- Names of one file have to be settled one by one: that the file has the content that it
    had when it was loaded last is not enough if that was under another name. -/
theorem not_coherent_by_file :
    ¬∀ (c : Config) (extensions : Option Extensions) (translations : Option Translations)
      (w₀ w₁ : World) (id : EngineId) (e : Engine), Tidy w₀.files → NothingKept c w₀.files →
      (create c extensions translations).perform w₀ = (.ok id, w₁) →
      w₁.engine? id = some e → ∀ history : List Happening,
      (∀ h ∈ history, ∀ j, h.engine? = some j → Shares c e.extensions w₁ j) →
      ∀ (name : Value) (data : Bindings) (id' : EngineId) (w' : World),
      (create c (some e.extensions) (some e.translations)).perform
        (emptied c (afterAll w₁ history)) = (.ok id', w') →
      (∀ n ∈ reached c e.extensions e.translations (afterAll w₁ history).files name data,
        Settled includeSegments? c (readings includeSegments? c id w₁ history)
          (afterAll w₁ history).files n) →
      ((render id name data).perform (afterAll w₁ history)).1 =
        ((render id' name data).perform w').1 := by
  intro h
  have hby : ∀ h ∈ respelling, ∀ j, h.engine? = some j → j = 0 := by
    simp only [respelling, List.forall_mem_cons]
    simp [Happening.engine?]
  have hshared := twoNames_shared respelling hby
  have hfacts : (emptied .default (afterAll twoNamesMade respelling)).files.isDirectory
        Config.default.templateRoot = .ok true ∧
      (emptied .default (afterAll twoNamesMade respelling)).files.isDirectory
        Config.default.cacheDir = .ok true ∧
      reached .default ⟨true, false⟩ [] (afterAll twoNamesMade respelling).files
        (.text "m1") [] = ["a.j2", "m1.j2"] ∧
      readings includeSegments? .default 0 twoNamesMade respelling (includeSegments? "a.j2") =
        some (.text "two", 10) ∧
      fileOf? .default (afterAll twoNamesMade respelling).files "a.j2" = some (.text "two", 10) ∧
      readings includeSegments? .default 0 twoNamesMade respelling (includeSegments? "m1.j2") =
        some (.text (including "a.j2"), 10) ∧
      fileOf? .default (afterAll twoNamesMade respelling).files "m1.j2" =
        some (.text (including "a.j2"), 10) ∧
      ((render 0 (.text "m1") []).perform (afterAll twoNamesMade respelling)).1 = .ok "one" ∧
      ((create .default (some ⟨true, false⟩) (some []) >>=
          fun id => render id (.text "m1") []).perform
        (emptied .default (afterAll twoNamesMade respelling))).1 = .ok "two" := by
    decide +kernel
  rcases hfacts with ⟨hroot, hdir, hreached, hread, hfile, hread', hfile', hold, hnew⟩
  rcases exists_create hroot hdir ⟨true, false⟩ [] with ⟨id', w', hanew⟩
  have hsame := h .default none none twoNames twoNamesMade 0 twoNamesEngine twoNames_tidy
    twoNames_nothingKept twoNames_made twoNames_engine respelling hshared (.text "m1") [] id' w'
    hanew fun n hn => Or.inr (Or.inr ?_)
  · -- The engine still has the old text in memory, a new one reads the new.
    rw [Stateful.perform_bind_ok hanew, ← hsame, hold] at hnew
    exact absurd hnew (by decide)
  · have hn' : n = "a.j2" ∨ n = "m1.j2" := by
      have : n ∈ ["a.j2", "m1.j2"] := hreached ▸ hn
      simpa using this
    rcases hn' with rfl | rfl
    · exact ⟨_, _, hread, hfile, Or.inr rfl⟩
    · exact ⟨_, _, hread', hfile', Or.inr rfl⟩

/-- A template with a block that only engines with translations can compile. -/
def withBlock : World :=
  .ofFiles (textFiles [("templates/a.j2", "one\x7b% if false %\x7d\x7b% trans %\x7dtwo" ++
    "\x7b% endtrans %\x7d\x7b% endif %\x7d")] 10) 0 "" ⟨.here, []⟩

/-- The world after an engine with translations was made for it. -/
def besideBlock : World := ((create .default none none).perform withBlock).2

/-- The world after one without translations was made as well. -/
def beforeBlock : World := ((create .default (some ⟨false, false⟩) none).perform besideBlock).2

/-- The engines that share a directory have to compile alike: that they have the same
    configuration is not enough if they were made with other extensions. -/
theorem not_coherent_beside_extensions :
    ¬∀ (c : Config) (extensions : Option Extensions) (translations : Option Translations)
      (w₀ w₁ : World) (id : EngineId) (e : Engine), Tidy w₀.files → NothingKept c w₀.files →
      (create c extensions translations).perform w₀ = (.ok id, w₁) →
      w₁.engine? id = some e → ∀ history : List Happening,
      (∀ h ∈ history, ∀ j, h.engine? = some j → ∃ x, Shares c x w₁ j) →
      ∀ (name : Value) (data : Bindings) (id' : EngineId) (w' : World),
      (create c (some e.extensions) (some e.translations)).perform
        (emptied c (afterAll w₁ history)) = (.ok id', w') →
      (∀ n ∈ reached c e.extensions e.translations (afterAll w₁ history).files name data,
        Settled (fun n => n) c (readings (fun n => n) c id w₁ history)
          (afterAll w₁ history).files n) →
      ((render id name data).perform (afterAll w₁ history)).1 =
        ((render id' name data).perform w').1 := by
  intro h
  have hmade : (create .default none none).perform withBlock = (.ok 0, besideBlock) :=
    Prod.ext (by decide +kernel) rfl
  have hmade' : (create .default (some ⟨false, false⟩) none).perform besideBlock =
      (.ok 1, beforeBlock) := Prod.ext (by decide +kernel) rfl
  let e : Engine := ⟨.default, ⟨true, false⟩, [], some Config.default.cacheDir, []⟩
  let e' : Engine := ⟨.default, ⟨false, false⟩, [], some Config.default.cacheDir, []⟩
  have hengine : besideBlock.engine? 0 = some e := rfl
  have hengine' : beforeBlock.engine? 1 = some e' := rfl
  have htidy : Tidy withBlock.files := (textFiles_edit _ _).tidy
  have hempty : NothingKept .default withBlock.files := textFiles_nothingKept _ _ _
  -- The first engine shares the directory, and is there when the second is made.
  have hgrown := (created_of_create hmade hengine).grown htidy
  have hshares : Shares .default ⟨true, false⟩ beforeBlock 0 :=
    (shares_of_create htidy hempty hmade hengine).created hgrown.tidy
      (created_of_create hmade' hengine')
  let history : List Happening := [.render 0 (.text "a") []]
  have hby : ∀ h ∈ history, ∀ j, h.engine? = some j → ∃ x, Shares .default x beforeBlock j := by
    intro h hh j hj
    obtain rfl := List.mem_singleton.mp hh
    obtain rfl : 0 = j := Option.some.inj hj
    exact ⟨_, hshares⟩
  have hfacts : (emptied .default (afterAll beforeBlock history)).files.isDirectory
        Config.default.templateRoot = .ok true ∧
      (emptied .default (afterAll beforeBlock history)).files.isDirectory
        Config.default.cacheDir = .ok true ∧
      reached .default ⟨false, false⟩ [] (afterAll beforeBlock history).files (.text "a") [] =
        ["a.j2"] ∧
      readings (fun n => n) .default 1 beforeBlock history "a.j2" = none ∧
      ((render 1 (.text "a") []).perform (afterAll beforeBlock history)).1 = .ok "one" ∧
      ¬((create .default (some ⟨false, false⟩) (some []) >>=
          fun id => render id (.text "a") []).perform
        (emptied .default (afterAll beforeBlock history))).1 = .ok "one" := by
    decide +kernel
  rcases hfacts with ⟨hroot, hdir, hreached, hread, hold, hnew⟩
  rcases exists_create hroot hdir ⟨false, false⟩ [] with ⟨id', w', hanew⟩
  have hsame := h .default (some ⟨false, false⟩) none besideBlock beforeBlock 1 e' hgrown.tidy
    (hempty.edit hgrown.toEdit) hmade' hengine' history hby (.text "a") [] id' w' hanew
    fun n hn => Or.inl ?_
  · rw [Stateful.perform_bind_ok hanew, ← hsame, hold] at hnew
    exact hnew rfl
  · obtain rfl : n = "a.j2" := by
      have : n ∈ ["a.j2"] := hreached ▸ hn
      simpa using this
    exact hread

end Engine

end Stencil
