import Stencil.Proofs.Parallel
import Stencil.Proofs.Twins

/-!
# Engines whose files tell by their times

An engine takes a template from its memory if its file has the time that it had when it was
read. That is right if times tell contents: whenever a file had the same time it had the same
content. Then all that counts of the past of an engine are the trees of files that there
were, and a template in memory is one that some of these trees had.

Two engines of one kind, in worlds with the same files, give the same then, however different
their memories are. And so do views on them, with all that their helpers render. A helper
that makes an engine for a render makes it of the files that there are, so this gives the
same in both worlds as well, and what was made on the way is the same directory in both.

## Main definitions

* `Had`, `Telling`: Files of trees, and when their times tell their contents.
* `Dated`: What an engine has in memory comes from some trees.
* `InStep`: Two engines of one kind are dated, in worlds with the same files.

## Theorems

* `Dated.current`: The memory is right for all names then.
* `Dated.keeps`, `Dated.extended`, `Dated.edit`: What leaves engines dated.
* `create_alike`: Engines are made alike in worlds with the same files.
* `nestedRender_alike`: Renders inside renders are the same on both engines.
* `View.twinned`: So is all that a view does.
-/

namespace Stencil

/-- The time of the file at the place of a path. -/
def Files.timeAt (t : Files) (p : Path) : Option Nat :=
  match t.node? (Files.place p) with
  | some (.file _ m) => some m
  | _ => none

theorem Files.timeAt_eq {t : Files} {p : Path} {content : Content} {m : Nat}
    (h : t.node? (Files.place p) = some (.file content m)) : t.timeAt p = some m := by
  rw [timeAt, h]

namespace Engine

open Files (Agree Tidy Reachable Grown Edit place)

/-- One of some trees has a file with a content and a time at a location. -/
def Had (ts : List Files) (l : Location) (content : Content) (m : Nat) : Prop :=
  ∃ t ∈ ts, t.node? l = some (.file content m)

/-- The times of files tell their contents: whenever the file at a location had the same time
it had the same content. -/
def Telling (ts : List Files) : Prop :=
  ∀ l a b m, Reachable l → Had ts l a m → Had ts l b m → a = b

/-- Where the file of a template is, by the name that inclusions use. -/
def site? (c : Config) (n : String) : Option Location :=
  (includeSegments? n).map fun segments => place (includePath c segments)

/-- An engine runs in a world with the files of some trees, and what it has in memory was
compiled from files that these trees had. -/
structure Dated (ts : List Files) (c : Config) (x : Extensions) (tr : Translations)
    (id : EngineId) (w : World) : Prop where
  running : Running c x tr id w
  files : ∀ l content m, Reachable l → w.files.node? l = some (.file content m) →
    Had ts l content m
  memory : ∀ e n l, w.engine? id = some e → Memory.find? e.memory n = some l →
    ∃ k content, site? c n = some k ∧ Had ts k content l.modified ∧
      compiled c x n content = .ok l.body

variable {ts ts' : List Files} {c : Config} {x : Extensions} {tr tr' : Translations}
  {id id' j j' : EngineId} {w w' u u' : World} {t : Files}

theorem Had.mono {l : Location} {content : Content} {m : Nat} (h : Had ts l content m)
    (hts : ts ⊆ ts') : Had ts' l content m := by
  rcases h with ⟨t, ht, hnode⟩
  exact ⟨t, hts ht, hnode⟩

theorem site?_of_fileOf? {n : String} {content : Content} {m : Nat}
    (h : fileOf? c t n = some (content, m)) :
    ∃ k, site? c n = some k ∧ Reachable k ∧ t.node? k = some (.file content m) := by
  rw [fileOf?] at h
  rcases Option.bind_eq_some_iff.mp h with ⟨segments, hsegments, hfile⟩
  rcases Files.file?_eq_some.mp hfile with ⟨-, k, hk, hnode⟩
  refine ⟨k, ?_, Files.reachable_locate hk, hnode⟩
  rw [site?, hsegments, Files.locate_eq_place hk]
  rfl

/-- If times tell contents, the memory is right for all names. -/
theorem Dated.current (h : Dated ts c x tr id w) (hts : Telling ts) (n : String) :
    Current c x id w n := by
  intro e l content hid hl hfile
  rcases site?_of_fileOf? hfile with ⟨k, hk, hreach, hnode⟩
  rcases h.memory e n l hid hl with ⟨k', content', hk', hhad, hbody⟩
  obtain rfl := Option.some.inj (hk.symm.trans hk')
  -- The file has the time that it had when it was read.
  obtain rfl : content = content' :=
    hts k content content' l.modified hreach (h.files k content _ hreach hnode) hhad
  exact hbody

/-- What engines that share the directory do leaves each of them dated. -/
theorem Dated.keeps (h : Dated ts c x tr id w) (hwork : Worked c x j w w')
    (hj : Running c x tr' j w) : Dated ts c x tr id w' := by
  have hfiles : ∀ l content m, Reachable l → w'.files.node? l = some (.file content m) →
      Had ts l content m := fun l content m hl hnode =>
    h.files l content m hl ((hwork.agree l hl).trans hnode)
  refine ⟨hwork.keeps hj h.running, hfiles, fun e' n l hid' hl => ?_⟩
  rcases h.running.engine with ⟨e, hid, -, -⟩
  by_cases hij : id = j
  · subst hij
    rcases hwork.own e hid with ⟨memory, hid₂, hold⟩
    obtain rfl := Option.some.inj (hid₂.symm.trans hid')
    -- What is new in memory was compiled from the files that are there.
    rcases hold n l hl with hl | ⟨-, -, content, hfile, hbody⟩
    · exact h.memory e n l hid hl
    · rcases site?_of_fileOf? hfile with ⟨k, hk, hreach, hnode⟩
      exact ⟨k, content, hk, h.files k content _ hreach hnode, hbody⟩
  · exact h.memory e' n l ((hwork.others id hij).symm.trans hid') hl

/-- A world in which engines may have been added, and directories made. -/
structure Extended (w w' : World) : Prop where
  engines : ∀ j e, w.engine? j = some e → w'.engine? j = some e
  files : Grown w.files w'.files

theorem Extended.of_logged (hw : Tidy w.files) (h : w.Logged w') : Extended w w' := by
  rcases h with ⟨es, rfl⟩
  exact ⟨fun _ _ h => h, .refl hw⟩

theorem Created.extended {e : Engine} (h : Created c x w w' j e) (hw : Tidy w.files) :
    Extended w w' := by
  refine ⟨fun i e' hi => ?_, h.grown hw⟩
  have hlen := (List.getElem?_eq_some_iff.mp hi).1
  rw [World.engine?, h.engines, List.getElem?_append_left hlen]
  exact hi

/-- Directories tell nothing of times, and engines that are added leave the others alone. -/
theorem Dated.extended (h : Dated ts c x tr id w) (hw : Extended w w') :
    Dated ts c x tr id w' := by
  rcases h.running.engine with ⟨e, hid, he, htr⟩
  have hid' := hw.engines id e hid
  have hedit : Running c x tr id { w with files := w'.files } := h.running.edit hw.files.toEdit
  refine ⟨⟨hedit.sound, e, hid', he.mono hw.files.directory, htr⟩,
    fun l content m hl hnode => h.files l content m hl (hw.files.files l content m hnode),
    fun e' n l hid₂ hl => ?_⟩
  obtain rfl := Option.some.inj (hid'.symm.trans hid₂)
  exact h.memory e n l hid hl

theorem Dated.logged (h : Dated ts c x tr id w) (hlog : w.Logged w') : Dated ts c x tr id w' :=
  h.extended (.of_logged h.running.sound.tidy hlog)

/-- A new engine has nothing in memory. -/
theorem Dated.of_created {e : Engine} (hw : Sound c x w.files) (hnew : Created c x w w' j e)
    (hfiles : ∀ l content m, Reachable l → w'.files.node? l = some (.file content m) →
      Had ts l content m) : Dated ts c x e.translations j w' := by
  refine ⟨hnew.running hw, hfiles, fun e' n l hid hl => ?_⟩
  obtain rfl := Option.some.inj (hnew.engine?.symm.trans hid)
  rw [hnew.memory] at hl
  cases hl

theorem Dated.created {e : Engine} (h : Dated ts c x tr id w) (hnew : Created c x w w' j e) :
    Dated ts c x e.translations j w' :=
  .of_created h.running.sound hnew (h.extended (hnew.extended h.running.sound.tidy)).files

/-- So the files that it finds are the ones to go by. -/
theorem Dated.new {e : Engine} (hw : Sound c x w.files) (hnew : Created c x w w' id e)
    (hlog : w'.Logged u) : Dated [u.files] c x e.translations id u := by
  have hdated : Dated [w'.files] c x e.translations id w' :=
    .of_created hw hnew fun l content m _ hnode => ⟨_, List.mem_singleton_self _, hnode⟩
  have hu := hdated.logged hlog
  rcases hlog with ⟨es, rfl⟩
  exact hu

theorem telling_singleton (t : Files) : Telling [t] := by
  rintro l a b m - ⟨t₁, h₁, ha⟩ ⟨t₂, h₂, hb⟩
  obtain rfl := List.mem_singleton.mp h₁
  obtain rfl := List.mem_singleton.mp h₂
  cases ha.symm.trans hb
  rfl

theorem Dated.mono (h : Dated ts c x tr id w) (hts : ts ⊆ ts') : Dated ts' c x tr id w := by
  refine ⟨h.running, fun l content m hl hnode => (h.files l content m hl hnode).mono hts,
    fun e n l hid hl => ?_⟩
  rcases h.memory e n l hid hl with ⟨k, content, hk, hhad, hbody⟩
  exact ⟨k, content, hk, hhad.mono hts, hbody⟩

/-- An edit adds a tree. -/
theorem Dated.edit (h : Dated ts c x tr id w) (ht : Edit w.files t) (hts : Agree t t') :
    Dated (t' :: ts) c x tr id { w with files := t } := by
  refine ⟨h.running.edit ht, fun l content m hl hnode => ?_, ?_⟩
  · exact ⟨t', List.mem_cons_self, (hts l hl).symm.trans hnode⟩
  · exact (h.mono (List.subset_cons_self t' ts)).memory

/-- If a tree has nothing but files that others had, times tell no less than before. -/
theorem Telling.cons (h : Telling ts)
    (ht : ∀ l content m, Reachable l → t.node? l = some (.file content m) → Had ts l content m) :
    Telling (t :: ts) := by
  have hhad : ∀ l content m, Reachable l → Had (t :: ts) l content m → Had ts l content m := by
    rintro l content m hl ⟨t', ht', hnode⟩
    rcases List.mem_cons.mp ht' with rfl | ht'
    · exact ht l content m hl hnode
    · exact ⟨t', ht', hnode⟩
  exact fun l a b m hl ha hb => h l a b m hl (hhad l a m hl ha) (hhad l b m hl hb)

/-- Two engines of one kind are dated, in worlds with the same files. -/
structure InStep (ts : List Files) (c : Config) (x : Extensions) (tr : Translations)
    (id id' : EngineId) (w w' : World) : Prop where
  left : Dated ts c x tr id w
  right : Dated ts c x tr id' w'
  agree : Agree w.files w'.files

theorem InStep.logged (h : InStep ts c x tr id id' w w') (hlog : w.Logged u)
    (hlog' : w'.Logged u') : InStep ts c x tr id id' u u' := by
  have hfiles : u.files = w.files := by
    rcases hlog with ⟨es, rfl⟩
    rfl
  have hfiles' : u'.files = w'.files := by
    rcases hlog' with ⟨es, rfl⟩
    rfl
  exact ⟨h.left.logged hlog, h.right.logged hlog', hfiles ▸ hfiles' ▸ h.agree⟩

theorem InStep.symm (h : InStep ts c x tr id id' w w') : InStep ts c x tr id' id w' w :=
  ⟨h.right, h.left, h.agree.symm⟩

/-- A world with files that others had adds nothing to what times tell. -/
theorem InStep.add (h : InStep ts c x tr id id' w w') : InStep (t :: ts) c x tr id id' w w' :=
  ⟨h.left.mono (List.subset_cons_self t ts), h.right.mono (List.subset_cons_self t ts), h.agree⟩

/-- Where the same file is written in both worlds the engines stay in step. -/
theorem InStep.write (h : InStep ts c x tr id id' w w') (p : Path) (content : Written) (m : Nat) :
    InStep (((Happening.write p content m).after w).files :: ts) c x tr id id'
      ((Happening.write p content m).after w) ((Happening.write p content m).after w') := by
  have hagree := Files.writeDeep_agree h.agree p (.file content.1 m)
  exact ⟨h.left.edit (Files.writeDeep_edit h.left.running.sound.tidy p (content.plain m))
      fun _ _ => rfl,
    h.right.edit (Files.writeDeep_edit h.right.running.sound.tidy p (content.plain m))
      hagree.symm, hagree⟩

/-- If the file gets a time that it never had, times go on telling contents. -/
theorem Dated.telling_write (h : Dated ts c x tr id w) (hts : Telling ts) {p : Path}
    (content : Written) {m : Nat} (hnew : ∀ t ∈ ts, t.timeAt p ≠ some m) :
    Telling (((Happening.write p content m).after w).files :: ts) := by
  have hfresh : ∀ {b}, ¬Had ts (place p) b m := by
    rintro b ⟨t, ht, hnode⟩
    exact hnew t ht (Files.timeAt_eq hnode)
  -- A file is the one that was written, or some tree had it.
  have hcases : ∀ {l a k}, Reachable l →
      Had (((Happening.write p content m).after w).files :: ts) l a k →
      Had ts l a k ∨ l = place p ∧ a = content.1 ∧ k = m := by
    rintro l a k hl ⟨t, ht, hnode⟩
    rcases List.mem_cons.mp ht with rfl | ht
    · exact (Files.node?_writeDeep h.running.sound.tidy hnode).imp_left (h.files l a k hl)
    · exact .inl ⟨t, ht, hnode⟩
  intro l a b k hl ha hb
  rcases hcases hl ha with hold | ⟨rfl, rfl, rfl⟩
  · rcases hcases hl hb with hold' | ⟨rfl, rfl, rfl⟩
    · exact hts l a b k hl hold hold'
    · exact absurd hold hfresh
  · rcases hcases hl hb with hold | ⟨-, rfl, -⟩
    · exact absurd hold hfresh
    · rfl

/-- Where the same file is deleted they stay in step too. -/
theorem InStep.delete (h : InStep ts c x tr id id' w w') (p : Path) :
    InStep (((Happening.delete p).after w).files :: ts) c x tr id id'
      ((Happening.delete p).after w) ((Happening.delete p).after w') := by
  have htidy := h.left.running.sound.tidy
  have htidy' := h.right.running.sound.tidy
  have hagree := deleted_agree htidy htidy' h.agree p
  exact ⟨h.left.edit (deleted_edit htidy p) fun _ _ => rfl,
    h.right.edit (deleted_edit htidy' p) hagree.symm, hagree⟩

/-- Clearing one of the engines leaves them in step. -/
theorem InStep.clear (h : InStep ts c x tr id id' w w') :
    InStep ts c x tr id id' ((Happening.clear id).after w) w' := by
  have hwork := (clear_worked h.left.running).2.1
  exact ⟨h.left.keeps hwork h.left.running, h.right, hwork.agree.symm.trans h.agree⟩

/-- What an engine renders is what rendering from the files gives, and another one that is
dated stays so. -/
theorem Dated.render_gives (hts : Telling ts) (base : Files) (name : Value) (data : Bindings) :
    Gives (fun z => Dated ts c x tr id z ∧ Dated ts c x tr' j z ∧ Agree base z.files)
      (fun y => y) (render j name data) ((renderAnew c x tr' base name data).perform []).1 := by
  refine .of_result ?_
  rintro z ⟨hid, hj, hagree⟩
  have hwork := render_worked hj.running name data
  refine ⟨?_, hid.keeps hwork hj.running, hj.keeps hwork hj.running, hagree.trans hwork.agree⟩
  rw [render_result hj.running name data fun n _ => hj.current hts n,
    renderAnew_congr fun n => (readAnew_agree hagree c x n).symm]

/-- Engines that are in step render the same. -/
theorem render_alike (hts : Telling ts) (h : InStep ts c x tr id id' w w') (name : Value)
    (data : Bindings) :
    ((render id name data).perform w).1 = ((render id' name data).perform w').1 ∧
      InStep ts c x tr id id' ((render id name data).perform w).2
        ((render id' name data).perform w').2 ∧
      Agree w.files ((render id name data).perform w).2.files := by
  rcases (Dated.render_gives hts w.files name data).result ⟨h.left, h.left, fun _ _ => rfl⟩ with
    ⟨hresult, hdated, -, hagree⟩
  rcases (Dated.render_gives hts w.files name data).result ⟨h.right, h.right, h.agree⟩ with
    ⟨hresult', hdated', -, hagree'⟩
  exact ⟨hresult.trans hresult'.symm, ⟨hdated, hdated', hagree.symm.trans hagree'⟩, hagree⟩

/-- So do views without helpers, on those engines or on others that are in step as well. -/
theorem renderOwned_alike (hts : Telling ts) (h : InStep ts c x tr id id' w w')
    (hj : Dated ts c x tr' j w) (hj' : Dated ts c x tr' j' w') (nested nested' : Nested)
    (name : Value) (data : Bindings) :
    let o := (renderOwned nested name c j data []).perform ⟨[], [], w⟩
    let o' := (renderOwned nested' name c j' data []).perform ⟨[], [], w'⟩
    o.1 = o'.1 ∧ InStep ts c x tr id id' o.2.world o'.2.world ∧ Agree w.files o.2.world.files := by
  intro o o'
  rcases renderOwned_gives w name c data fun d =>
    ((renderAnew c x tr' w.files name d).perform []).1 with ⟨q, hq⟩
  -- What holds in one of the worlds all the while, and what in the other.
  have hside : ∀ {id j : EngineId} (nested : Nested) (z : World), Dated ts c x tr id z →
      Dated ts c x tr' j z → Agree w.files z.files →
      let o := (renderOwned nested name c j data []).perform ⟨[], [], z⟩
      o.1 = q ∧ Dated ts c x tr id o.2.world ∧ Agree w.files o.2.world.files := by
    intro id j nested z hid hj hz
    rcases hq nested j
      (fun z => Dated ts c x tr id z ∧ Dated ts c x tr' j z ∧ Agree w.files z.files)
      (fun z z' hlog hz => by
        rcases hlog with ⟨es, rfl⟩
        exact ⟨hz.1.logged ⟨es, rfl⟩, hz.2.1.logged ⟨es, rfl⟩, hz.2.2⟩)
      (fun z hz => hz.2.2) (Dated.render_gives hts w.files name) z ⟨hid, hj, hz⟩ with
      ⟨hresult, hdated, -, hagree⟩
    exact ⟨hresult, hdated, hagree⟩
  rcases hside nested w h.left hj fun _ _ => rfl with ⟨hresult, hdated, hagree⟩
  rcases hside nested' w' h.right hj' h.agree with ⟨hresult', hdated', hagree'⟩
  exact ⟨hresult.trans hresult'.symm, ⟨hdated, hdated', hagree.symm.trans hagree'⟩, hagree⟩

/-- The directory of compiled templates may have been made. -/
structure Prepared (c : Config) (w w' : World) : Prop where
  engines : w'.engines = w.engines
  files : w'.files = w.files ∨ w.files.makeDirectories c.cacheDir = .ok w'.files

theorem Prepared.extended (h : Prepared c w w') (hw : Tidy w.files) : Extended w w' := by
  refine ⟨fun j e hj => ?_, ?_⟩
  · rw [World.engine?, h.engines]
    exact hj
  · rcases h.files with hfiles | hmake
    · rw [hfiles]
      exact .refl hw
    · exact Files.makeDirectories_grown hw hmake

/-- Where the directory is in place the files stay as they are. -/
theorem files_of_isDirectory (hdir : w.files.isDirectory c.cacheDir = .ok true)
    (h : w'.files = w.files ∨ w.files.makeDirectories c.cacheDir = .ok w'.files) :
    w'.files = w.files := by
  rcases h with hfiles | hmake
  · exact hfiles
  · rw [Files.makeDirectories_of_isDirectory hdir] at hmake
    exact (Except.ok.inj hmake).symm

theorem Prepared.logged (h : Prepared c w w') (hlog : w'.Logged u) : Prepared c w u := by
  rcases hlog with ⟨es, rfl⟩
  exact ⟨h.engines, h.files⟩

/-- The directory is made alike in worlds with the same files. -/
theorem prepareStore_alike (h : Agree w.files w'.files) : ∃ r u u',
    (prepareStore c).perform w = (r, u) ∧ (prepareStore c).perform w' = (r, u') ∧
      Prepared c w u ∧ Prepared c w' u' ∧ Agree u.files u'.files := by
  rw [prepareStore, Stateful.perform_bind_ok (Stateful.perform_get w), Stateful.perform_bind,
    Act.perform_ofExcept, Stateful.perform_bind_ok (Stateful.perform_get w'),
    Stateful.perform_bind, Act.perform_ofExcept,
    show w'.files.isDirectory c.templateRoot = w.files.isDirectory c.templateRoot from
      (Files.agree_asks h _ _).symm]
  cases w.files.isDirectory c.templateRoot with
  | error f => exact ⟨.error f, w, w', rfl, rfl, ⟨rfl, .inl rfl⟩, ⟨rfl, .inl rfl⟩, h⟩
  | ok b => cases b with
    | false => exact ⟨.ok none, _, _, rfl, rfl, ⟨rfl, .inl rfl⟩, ⟨rfl, .inl rfl⟩, h⟩
    | true =>
        simp only [if_true]
        have hmake := Files.makeDirectories_alike h c.cacheDir
        generalize hr : w.files.makeDirectories c.cacheDir = r at hmake ⊢
        generalize hr' : w'.files.makeDirectories c.cacheDir = r' at hmake ⊢
        cases hmake with
        | ok hmade => exact ⟨.ok (some c.cacheDir), _, _, rfl, rfl, ⟨rfl, .inr hr⟩,
            ⟨rfl, .inr hr'⟩, hmade⟩
        | error f => cases f with
          | system r p => exact ⟨.ok none, _, _, rfl, rfl, ⟨rfl, .inl rfl⟩, ⟨rfl, .inl rfl⟩, h⟩
          | _ => exact ⟨.error _, _, _, rfl, rfl, ⟨rfl, .inl rfl⟩, ⟨rfl, .inl rfl⟩, h⟩

/-- Translations are the same in worlds with the same files, whether they are given or not. -/
theorem chooseTranslations_alike (h : Agree w.files w'.files) (c : Config) (x : Extensions)
    (given : Option Translations) : ∃ r u u', (chooseTranslations c x given).perform w = (r, u) ∧
      (chooseTranslations c x given).perform w' = (r, u') ∧ w.Logged u ∧ w'.Logged u' := by
  cases given with
  | none =>
      rcases chooseTranslations_perform c x w with ⟨u, hlog, htr⟩
      rcases chooseTranslations_perform c x w' with ⟨u', hlog', htr'⟩
      rw [← translationsFor_agree h c x] at htr'
      exact ⟨_, u, u', htr, htr', hlog, hlog'⟩
  | some t =>
      unfold chooseTranslations
      split
      · exact ⟨_, w, w', rfl, rfl, .refl w, .refl w'⟩
      · exact ⟨_, w, w', rfl, rfl, .refl w, .refl w'⟩

variable {extensions : Option Extensions} {given : Option Translations}

/-- An engine is made of its directory and its translations. -/
theorem create_of_parts {store : Option Path} {v : World}
    (hstore : (prepareStore c).perform w = (.ok store, u)) (hlog : u.Logged v)
    (htr : (chooseTranslations c (extensions.getD (defaultExtensions c)) given).perform u =
      (.ok tr, v)) :
    ∃ z, (create c extensions given).perform w = (.ok w.engines.length, z) ∧
      Created c (extensions.getD (defaultExtensions c)) w z w.engines.length
        ⟨c, extensions.getD (defaultExtensions c), tr, store, []⟩ ∧ z.files = u.files := by
  rcases prepareStore_cases hstore with ⟨hengines, hloads, hfiles⟩
  have hnone := (chooseTranslations_cases htr).2.1
  rcases hlog with ⟨es, rfl⟩
  have hmade : ∃ es', (create c extensions given).perform w = (.ok u.engines.length,
      { u with engines := u.engines ++ [⟨c, extensions.getD (defaultExtensions c), tr, store, []⟩]
               events := es' }) := by
    rw [create, Stateful.perform_bind_ok hstore, Stateful.perform_bind_ok htr]
    exact ⟨_, rfl⟩
  rcases hmade with ⟨es', hmade⟩
  rw [hengines] at hmade
  exact ⟨_, hmade, ⟨rfl, rfl, hloads, rfl, rfl, rfl, hnone, hfiles⟩, rfl⟩

/-- Engines are made alike in worlds with the same files. -/
theorem create_alike (h : Agree w.files w'.files) (c : Config) (extensions : Option Extensions)
    (given : Option Translations) :
    (∃ f u u', (create c extensions given).perform w = (.error f, u) ∧
      (create c extensions given).perform w' = (.error f, u') ∧ Prepared c w u ∧
      Prepared c w' u' ∧ Agree u.files u'.files) ∨
    ∃ u u' e e', (create c extensions given).perform w = (.ok w.engines.length, u) ∧
      (create c extensions given).perform w' = (.ok w'.engines.length, u') ∧
      Created c (extensions.getD (defaultExtensions c)) w u w.engines.length e ∧
      Created c (extensions.getD (defaultExtensions c)) w' u' w'.engines.length e' ∧
      e'.translations = e.translations ∧ Agree u.files u'.files := by
  rcases prepareStore_alike (c := c) h with ⟨r, u, u', hstore, hstore', hu, hu', hagree⟩
  cases r with
  | error f =>
      exact .inl ⟨f, u, u', Stateful.perform_bind_error hstore _,
        Stateful.perform_bind_error hstore' _, hu, hu', hagree⟩
  | ok store =>
      rcases chooseTranslations_alike hagree c (extensions.getD (defaultExtensions c)) given with
        ⟨r, v, v', htr, htr', hlog, hlog'⟩
      cases r with
      | error f =>
          refine .inl ⟨f, v, v', ?_, ?_, hu.logged hlog, hu'.logged hlog', ?_⟩
          · rw [create, Stateful.perform_bind_ok hstore]
            exact Stateful.perform_bind_error htr _
          · rw [create, Stateful.perform_bind_ok hstore']
            exact Stateful.perform_bind_error htr' _
          · rcases hlog with ⟨es, rfl⟩
            rcases hlog' with ⟨es', rfl⟩
            exact hagree
      | ok tr =>
          rcases create_of_parts hstore hlog htr with ⟨z, hmade, hnew, hz⟩
          rcases create_of_parts hstore' hlog' htr' with ⟨z', hmade', hnew', hz'⟩
          exact .inr ⟨z, z', _, _, hmade, hmade', hnew, hnew', rfl, hz ▸ hz' ▸ hagree⟩

/-- Two engines are in step, and if the files have to stay as they are they are those of a
tree. -/
structure Abreast (still : Prop) (base : Files) (ts : List Files) (c : Config) (x : Extensions)
    (tr : Translations) (id id' : EngineId) (w w' : World) : Prop where
  inStep : InStep ts c x tr id id' w w'
  files : still → Agree base w.files

variable {still : Prop} {base : Files}

theorem Abreast.bond : Bond (Abreast still base ts c x tr id id') := by
  refine ⟨fun h => h.inStep.agree, fun h hlog hlog' => ⟨h.inStep.logged hlog hlog', ?_⟩⟩
  rcases hlog with ⟨es, rfl⟩
  exact h.files

/-- Engines that are in step render the same. -/
theorem render_twin (hts : Telling ts) (name : Value) (data : Bindings) :
    Act.Twin (Abreast still base ts c x tr id id') (render id name data)
      (render id' name data) := by
  intro w w' h
  rcases render_alike hts h.inStep name data with ⟨hresult, hinStep, hagree⟩
  exact ⟨hresult, hinStep, fun hstill => (h.files hstill).trans hagree⟩

/-- What is rendered inside a render on the engine that is there is the same. -/
theorem nestedRender_shared_twin (hts : Telling ts) (outer : Value) {a : Asked}
    (hshared : a.shared = true) :
    Act.Twin (Abreast still base ts c x tr id id')
      (nestedRender (.view outer c id) a.shared a.name a.data)
      (nestedRender (.view outer c id') a.shared a.name a.data) := by
  intro w w' h
  rcases h.inStep.left.running.engine with ⟨e, hid, he, -⟩
  rcases h.inStep.right.running.engine with ⟨e', hid', he', -⟩
  rcases View.get_shared hid a.name with ⟨u, hlog, hview⟩
  rcases View.get_shared hid' a.name with ⟨u', hlog', hview'⟩
  have hu : Abreast still base ts c x tr id id' u u' := Abreast.bond.logged h hlog hlog'
  rw [nestedRender, nestingLimit, renderNested_perform, renderNested_perform]
  simp only [nestedView, hshared, if_true, hview, hview', he.config, he'.config]
  rcases renderOwned_alike hts hu.inStep hu.inStep.left hu.inStep.right (renderNested 1)
    (renderNested 1) a.name a.data with ⟨hresult, hinStep, hagree⟩
  exact ⟨hresult, hinStep, fun hstill => (hu.files hstill).trans hagree⟩

/-- So is what is rendered on an engine that is made for it, if this is of the kind of those
that are there. -/
theorem nestedRender_own_twin (hts : Telling ts)
    (hdir : still → base.isDirectory c.cacheDir = .ok true) (outer : Value) {a : Asked}
    (hown : a.shared = false) :
    Act.Twin (Abreast still base ts c (defaultExtensions c) tr id id')
      (nestedRender (.view outer c id) a.shared a.name a.data)
      (nestedRender (.view outer c id') a.shared a.name a.data) := by
  intro w w' h
  have htidy := h.inStep.left.running.sound.tidy
  have htidy' := h.inStep.right.running.sound.tidy
  -- Where the files have to stay as they are, the directory is there already.
  have hfiles : ∀ {u : World}, (u.files = w.files ∨
      w.files.makeDirectories c.cacheDir = .ok u.files) → still → Agree base u.files := by
    intro u hu hstill
    have hbase := h.files hstill
    rw [files_of_isDirectory ((Files.agree_asks hbase _ _).symm.trans (hdir hstill)) hu]
    exact hbase
  have hview := View.get_own c a.name w
  have hview' := View.get_own c a.name w'
  rw [nestedRender, nestingLimit, renderNested_perform, renderNested_perform]
  simp only [nestedView, hown, Bool.false_eq_true, if_false]
  rcases create_alike h.inStep.agree c none none with
    ⟨f, u, u', hmade, hmade', hu, hu', hagree⟩ |
    ⟨u, u', e, e', hmade, hmade', hnew, hnew', htr, hagree⟩
  · rw [hmade] at hview
    rw [hmade'] at hview'
    simp only [hview, hview']
    exact ⟨trivial, ⟨h.inStep.left.extended (hu.extended htidy),
      h.inStep.right.extended (hu'.extended htidy'), hagree⟩, hfiles hu.files⟩
  · rw [hmade] at hview
    rw [hmade'] at hview'
    rcases hview with ⟨v, hlog, hview⟩
    rcases hview' with ⟨v', hlog', hview'⟩
    have hstore : u.files = w.files ∨ w.files.makeDirectories c.cacheDir = .ok u.files :=
      hnew.store.imp And.right fun h => h.2.2
    have hu : Abreast still base ts c (defaultExtensions c) tr id id' u u' :=
      ⟨⟨h.inStep.left.extended (hnew.extended htidy),
        h.inStep.right.extended (hnew'.extended htidy'), hagree⟩, hfiles hstore⟩
    have hv := Abreast.bond.logged hu hlog hlog'
    simp only [hview, hview']
    rcases renderOwned_alike hts hv.inStep ((h.inStep.left.created hnew).logged hlog)
      ((htr ▸ h.inStep.right.created hnew').logged hlog') (renderNested 1) (renderNested 1) a.name
      a.data with ⟨hresult, hinStep, hagree'⟩
    exact ⟨hresult, hinStep, fun hstill => (hv.files hstill).trans hagree'⟩

end Engine

open Engine

/-- Engines that are in step do the same for a view. Its helpers may make engines for their
renders if these are of the same kind, and do not disturb files that have to stay as they
are. -/
theorem View.twinned {still own : Prop} {base : Files} {ts : List Files} {c : Config}
    {x : Extensions} {tr : Translations} {v : View} {id' : EngineId} (hts : Telling ts)
    (hc : v.config = c)
    (hown : own → x = defaultExtensions c ∧
      (still → base.isDirectory c.cacheDir = .ok true)) :
    v.Twinned (Abreast still base ts c x tr v.engine id') own id' := by
  refine ⟨Abreast.bond, Engine.render_twin hts v.name, fun a ha => ?_⟩
  rw [View.owner, View.owner, show (v.on id').config = c from hc, hc]
  cases hshared : a.shared with
  | true => exact hshared ▸ nestedRender_shared_twin hts v.name hshared
  | false =>
      rcases hown (ha hshared) with ⟨rfl, hdir⟩
      exact hshared ▸ nestedRender_own_twin hts hdir v.name hshared

end Stencil
