import Stencil.Proofs.Loading

/-!
# Making and clearing engines

An engine is made without anything in its memory. On the way the directory of compiled
templates may be made, and nothing else happens to the files. Clearing an engine takes
away what is kept in that directory, which no path can see.

## Main definitions

* `emptied`: A world without the compiled templates of a configuration.
* `Created`: What making an engine does to the world.

## Theorems

* `node?_withoutStored`: What is left of a tree without compiled templates.
* `withoutStored_sound`: Such a tree is sound, and the same to paths.
* `create_cases`: Making an engine does that.
* `exists_create`: An engine can be made where one has its directory.
* `Created.render`: A new engine renders from the files.
* `clear_worked`: Clearing an engine leaves its memory empty.
-/

namespace Stencil

namespace Engine

open Files (Agree Tidy Reachable Grown place)

variable {c : Config} {x : Extensions} {tr : Translations} {id : EngineId} {w w' : World}

theorem node?_withoutStored (t : Files) (l k : Location) :
    (withoutStored t l).node? k =
      if k ≠ [] ∧ k.dropLast = l ∧ (t.node? k).any isStored = true then none else t.node? k := by
  split
  · rename_i h
    rcases h with ⟨hne, hlast, hstored⟩
    -- A compiled template is not where there is always a directory.
    have hfixed : (k.all (· == "..") || k == ["/"]) = false := by
      cases hfixed : k.all (· == "..") || k == ["/"] with
      | false => rfl
      | true =>
          rw [Files.node?, if_pos hfixed] at hstored
          exact absurd hstored (by decide)
    rw [Files.node?, hfixed, if_neg (by decide), List.lookup_eq_none_iff]
    intro e he
    have hkeep := (List.mem_filter.mp he).2
    rw [bne_iff_ne]
    rintro rfl
    simp [hne, hlast, hstored] at hkeep
  · rename_i h
    apply Files.node?_congr
    refine lookup_filter_of_lookup fun v _ => ?_
    simp only [Bool.not_eq_true', Bool.and_eq_false_iff]
    -- An entry is left out for the reasons that were excluded.
    by_contra hc
    simp only [not_or, Bool.not_eq_false, bne_iff_ne, beq_iff_eq] at hc
    exact h ⟨hc.1.1, hc.1.2, hc.2⟩

/-- What is found without the compiled templates was there with them. -/
theorem node?_of_withoutStored {t : Files} {l k : Location} {n : Node}
    (h : (withoutStored t l).node? k = some n) : t.node? k = some n := by
  rw [node?_withoutStored] at h
  split at h
  · cases h
  · exact h

theorem withoutStored_kept {t : Files} {l k : Location} {n : Node} (h : t.node? k = some n)
    (hn : isStored n = false) : (withoutStored t l).node? k = some n := by
  rw [node?_withoutStored, if_neg]
  · exact h
  · rintro ⟨-, -, hstored⟩
    rw [h, Option.any_some, hn] at hstored
    cases hstored

theorem withoutStored_agree {t : Files} (ht : Tidy t) (l : Location) :
    Agree t (withoutStored t l) := by
  intro k hk
  -- Nothing compiled is where paths lead, and nothing else was taken away.
  cases hnode : t.node? k with
  | some n => exact (withoutStored_kept hnode (ht.plain k n hk hnode)).symm
  | none =>
      cases hnode' : (withoutStored t l).node? k with
      | none => rfl
      | some n =>
          rw [node?_of_withoutStored hnode'] at hnode
          cases hnode

theorem withoutStored_tidy {t : Files} (ht : Tidy t) (l : Location) :
    Tidy (withoutStored t l) := by
  refine ⟨fun k hk => ?_, fun k n hk hn => ?_, fun k hk => ?_⟩
  · rcases Option.isSome_iff_exists.mp hk with ⟨n, hn⟩
    have hup := ht.parent k (by rw [node?_of_withoutStored hn]; rfl)
    exact withoutStored_kept hup rfl
  · exact ht.plain k n hk (node?_of_withoutStored hn)
  · exact ht.named k (node?_of_withoutStored hk)

/-- Nothing is kept for a configuration any more. -/
theorem withoutStored_keptAt (t : Files) (c : Config) (name file : String) (n f source : String)
    (body : List Template.Stmt) (m : Nat) :
    (withoutStored t (place c.cacheDir)).node? (keptAt c name file) ≠
      some (.file (.compiled n f source body) m) := by
  intro h
  have hold := node?_of_withoutStored h
  rw [node?_withoutStored, if_pos] at h
  · cases h
  · refine ⟨?_, ?_, ?_⟩
    · simp [keptAt]
    · simp [keptAt]
    · rw [hold]
      rfl

theorem withoutStored_sound {t : Files} (ht : Tidy t) (c : Config) (x : Extensions) :
    Sound c x (withoutStored t (place c.cacheDir)) :=
  ⟨withoutStored_tidy ht _, fun name file n f source body m h =>
    absurd h (withoutStored_keptAt t c name file n f source body m)⟩

/-- A world without the compiled templates of a configuration. -/
def emptied (c : Config) (w : World) : World :=
  { w with files := withoutStored w.files (place c.cacheDir) }

/-- Making the directory of compiled templates does nothing else. -/
theorem prepareStore_cases {store : Option Path}
    (h : (prepareStore c).perform w = (.ok store, w')) :
    w'.engines = w.engines ∧ w'.loads = w.loads ∧
      (store = none ∧ w'.files = w.files ∨
        store = some c.cacheDir ∧ w.files.isDirectory c.templateRoot = .ok true ∧
          w.files.makeDirectories c.cacheDir = .ok w'.files) := by
  rw [prepareStore, Stateful.perform_bind_ok (Stateful.perform_get w), Stateful.perform_bind,
    Act.perform_ofExcept] at h
  -- Without a root nothing is made, and a directory that cannot be made is done without.
  cases hroot : w.files.isDirectory c.templateRoot with
  | error f =>
      rw [hroot] at h
      cases h
  | ok b =>
      rw [hroot] at h
      cases b with
      | false =>
          cases h
          exact ⟨rfl, rfl, Or.inl ⟨rfl, rfl⟩⟩
      | true =>
          simp only [if_true] at h
          split at h
          · rename_i t hmake
            cases h
            exact ⟨rfl, rfl, Or.inr ⟨rfl, rfl, hmake⟩⟩
          · cases h
            exact ⟨rfl, rfl, Or.inl ⟨rfl, rfl⟩⟩
          · cases h

/-- Translations are only read. -/
theorem loadTranslations_cases (h : (loadTranslations c).perform w = (.ok tr, w')) :
    w'.engines = w.engines ∧ w'.loads = w.loads ∧ w'.files = w.files := by
  rw [loadTranslations, Stateful.perform_bind, Act.perform_ofExcept] at h
  cases hitems : c.languages.items with
  | error f =>
      rw [hitems] at h
      cases h
  | ok items =>
      rw [hitems] at h
      simp only at h
      rw [Stateful.perform_bind, Act.perform_ofExcept] at h
      cases hnames : languageNames c.languages with
      | error f =>
          rw [hnames] at h
          cases h
      | ok names =>
          rw [hnames] at h
          cases h
          exact ⟨rfl, rfl, rfl⟩

/-- What making an engine does to the world. -/
structure Created (c : Config) (x : Extensions) (w w' : World) (id : EngineId) (e : Engine) :
    Prop where
  id : id = w.engines.length
  engines : w'.engines = w.engines ++ [e]
  loads : w'.loads = w.loads
  config : e.config = c
  extensions : e.extensions = x
  memory : e.memory = []
  translations : e.extensions.any = false → e.translations = []
  store : e.store = none ∧ w'.files = w.files ∨
    e.store = some c.cacheDir ∧ w.files.isDirectory c.templateRoot = .ok true ∧
      w.files.makeDirectories c.cacheDir = .ok w'.files

theorem chooseTranslations_cases {given : Option Translations}
    (h : (chooseTranslations c x given).perform w = (.ok tr, w')) :
    (w'.engines = w.engines ∧ w'.loads = w.loads ∧ w'.files = w.files) ∧
      (x.any = false → tr = []) ∧ ∀ t, given = some t → x.any = true → tr = t := by
  unfold chooseTranslations at h
  split at h
  · rename_i hany
    have hnot : x.any ≠ false := by rw [hany]; decide
    cases given with
    | some t =>
        cases h
        refine ⟨⟨rfl, rfl, rfl⟩, fun h => absurd h hnot, ?_⟩
        rintro _ ⟨rfl⟩ -
        rfl
    | none =>
        exact ⟨loadTranslations_cases h, fun h => absurd h hnot, fun _ h => (nomatch h)⟩
  · rename_i hany
    cases h
    exact ⟨⟨rfl, rfl, rfl⟩, fun _ => rfl, fun _ _ h => absurd h hany⟩

theorem create_cases {extensions : Option Extensions} {translations : Option Translations}
    (h : (create c extensions translations).perform w = (.ok id, w')) :
    ∃ e, Created c (extensions.getD (defaultExtensions c)) w w' id e ∧
      ∀ t, translations = some t → e.extensions.any = true → e.translations = t := by
  rw [create] at h
  -- First the directory, then the translations, and the engine in the end.
  rcases Stateful.exists_of_perform_bind h with ⟨store, w₁, hstore, h⟩
  rcases prepareStore_cases hstore with ⟨hengines, hloads, hfiles⟩
  rcases Stateful.exists_of_perform_bind h with ⟨tr, w₂, htr, h⟩
  rcases chooseTranslations_cases htr with ⟨⟨hengines', hloads', hfiles'⟩, hnone, hgiven⟩
  rw [Stateful.perform_bind_ok (Act.perform_log _ _ _ _ w₂),
    Stateful.perform_bind_ok (Stateful.perform_get _)] at h
  cases h
  refine ⟨⟨c, extensions.getD (defaultExtensions c), tr, store, []⟩,
    ⟨?_, ?_, ?_, rfl, rfl, rfl, hnone, ?_⟩, hgiven⟩
  · show w₂.engines.length = _
    rw [hengines', hengines]
  · show w₂.engines ++ _ = _
    rw [hengines', hengines]
  · show w₂.loads = _
    rw [hloads', hloads]
  · show _ ∧ w₂.files = _ ∨ _ ∧ _ ∧ _ = Except.ok w₂.files
    rw [hfiles']
    exact hfiles

theorem Created.engine? {e : Engine} (h : Created c x w w' id e) : w'.engine? id = some e := by
  rw [World.engine?, h.engines, h.id, List.getElem?_concat_length]

/-- Making an engine only adds directories. -/
theorem Created.grown {e : Engine} (h : Created c x w w' id e) (hw : Tidy w.files) :
    Grown w.files w'.files := by
  rcases h.store with ⟨-, hfiles⟩ | ⟨-, -, hmake⟩
  · rw [hfiles]
    exact .refl hw
  · exact Files.makeDirectories_grown hw hmake

/-- A new engine has its directory in place. -/
theorem Created.serves {e : Engine} (h : Created c x w w' id e) (hw : Tidy w.files) :
    Serves c x w'.files e := by
  refine ⟨h.config, h.extensions, fun dir hdir => ?_⟩
  rcases h.store with ⟨hnone, -⟩ | ⟨hsome, -, hmake⟩
  · rw [hnone] at hdir
    cases hdir
  · rw [hsome] at hdir
    cases hdir
    exact ⟨rfl, Files.isDirectory_makeDirectories hw hmake⟩

/-- A new engine is in place, and its memory is empty. -/
theorem Created.running {e : Engine} (h : Created c x w w' id e) (hw : Sound c x w.files) :
    Running c x e.translations id w' := by
  have hgrown := h.grown hw.tidy
  refine ⟨⟨hgrown.tidy, fun name file n f source body m hnode => ?_⟩, e, h.engine?,
    h.serves hw.tidy, rfl⟩
  -- Making the directory leaves alone what is kept in it.
  rw [hgrown.hidden _ (not_reachable_keptAt c name file)] at hnode
  exact hw.kept _ _ _ _ _ _ _ hnode

theorem Created.current {e : Engine} (h : Created c x w w' id e) (n : String) :
    Current c x id w' n := by
  intro e' l content hid hl
  obtain rfl := Option.some.inj (h.engine?.symm.trans hid)
  rw [h.memory] at hl
  cases hl

/-- What inclusions name are segments, none of which leads upwards. -/
theorem isSegment_of_includeSegments? {name : String} {segments : List String}
    (h : includeSegments? name = some segments) :
    (∀ s ∈ segments, Path.IsSegment s) ∧ ".." ∉ segments := by
  simp only [includeSegments?] at h
  split at h
  · cases h
  · rename_i hdots
    obtain rfl := Option.some.inj h
    rw [List.contains_iff_mem] at hdots
    refine ⟨fun s hs => ?_, fun hs => hdots (List.mem_filter.mp hs).1⟩
    -- A piece is left if it is neither empty nor a dot, and it was cut at slashes.
    rcases List.mem_filter.mp hs with ⟨hmem, hne⟩
    rcases List.mem_map.mp hmem with ⟨cs, hcs, rfl⟩
    rw [Bool.and_eq_true, bne_iff_ne, bne_iff_ne] at hne
    refine ⟨hne.1, hne.2, ?_⟩
    rw [String.toList_ofList]
    exact Path.not_mem_of_mem_splitOn hcs

/-- The directory that is made hides no file that inclusions may name, and adds none. -/
theorem Created.file? {e : Engine} (h : Created c x w w' id e) (hw : Tidy w.files) {n : String}
    {segments : List String} (hn : includeSegments? n = some segments) :
    w'.files.file? (includePath c segments) = w.files.file? (includePath c segments) := by
  rcases h.store with ⟨-, hfiles⟩ | ⟨-, hroot, -⟩
  · rw [hfiles]
  · -- If there is a directory there is a root, and inclusions do not lead out of it.
    have hs := isSegment_of_includeSegments? hn
    exact Files.file?_of_grown hw (h.grown hw) hroot hs.1 hs.2

theorem Created.fileOf? {e : Engine} (h : Created c x w w' id e) (hw : Tidy w.files)
    (n : String) : fileOf? c w'.files n = fileOf? c w.files n := by
  rw [Engine.fileOf?, Engine.fileOf?]
  cases hn : includeSegments? n with
  | none => rfl
  | some segments => exact h.file? hw hn

theorem Created.readAnew {e : Engine} (h : Created c x w w' id e) (hw : Tidy w.files)
    (n : String) : readAnew c x w'.files n = readAnew c x w.files n := by
  simp only [Engine.readAnew]
  cases hn : includeSegments? n with
  | none => rfl
  | some segments => simp only [h.file? hw hn]

/-- Rendering from two trees with the same templates is the same. -/
theorem renderAnew_congr {t t' : Files} (h : ∀ n, readAnew c x t n = readAnew c x t' n)
    (name : Value) (data : Bindings) :
    renderAnew c x tr t name data = renderAnew c x tr t' name data := by
  have hreach : reach c x t = reach c x t' := by
    funext n
    rw [reach, reach, h]
  simp only [renderAnew, loadAnew, anew, hreach]

/-- The result of an engine whose memory is right for the names that are reached. -/
theorem render_result (hw : Running c x tr id w) (name : Value) (data : Bindings)
    (hcur : ∀ n ∈ ((renderAnew c x tr w.files name data).perform []).2, Current c x id w n) :
    ((render id name data).perform w).1 =
      ((renderAnew c x tr w.files name data).perform []).1 := by
  have hresult := (render_simulates name data).result w [] hw (fun _ _ => rfl) hcur
  cases hr : ((render id name data).perform w).1 <;> rw [hr] at hresult <;> exact hresult

/-- A new engine renders from the files. -/
theorem Created.render {e : Engine} (h : Created c x w w' id e) (hw : Sound c x w.files)
    (name : Value) (data : Bindings) :
    ((render id name data).perform w').1 =
      ((renderAnew c x e.translations w.files name data).perform []).1 := by
  rw [render_result (h.running hw) name data fun n _ => h.current n,
    renderAnew_congr (h.readAnew hw.tidy)]

/-- Removing what is kept succeeds, and paths do not see it. -/
theorem clearStore_perform {e : Engine} (hw : Sound c x w.files) (he : Serves c x w.files e) :
    ∃ t, (clearStore e.store).perform w = (.ok (), { w with files := t }) ∧
      Agree w.files t ∧ Sound c x t := by
  cases hstore : e.store with
  | none => exact ⟨w.files, rfl, fun _ _ => rfl, hw⟩
  | some dir =>
      obtain ⟨rfl, hdir⟩ := he.store dir hstore
      rcases Files.isDirectory_iff.mp hdir with ⟨-, l, hl, hnode⟩
      obtain rfl := Files.locate_eq_place hl
      refine ⟨withoutStored w.files (place c.cacheDir), ?_, withoutStored_agree hw.tidy _,
        withoutStored_sound hw.tidy c x⟩
      simp only [clearStore]
      rw [Stateful.perform_bind_ok (Stateful.perform_get w)]
      simp only [Files.stat_of_locate hl hnode, hl]
      rfl

/-- Clearing an engine succeeds and leaves its memory empty. -/
theorem clear_worked (hw : Running c x tr id w) :
    ((clear id).perform w).1 = .ok () ∧ Worked c x id w ((clear id).perform w).2 ∧
      ∀ e, ((clear id).perform w).2.engine? id = some e → e.memory = [] := by
  rcases hw.engine with ⟨e, hid, he, -⟩
  have hlen : id < w.engines.length := (List.getElem?_eq_some_iff.mp hid).1
  -- The memory goes first, then what is kept in the directory.
  let w₁ : World := w.setEngine id { e with memory := [] }
  have hserves : Serves c x w₁.files e := he
  have hsound₁ : Sound c x w₁.files := hw.sound
  rcases clearStore_perform hsound₁ hserves with ⟨t, hstore, hagree, hsound⟩
  rw [clear, Stateful.perform_bind_ok (find_perform hid),
    Stateful.perform_bind_ok (Stateful.perform_modify _ w), Stateful.perform_bind_ok hstore]
  have hself : w₁.engine? id = some { e with memory := [] } := List.getElem?_set_self hlen
  refine ⟨rfl, ⟨hagree, hsound, Nat.le_refl _, fun j hj => List.getElem?_set_ne (Ne.symm hj),
    fun e' he' => ?_⟩, fun e' he' => ?_⟩
  · obtain rfl := Option.some.inj (hid.symm.trans he')
    exact ⟨[], hself, fun n l hl => (nomatch hl)⟩
  · obtain rfl := Option.some.inj (hself.symm.trans he')
    rfl

/-- Where an engine has its directory another one can be made. -/
theorem exists_create (hroot : w.files.isDirectory c.templateRoot = .ok true)
    (hdir : w.files.isDirectory c.cacheDir = .ok true) (x : Extensions) (tr : Translations) :
    ∃ id w', (create c (some x) (some tr)).perform w = (.ok id, w') := by
  -- The directory is there already, so making it succeeds.
  have hstore : (prepareStore c).perform w = (.ok (some c.cacheDir), w) := by
    rw [prepareStore, Stateful.perform_bind_ok (Stateful.perform_get w)]
    simp only [hroot]
    rw [Stateful.perform_bind_ok (Act.perform_ofExcept _ w), if_pos rfl,
      Files.makeDirectories_of_isDirectory hdir]
    rfl
  have htr : (chooseTranslations c x (some tr)).perform w =
      (.ok (if x.any then tr else []), w) := by
    unfold chooseTranslations
    split <;> rfl
  rw [create, Stateful.perform_bind_ok hstore]
  simp only [Option.getD_some]
  rw [Stateful.perform_bind_ok htr]
  exact ⟨_, _, rfl⟩

end Engine

end Stencil
