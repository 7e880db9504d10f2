import Stencil.Proofs.Relating
import Stencil.Proofs.Tree

/-!
# What an engine makes of the files

A template read anew is a function of the files alone. An engine rarely reads one anew:
it has its memory and the directory of compiled templates. This file says when the
detour makes no difference.

The directory is harmless for good. It keeps what was compiled with its source, so what
is found there for a text is what compiling the text gives, provided that every engine
that writes there compiles alike. The memory is another matter, since it goes by
modification times: what it keeps for a name is right if the file is gone, has another
time, or still compiles to it. Rendering reaches some names only, and if the memory is
right for those, it comes to what rendering from the files comes to. The names are
collected by rendering from the files, in the order in which they are reached.

## Main definitions

* `readAnew`: A template by the name that inclusions use, from the files.
* `Sound`: A tree in which what is kept for a configuration was compiled alike.
* `Serves`: An engine of a configuration with its directory in place.
* `Worked`: What an engine at work can change.
* `Current`: The memory of an engine is right for a name.
* `renderAnew`: Rendering from the files, with the names that it reaches.

## Theorems

* `stored?_sound`: What is found for a text is what compiling it gives.
* `loadContent_perform`: Loading from a file gives what compiling its text gives.
* `fetch_simulates`: Loading by name gives what reading anew gives.
* `render_simulates`: So does rendering, as far as the memory is right.
-/

namespace Stencil

namespace Engine

open Files (Agree Tidy Reachable place)

/-- The statements of a template whose file holds a content. -/
def compiled (c : Config) (x : Extensions) (name : String) (content : Content) :
    Except Fault (List Template.Stmt) := do
  Template.compile ⟨c.isStrict, name, x.tags⟩ (← content.chars)

/-- The file of a template by the name that inclusions use. -/
def fileOf? (c : Config) (t : Files) (name : String) : Option (Content × Nat) := do
  t.file? (includePath c (← includeSegments? name))

/-- A template by the name that inclusions use, from the files. -/
def readAnew (c : Config) (x : Extensions) (t : Files) (name : String) :
    Except Fault (List Template.Stmt) :=
  match includeSegments? name with
  | none => .error (.includeMissing name none)
  | some segments =>
    match t.file? (includePath c segments) with
    | none => .error (.includeMissing name (some c.templateRoot.text))
    | some (content, _) => compiled c x name content

theorem fileOf?_agree {t t' : Files} (h : Agree t t') (c : Config) (name : String) :
    fileOf? c t name = fileOf? c t' name := by
  rw [fileOf?, fileOf?]
  simp only [Files.agree_file? h]

theorem readAnew_agree {t t' : Files} (h : Agree t t') (c : Config) (x : Extensions)
    (name : String) : readAnew c x t name = readAnew c x t' name := by
  rw [readAnew, readAnew]
  simp only [Files.agree_file? h]

/-- Where the compiled template of a name and a file is kept, if it is. -/
def keptAt (c : Config) (name file : String) : Location :=
  place c.cacheDir ++ [storedName name file]

theorem mark_mem_storedName (name file : String) : '|' ∈ (storedName name file).toList := by
  simp [storedName]

/-- No path leads to what is kept in a directory. -/
theorem not_reachable_stored (l : Location) (name file : String) :
    ¬Reachable (l ++ [storedName name file]) := by
  intro h
  have hslash : '/' ∈ (storedName name file).toList := by simp [storedName]
  have hlast : storedName name file ∈ l ++ [storedName name file] :=
    List.mem_append_right _ (List.mem_singleton_self _)
  -- The name has a slash and a mark in it, and only the root may have a slash.
  have hroot := h (storedName name file) hlast hslash
  have hmark := mark_mem_storedName name file
  rw [hroot] at hmark
  exact absurd hmark (by decide)

theorem not_reachable_keptAt (c : Config) (name file : String) :
    ¬Reachable (keptAt c name file) := not_reachable_stored _ name file

theorem up_keptAt (c : Config) (name file : String) :
    Files.up (keptAt c name file) = place c.cacheDir := by
  have hmark := mark_mem_storedName name file
  -- The mark in the name tells it from the two names that are special.
  apply Files.up_concat
  · intro h
    rw [h] at hmark
    exact absurd hmark (by decide)
  · intro h
    have hlast := congrArg List.getLast? h
    simp only [List.getLast?_append, List.getLast?_singleton, Option.some_or,
      Option.some.injEq] at hlast
    rw [hlast] at hmark
    exact absurd hmark (by decide)

/-- A tree in which what is kept for a configuration was compiled as its engines with
    these extensions compile. -/
structure Sound (c : Config) (x : Extensions) (t : Files) : Prop where
  tidy : Tidy t
  kept : ∀ name file n f source body m,
    t.node? (keptAt c name file) = some (.file (.compiled n f source body) m) →
    Template.compile ⟨c.isStrict, n, x.tags⟩ source.toList = .ok body

/-- An engine of a configuration, whose directory of compiled templates is in place. -/
structure Serves (c : Config) (x : Extensions) (t : Files) (e : Engine) : Prop where
  config : e.config = c
  extensions : e.extensions = x
  store : ∀ dir, e.store = some dir →
    dir = c.cacheDir ∧ t.isDirectory c.cacheDir = .ok true

variable {c : Config} {x : Extensions}

theorem Serves.mono {t t' : Files} {e : Engine}
    (h : ∀ l, t.node? l = some .directory → t'.node? l = some .directory)
    (he : Serves c x t e) : Serves c x t' e :=
  ⟨he.config, he.extensions, fun dir hdir =>
    ⟨(he.store dir hdir).1, Files.isDirectory_mono h (he.store dir hdir).2⟩⟩

theorem Serves.agree {t t' : Files} {e : Engine} (h : Agree t t') (he : Serves c x t e) :
    Serves c x t' e :=
  ⟨he.config, he.extensions, fun dir hdir =>
    ⟨(he.store dir hdir).1, (Files.agree_asks h _ _).symm.trans (he.store dir hdir).2⟩⟩

/-- What is found for a text is kept for it. -/
theorem node?_of_stored? {t : Files} {e : Engine} (he : Serves c x t e)
    {name file text : String} {body : List Template.Stmt}
    (h : stored? t e.store name file text = some body) :
    ∃ m, t.node? (keptAt c name file) = some (.file (.compiled name file text body) m) := by
  cases hstore : e.store with
  | none =>
      rw [hstore] at h
      cases h
  | some dir =>
      rw [hstore] at h
      obtain ⟨rfl, -⟩ := he.store dir hstore
      simp only [stored?, storedAt?, Option.bind_eq_bind, Option.bind_some] at h
      cases hl : t.locate c.cacheDir with
      | error r =>
          rw [hl] at h
          cases h
      | ok l =>
          -- The directory is where its place is, so what is found is what is kept.
          obtain rfl := Files.locate_eq_place hl
          rw [hl] at h
          simp only [Option.bind_some] at h
          split at h
          · rename_i n f source b m hnode
            split at h
            · rename_i heq
              obtain ⟨rfl, rfl, rfl⟩ := heq
              obtain rfl := Option.some.inj h
              exact ⟨m, hnode⟩
            · cases h
          · cases h

/-- What is found for a text is what compiling it gives. -/
theorem stored?_sound {t : Files} {e : Engine} (ht : Sound c x t) (he : Serves c x t e)
    {name file text : String} {body : List Template.Stmt}
    (h : stored? t e.store name file text = some body) :
    Template.compile ⟨c.isStrict, name, x.tags⟩ text.toList = .ok body := by
  obtain ⟨m, hnode⟩ := node?_of_stored? he h
  exact ht.kept _ _ _ _ _ _ _ hnode

/-- What is kept is at one location, which held no directory. -/
theorem node?_put_keptAt {t : Files} (ht : Tidy t) (name file : String) (n : Node)
    (k : Location) : (t.put (keptAt c name file) n).node? k =
      if k = keptAt c name file then some n else t.node? k :=
  Files.node?_put_eq n (fun h => not_reachable_keptAt c name file (ht.named _ h)) k

/-- Keeping something leaves a tree tidy. -/
theorem put_tidy {t : Files} (ht : Tidy t) (hdir : t.isDirectory c.cacheDir = .ok true)
    {name file source : String} {body : List Template.Stmt} {m : Nat} :
    Tidy (t.put (keptAt c name file) (.file (.compiled name file source body) m)) := by
  have hhidden := not_reachable_keptAt c name file
  rcases Files.isDirectory_iff.mp hdir with ⟨-, l, hl, hplace⟩
  rw [Files.locate_eq_place hl] at hplace
  -- Nothing that a path can name is where templates are kept, so no directory is replaced.
  have hne : ∀ {k}, t.node? k = some .directory → k ≠ keptAt c name file := by
    rintro k hk rfl
    exact hhidden (ht.named _ hk)
  have hnode := node?_put_keptAt (c := c) ht name file (.file (.compiled name file source body) m)
  refine ⟨?_, ?_, ?_⟩
  · intro k hk
    have hup : t.node? (Files.up k) = some .directory := by
      rw [hnode] at hk
      split at hk
      · rename_i hkl
        rw [hkl, up_keptAt]
        exact hplace
      · exact ht.parent k hk
    rw [hnode, if_neg (hne hup)]
    exact hup
  · intro k n hk hn
    rw [hnode, if_neg (by rintro rfl; exact hhidden hk)] at hn
    exact ht.plain k n hk hn
  · intro k hk
    rw [hnode] at hk
    split at hk
    · cases hk
    · exact ht.named k hk

/-- Keeping what was compiled alike keeps a tree sound. -/
theorem put_sound {t : Files} (ht : Sound c x t) (hdir : t.isDirectory c.cacheDir = .ok true)
    {name file source : String} {body : List Template.Stmt} {m : Nat}
    (hbody : Template.compile ⟨c.isStrict, name, x.tags⟩ source.toList = .ok body) :
    Sound c x (t.put (keptAt c name file) (.file (.compiled name file source body) m)) := by
  refine ⟨put_tidy ht.tidy hdir, fun name' file' n f source' body' m' hkept => ?_⟩
  rw [node?_put_keptAt ht.tidy] at hkept
  split at hkept
  · cases hkept
    exact hbody
  · exact ht.kept _ _ _ _ _ _ _ hkept

/-- A tree in which a compiled template is kept, if there is a directory for it. -/
def keepIn (c : Config) (store : Option Path) (t : Files) (name file source : String)
    (body : List Template.Stmt) (m : Nat) : Files :=
  match store with
  | none => t
  | some _ => t.put (keptAt c name file) (.file (.compiled name file source body) m)

/-- Keeping a compiled template succeeds where the directory is in place. -/
theorem keepStored_eq {w : World} {e : Engine} (he : Serves c x w.files e)
    (name file source : String) (body : List Template.Stmt) :
    (keepStored e.store name file source body).perform w =
      (.ok (), { w with files := keepIn c e.store w.files name file source body w.clock }) := by
  cases hstore : e.store with
  | none => rfl
  | some dir =>
      obtain ⟨rfl, hdir⟩ := he.store dir hstore
      rcases Files.isDirectory_iff.mp hdir with ⟨-, l, hl, -⟩
      obtain rfl := Files.locate_eq_place hl
      -- The directory is in place, so there is a location to keep it at.
      have hat : storedAt? w.files (some c.cacheDir) name file = some (keptAt c name file) := by
        simp only [storedAt?, Option.bind_eq_bind, Option.bind_some, hl]
        rfl
      simp only [keepStored]
      rw [Stateful.perform_bind_ok (Stateful.perform_get w)]
      simp only [hat, hdir]
      rfl

theorem keepIn_agree (t : Files) (store : Option Path) (name file source : String)
    (body : List Template.Stmt) (m : Nat) :
    Agree t (keepIn c store t name file source body m) := by
  cases store with
  | none => exact fun _ _ => rfl
  | some dir => exact (Files.put_agree _ _ (not_reachable_keptAt c name file)).symm

/-- Keeping a compiled template succeeds, and paths do not see it. -/
theorem keepStored_perform {w : World} {e : Engine} (hw : Sound c x w.files)
    (he : Serves c x w.files e) {name source : String} (file : String)
    {body : List Template.Stmt}
    (hbody : Template.compile ⟨c.isStrict, name, x.tags⟩ source.toList = .ok body) :
    ∃ t, (keepStored e.store name file source body).perform w = (.ok (), { w with files := t }) ∧
      Agree w.files t ∧ Sound c x t := by
  refine ⟨_, keepStored_eq he name file source body, keepIn_agree _ _ _ _ _ _ _, ?_⟩
  cases hstore : e.store with
  | none => exact hw
  | some dir =>
      obtain ⟨rfl, hdir⟩ := he.store dir hstore
      exact put_sound hw hdir hbody

/-- The world after a template was loaded from its file. -/
def afterLoad (w : World) (id : EngineId) (e : Engine) (t : Files) (name : String)
    (l : Loaded) : World :=
  ({ w with files := t, loads := w.loads + 1 }).setEngine id
    { e with memory := Memory.keep e.memory name l }

theorem keepLoaded_perform {w : World} {id : EngineId} {e : Engine} (hid : w.engine? id = some e)
    (t : Files) (name : String) (body : List Template.Stmt) (modified : Nat) :
    (keepLoaded id name body modified).perform { w with files := t } =
      (.ok ⟨body, modified, w.loads⟩, afterLoad w id e t name ⟨body, modified, w.loads⟩) := by
  have hnext : ({ w with files := t, loads := w.loads + 1 } : World).engine? id = some e := hid
  have hremember : (remember id name ⟨body, modified, w.loads⟩).perform
      { w with files := t, loads := w.loads + 1 } =
        (.ok (), afterLoad w id e t name ⟨body, modified, w.loads⟩) := by
    rw [remember, Stateful.perform_bind_ok (Stateful.perform_get _), hnext]
    rfl
  -- The template is numbered first and then remembered.
  rw [keepLoaded, Stateful.perform_bind_ok (Stateful.perform_get _),
    Stateful.perform_bind_ok (Stateful.perform_modify _ _),
    Stateful.perform_bind_ok hremember]
  rfl

/-- The statements of a text are what compiling it gives, and paths do not see what is
    kept for it. -/
theorem statements_perform {w : World} {e : Engine} (hw : Sound c x w.files)
    (he : Serves c x w.files e) (name file : String) (chars : List Char) :
    match Template.compile ⟨c.isStrict, name, x.tags⟩ chars with
    | .error f => (statements e name file chars).perform w = (.error f, w)
    | .ok body => ∃ t, Agree w.files t ∧ Sound c x t ∧
        (statements e name file chars).perform w = (.ok body, { w with files := t }) := by
  have hsettings : e.settings name = ⟨c.isStrict, name, x.tags⟩ := by
    rw [settings, he.config, he.extensions]
  simp only [statements]
  rw [Stateful.perform_bind_ok (Stateful.perform_get w), hsettings]
  cases hfound : stored? w.files e.store name file (String.ofList chars) with
  | some body =>
      -- What is found saves the compilation and makes no difference to the result.
      have hbody := stored?_sound hw he hfound
      rw [String.toList_ofList] at hbody
      rw [hbody]
      exact ⟨w.files, fun _ _ => rfl, hw, rfl⟩
  | none =>
      cases hbody : Template.compile ⟨c.isStrict, name, x.tags⟩ chars with
      | error f => rfl
      | ok body =>
          -- What was not found is compiled, and kept with the text it was compiled from.
          rw [← String.toList_ofList (l := chars)] at hbody
          rcases keepStored_perform hw he file hbody with ⟨t, hkeep, hagree, hsound⟩
          refine ⟨t, hagree, hsound, ?_⟩
          simp only
          rw [Stateful.perform_bind_ok (Act.perform_ofExcept _ w), Stateful.perform_bind_ok hkeep]
          rfl

/-- Loading from a file gives what compiling its text gives, and keeps it in the memory.
    If it fails nothing is kept. -/
theorem loadContent_perform {w : World} {id : EngineId} {e : Engine} (hw : Sound c x w.files)
    (hid : w.engine? id = some e) (he : Serves c x w.files e) (name : String) (path : Path)
    (content : Content) (modified : Nat) :
    match compiled c x name content with
    | .error f => (loadContent id e name path content modified).perform w = (.error f, w)
    | .ok body => ∃ t, Agree w.files t ∧ Sound c x t ∧
        (loadContent id e name path content modified).perform w =
          (.ok ⟨body, modified, w.loads⟩,
            afterLoad w id e t name ⟨body, modified, w.loads⟩) := by
  rw [compiled, loadContent]
  cases content.chars with
  | error f => rfl
  | ok chars =>
      rw [Stateful.perform_bind_ok (Act.perform_ofExcept _ w)]
      have hstatements := statements_perform hw he name (fileKey path) chars
      show match Template.compile ⟨c.isStrict, name, x.tags⟩ chars with
        | .error f => _ = _
        | .ok body => _
      cases hbody : Template.compile ⟨c.isStrict, name, x.tags⟩ chars with
      | error f =>
          rw [hbody] at hstatements
          exact Stateful.perform_bind_error hstatements _
      | ok body =>
          rw [hbody] at hstatements
          rcases hstatements with ⟨t, hagree, hsound, hperform⟩
          refine ⟨t, hagree, hsound, ?_⟩
          rw [Stateful.perform_bind_ok hperform]
          exact keepLoaded_perform hid t name body modified

/-- What an engine of a configuration can change when it works: what is kept, and its own
    memory, where a template is new only if its file compiled to it. -/
structure Worked (c : Config) (x : Extensions) (id : EngineId) (w w' : World) : Prop where
  agree : Agree w.files w'.files
  sound : Sound c x w'.files
  loads : w.loads ≤ w'.loads
  others : ∀ j, j ≠ id → w'.engine? j = w.engine? j
  own : ∀ e, w.engine? id = some e → ∃ memory, w'.engine? id = some { e with memory } ∧
    ∀ n l, Memory.find? memory n = some l → Memory.find? e.memory n = some l ∨
      w.loads ≤ l.serial ∧ l.serial < w'.loads ∧
        ∃ content, fileOf? c w.files n = some (content, l.modified) ∧
          compiled c x n content = .ok l.body

/-- An engine of a configuration with its translations, in a sound world. -/
structure Running (c : Config) (x : Extensions) (tr : Translations) (id : EngineId)
    (w : World) : Prop where
  sound : Sound c x w.files
  engine : ∃ e, w.engine? id = some e ∧ Serves c x w.files e ∧ e.translations = tr

/-- The memory of an engine is right for a name. -/
def Current (c : Config) (x : Extensions) (id : EngineId) (w : World) (n : String) : Prop :=
  ∀ e l content, w.engine? id = some e → Memory.find? e.memory n = some l →
    fileOf? c w.files n = some (content, l.modified) → compiled c x n content = .ok l.body

variable {tr : Translations} {id : EngineId} {w w' w'' : World}

theorem Worked.refl (hw : Sound c x w.files) : Worked c x id w w :=
  ⟨fun _ _ => rfl, hw, Nat.le_refl _, fun _ _ => rfl, fun e he =>
    ⟨e.memory, he, fun _ _ => Or.inl⟩⟩

theorem Worked.trans (h : Worked c x id w w') (h' : Worked c x id w' w'') :
    Worked c x id w w'' := by
  refine ⟨h.agree.trans h'.agree, h'.sound, Nat.le_trans h.loads h'.loads,
    fun j hj => (h'.others j hj).trans (h.others j hj), fun e he => ?_⟩
  rcases h.own e he with ⟨memory, he', hold⟩
  rcases h'.own _ he' with ⟨memory', he'', hold'⟩
  refine ⟨memory', he'', fun n l hl => ?_⟩
  -- A template in memory is old, or new by the first part, or new by the second, which read
  -- the same files.
  rcases hold' n l hl with hl | ⟨hge, hlt, content, hfile, hbody⟩
  · rcases hold n l hl with hl | ⟨hge, hlt, hnew⟩
    · exact Or.inl hl
    · exact Or.inr ⟨hge, Nat.lt_of_lt_of_le hlt h'.loads, hnew⟩
  · refine Or.inr ⟨Nat.le_trans h.loads hge, hlt, content, ?_, hbody⟩
    rw [fileOf?_agree h.agree]
    exact hfile

theorem Worked.running (h : Worked c x id w w') (hw : Running c x tr id w) :
    Running c x tr id w' := by
  rcases hw.engine with ⟨e, hid, he, htr⟩
  rcases h.own e hid with ⟨memory, hid', -⟩
  have hserves := he.agree h.agree
  exact ⟨h.sound, _, hid', ⟨hserves.config, hserves.extensions, hserves.store⟩, htr⟩

/-- Work leaves the memory right where it was right. -/
theorem Worked.current (h : Worked c x id w w') (hw : Running c x tr id w) {n : String}
    (hn : Current c x id w n) : Current c x id w' n := by
  intro e' l content hid' hl hfile
  rcases hw.engine with ⟨e, hid, -, -⟩
  rcases h.own e hid with ⟨memory, hid₂, hold⟩
  obtain rfl := Option.some.inj (hid₂.symm.trans hid')
  rw [← fileOf?_agree h.agree] at hfile
  -- What was kept is right by assumption, what is new was compiled from the file.
  rcases hold n l hl with hl | ⟨-, -, content', hfile', hbody⟩
  · exact hn e l content hid hl hfile
  · rw [hfile] at hfile'
    cases hfile'
    exact hbody

/-- The world after loading is one that the engine worked on. -/
theorem afterLoad_worked {e : Engine} (hid : w.engine? id = some e) {t : Files}
    (ht : Agree w.files t) (hsound : Sound c x t) {name : String} {content : Content}
    {modified : Nat} {body : List Template.Stmt}
    (hfile : fileOf? c w.files name = some (content, modified))
    (hbody : compiled c x name content = .ok body) :
    Worked c x id w (afterLoad w id e t name ⟨body, modified, w.loads⟩) := by
  have hlen : id < w.engines.length := (List.getElem?_eq_some_iff.mp hid).1
  refine ⟨ht, hsound, Nat.le_succ _, fun j hj => ?_, fun e' he' => ?_⟩
  · exact List.getElem?_set_ne (Ne.symm hj)
  · obtain rfl := Option.some.inj (hid.symm.trans he')
    refine ⟨_, List.getElem?_set_self hlen, fun n l hl => ?_⟩
    -- Only the name that was loaded has something new in memory.
    by_cases hn : n = name
    · subst hn
      rw [Memory.find?_keep_self] at hl
      obtain rfl := Option.some.inj hl
      exact Or.inr ⟨Nat.le_refl _, Nat.lt_succ_self _, content, hfile, hbody⟩
    · rw [Memory.find?_keep_of_ne _ _ hn] at hl
      exact Or.inl hl

/-- An action of an engine does what an action on the names reached so far does, as far
    as the memory is right for the names that it reaches. -/
structure Simulates (c : Config) (x : Extensions) (tr : Translations) (id : EngineId)
    (base : Files) {α β : Type} (φ : α → β) (a : Act α) (b : Stateful (List String) β) :
    Prop where
  worked : ∀ w, Running c x tr id w → Worked c x id w (a.perform w).2
  grows : ∀ s, s ⊆ (b.perform s).2
  result : ∀ w s, Running c x tr id w → Agree base w.files →
    (∀ n ∈ (b.perform s).2, Current c x id w n) → (a.perform w).1.map φ = (b.perform s).1

namespace Simulates

variable {base : Files} {α β γ δ : Type}

theorem pure (φ : α → β) (y : α) :
    Simulates c x tr id base φ (Pure.pure y) (Pure.pure (φ y)) :=
  ⟨fun _ hw => .refl hw.sound, fun _ => List.Subset.refl _, fun _ _ _ _ _ => rfl⟩

theorem throw (φ : α → β) (f : Fault) :
    Simulates c x tr id base φ (MonadExcept.throw f) (MonadExcept.throw f) :=
  ⟨fun _ hw => .refl hw.sound, fun _ => List.Subset.refl _, fun _ _ _ _ _ => rfl⟩

/-- Simulations can be put after one another. -/
theorem bind {φ : α → β} {ψ : γ → δ} {a : Act α} {b : Stateful (List String) β}
    {f : α → Act γ} {g : β → Stateful (List String) δ}
    (h : Simulates c x tr id base φ a b) (hf : ∀ y, Simulates c x tr id base ψ (f y) (g (φ y)))
    (hg : ∀ z s, s ⊆ ((g z).perform s).2) :
    Simulates c x tr id base ψ (a >>= f) (b >>= g) := by
  refine ⟨fun w hw => ?_, fun s => ?_, fun w s hw hbase hcur => ?_⟩
  · have hwork := h.worked w hw
    rw [Stateful.perform_bind]
    cases ha : a.perform w with
    | mk r w' =>
        rw [ha] at hwork
        cases r with
        | error e => exact hwork
        | ok y => exact hwork.trans ((hf y).worked w' (hwork.running hw))
  · have hgrow := h.grows s
    rw [Stateful.perform_bind]
    cases hb : b.perform s with
    | mk r s' =>
        rw [hb] at hgrow
        cases r with
        | error e => exact hgrow
        | ok z => exact List.Subset.trans hgrow (hg z s')
  · have hwork := h.worked w hw
    have hresult := h.result w s hw hbase
    rw [Stateful.perform_bind] at hcur ⊢
    rw [Stateful.perform_bind]
    cases hb : b.perform s with
    | mk r s' =>
        rw [hb] at hcur hresult
        cases ha : a.perform w with
        | mk q w' =>
            rw [ha] at hwork hresult
            -- The second part starts where the first left, and what it reaches is still right.
            cases r with
            | error e =>
                cases q with
                | error e' => exact congrArg Except.error (Except.error.inj (hresult hcur))
                | ok y => exact nomatch hresult hcur
            | ok z =>
                have hres := hresult fun n hn => hcur n (hg z s' hn)
                cases q with
                | error e' => exact nomatch hres
                | ok y =>
                    obtain rfl : φ y = z := Except.ok.inj hres
                    exact (hf y).result w' s' (hwork.running hw) (hbase.trans hwork.agree)
                      fun n hn => hwork.current hw (hcur n hn)

theorem tryCatch {φ : α → β} {a : Act α} {b : Stateful (List String) β} {f : Fault → Act α}
    {g : Fault → Stateful (List String) β} (h : Simulates c x tr id base φ a b)
    (hf : ∀ e, Simulates c x tr id base φ (f e) (g e)) :
    Simulates c x tr id base φ (MonadExcept.tryCatch a f) (MonadExcept.tryCatch b g) := by
  refine ⟨fun w hw => ?_, fun s => ?_, fun w s hw hbase hcur => ?_⟩
  · have hwork := h.worked w hw
    rw [Stateful.perform_tryCatch]
    cases ha : a.perform w with
    | mk r w' =>
        rw [ha] at hwork
        cases r with
        | error e => exact hwork.trans ((hf e).worked w' (hwork.running hw))
        | ok y => exact hwork
  · have hgrow := h.grows s
    rw [Stateful.perform_tryCatch]
    cases hb : b.perform s with
    | mk r s' =>
        rw [hb] at hgrow
        cases r with
        | error e => exact List.Subset.trans hgrow ((hf e).grows s')
        | ok z => exact hgrow
  · have hwork := h.worked w hw
    have hresult := h.result w s hw hbase
    rw [Stateful.perform_tryCatch] at hcur ⊢
    rw [Stateful.perform_tryCatch]
    cases hb : b.perform s with
    | mk r s' =>
        rw [hb] at hcur hresult
        cases ha : a.perform w with
        | mk q w' =>
            rw [ha] at hwork hresult
            -- Both sides fail or neither does, because the results up to here are the same.
            cases r with
            | error e =>
                have hres := hresult fun n hn => hcur n ((hf e).grows s' hn)
                cases q with
                | ok y => exact nomatch hres
                | error e' =>
                    obtain rfl : e' = e := Except.error.inj hres
                    exact (hf e').result w' s' (hwork.running hw) (hbase.trans hwork.agree)
                      fun n hn => hwork.current hw (hcur n hn)
            | ok z =>
                cases q with
                | error e' => exact nomatch hresult hcur
                | ok y => exact congrArg Except.ok (Except.ok.inj (hresult hcur))

/-- Logging is seen by nobody. -/
theorem log (level : Level) (source name : String) (fields : Bindings) :
    Simulates c x tr id base (fun y => y) (Act.log level source name fields)
      (Pure.pure ()) :=
  ⟨fun _ hw => ⟨fun _ _ => rfl, hw.sound, Nat.le_refl _, fun _ _ => rfl, fun e he =>
    ⟨e.memory, he, fun _ _ => Or.inl⟩⟩, fun _ => List.Subset.refl _, fun _ _ _ _ _ => rfl⟩

/-- Simulation as a relation that rendering keeps. -/
def relation (c : Config) (x : Extensions) (tr : Translations) (id : EngineId) (base : Files) :
    Template.Relation Act (Stateful (List String)) where
  holds := Simulates c x tr id base fun y => y
  pure y := Simulates.pure (fun y => y) y
  bind h hf := h.bind hf fun z => (hf z).grows
  throw f := Simulates.throw (fun y => y) f
  tryCatch h hf := h.tryCatch hf

end Simulates

theorem readAnew_of_fileOf? {t : Files} {n : String} {content : Content} {m : Nat}
    (h : fileOf? c t n = some (content, m)) : readAnew c x t n = compiled c x n content := by
  rw [fileOf?] at h
  rcases Option.bind_eq_some_iff.mp h with ⟨segments, hsegments, hfile⟩
  simp only [readAnew, hsegments, hfile]

theorem find_perform {e : Engine} (hid : w.engine? id = some e) :
    (find id).perform w = (.ok e, w) := by
  rw [find, Stateful.perform_bind_ok (Stateful.perform_get w), hid]
  rfl

theorem find_missing (hid : w.engine? id = none) :
    (find id).perform w = (.error (.missingKey (.int id)), w) := by
  rw [find, Stateful.perform_bind_ok (Stateful.perform_get w), hid]
  rfl

/-- Loading by name takes what the memory has, or reads it. -/
theorem fetch_perform {e : Engine} (hid : w.engine? id = some e) (n : String) :
    (fetch id n).perform w =
      match e.remembered? w.files n with
      | some l => (.ok l, w)
      | none => (loadFresh id e n).perform w := by
  rw [fetch, Stateful.perform_bind_ok (find_perform hid),
    Stateful.perform_bind_ok (Stateful.perform_get w)]
  cases e.remembered? w.files n <;> rfl

/-- Reading a template gives what compiling its content gives and keeps it, or fails as
    reading anew does and keeps nothing. -/
theorem loadFresh_cases {e : Engine} (hw : Sound c x w.files) (hid : w.engine? id = some e)
    (he : Serves c x w.files e) (n : String) :
    (∃ t content m body, fileOf? c w.files n = some (content, m) ∧
      compiled c x n content = .ok body ∧ Agree w.files t ∧ Sound c x t ∧
      (loadFresh id e n).perform w =
        (.ok ⟨body, m, w.loads⟩, afterLoad w id e t n ⟨body, m, w.loads⟩)) ∨
    ∃ f, (loadFresh id e n).perform w = (.error f, w) ∧ readAnew c x w.files n = .error f := by
  simp only [loadFresh]
  -- The name may lead nowhere, to no file, or to one that does not compile.
  cases hsegments : includeSegments? n with
  | none => exact Or.inr ⟨_, rfl, by simp only [readAnew, hsegments]⟩
  | some segments =>
      simp only
      rw [Stateful.perform_bind_ok (Stateful.perform_get w), he.config]
      cases hfile : w.files.file? (includePath c segments) with
      | none => exact Or.inr ⟨_, rfl, by simp only [readAnew, hsegments, hfile]⟩
      | some r =>
          rcases r with ⟨content, m⟩
          have hof : fileOf? c w.files n = some (content, m) := by
            rw [fileOf?, hsegments]
            exact hfile
          have hload := loadContent_perform hw hid he n (includePath c segments) content m
          cases hbody : compiled c x n content with
          | error f =>
              rw [hbody] at hload
              exact Or.inr ⟨f, hload, (readAnew_of_fileOf? hof).trans hbody⟩
          | ok body =>
              rw [hbody] at hload
              rcases hload with ⟨t, ht, hsound, hload⟩
              exact Or.inl ⟨t, content, m, body, hof, hbody, ht, hsound, hload⟩

/-- Loading by name gives what the memory keeps at the time of the file or what compiling
    its content gives, and fails as reading anew does. -/
theorem fetch_cases {e : Engine} (hw : Sound c x w.files) (hid : w.engine? id = some e)
    (he : Serves c x w.files e) (n : String) :
    (∃ l content, ((fetch id n).perform w).1 = .ok l ∧
      fileOf? c w.files n = some (content, l.modified) ∧
      (Memory.find? e.memory n = some l ∨ compiled c x n content = .ok l.body) ∧
      Worked c x id w ((fetch id n).perform w).2) ∨
    ∃ f, (fetch id n).perform w = (.error f, w) ∧ readAnew c x w.files n = .error f := by
  rw [fetch_perform hid]
  cases hmem : e.remembered? w.files n with
  | some l =>
      left
      -- Something is taken from memory only at the time that the file has.
      rcases Option.bind_eq_some_iff.mp hmem with ⟨l', hl, hmem⟩
      rcases Option.bind_eq_some_iff.mp hmem with ⟨segments, hsegments, hmem⟩
      rcases Option.bind_eq_some_iff.mp hmem with ⟨⟨content, m⟩, hfile, hmem⟩
      simp only at hmem
      split at hmem
      · rename_i hm
        obtain rfl := Option.some.inj hmem
        refine ⟨l', content, rfl, ?_, Or.inl hl, .refl hw⟩
        rw [fileOf?, hsegments, ← hm, ← he.config]
        exact hfile
      · cases hmem
  | none =>
      -- Otherwise it is read.
      rcases loadFresh_cases hw hid he n with
        ⟨t, content, m, body, hof, hbody, ht, hsound, hload⟩ | hfails
      · refine Or.inl ⟨⟨body, m, w.loads⟩, content, congrArg Prod.fst hload, hof, Or.inr hbody, ?_⟩
        simp only [hload]
        exact afterLoad_worked hid ht hsound hof hbody
      · exact Or.inr hfails

/-- Reaches a name: notes it, and reads its template anew. -/
def reach (c : Config) (x : Extensions) (base : Files) (n : String) :
    Stateful (List String) (List Template.Stmt) := do
  modify (n :: ·)
  Template.lift (readAnew c x base n)

/-- What rendering depends on when it renders from the files. -/
def anew (c : Config) (x : Extensions) (tr : Translations) (base : Files) :
    Template.Renderer (Stateful (List String)) where
  load n := do return ⟨n, ← reach c x base n⟩
  strict := c.isStrict
  globals := x.globals
  translations := tr
  transFilter := x.own

/-- The fault that a fault of loading is reported by. -/
def loadingFault (path : Path) (f : Fault) : Fault :=
  match f with
  | .includeMissing .. => .templateMissing path.text (some f)
  | .markupSyntax _ => .rendering f
  | f => f

/-- The fault that a fault of rendering is reported by. -/
def renderingFault (f : Fault) : Fault := if f.isOrdinary then .rendering f else f

/-- Loads the template of a name from the files. -/
def loadAnew (c : Config) (x : Extensions) (base : Files) (name : Value) :
    Stateful (List String) (String × List Template.Stmt) := do
  let (path, inner) ← Template.lift (innerName c name)
  let body ← tryCatch (reach c x base inner) fun f => throw (loadingFault path f)
  return (inner, body)

/-- Renders the template of a name over data from the files, and notes the names that it
    reaches. -/
def renderAnew (c : Config) (x : Extensions) (tr : Translations) (base : Files)
    (name : Value) (data : Bindings) : Stateful (List String) String := do
  let (inner, body) ← loadAnew c x base name
  tryCatch (Template.render (anew c x tr base) ⟨inner, body⟩ data) fun f =>
    throw (renderingFault f)

theorem reach_perform (c : Config) (x : Extensions) (base : Files) (n : String)
    (s : List String) : (reach c x base n).perform s = (readAnew c x base n, n :: s) := by
  rw [reach, Stateful.perform_bind_ok (Stateful.perform_modify _ s)]
  cases readAnew c x base n <;> rfl

variable {base : Files}

/-- Loading by name gives what reading anew gives, if the memory is right for the name. -/
theorem fetch_simulates (n : String) :
    Simulates c x tr id base (fun l : Loaded => l.body) (fetch id n) (reach c x base n) := by
  refine ⟨fun w hw => ?_, fun s => ?_, fun w s hw hbase hcur => ?_⟩
  · rcases hw.engine with ⟨e, hid, he, -⟩
    rcases fetch_cases hw.sound hid he n with ⟨l, content, -, -, -, hwork⟩ | ⟨f, hf, -⟩
    · exact hwork
    · rw [hf]
      exact .refl hw.sound
  · rw [reach_perform]
    exact List.subset_cons_self _ _
  · rw [reach_perform] at hcur ⊢
    rw [readAnew_agree hbase]
    rcases hw.engine with ⟨e, hid, he, -⟩
    rcases fetch_cases hw.sound hid he n with ⟨l, content, hl, hfile, hbody, -⟩ | ⟨f, hf, hanew⟩
    · rw [hl, readAnew_of_fileOf? hfile]
      -- From memory it is right by assumption, else it was compiled from the file.
      rcases hbody with hmem | hbody
      · exact (hcur n List.mem_cons_self e l content hid hmem hfile).symm
      · exact hbody.symm
    · rw [hf, hanew]
      rfl

/-- Looking an engine up changes nothing, and what it is known by stays. -/
theorem find_simulates {α β : Type} {φ : α → β} {k : Engine → Act α}
    {b : Stateful (List String) β}
    (h : ∀ e, e.config = c → e.extensions = x → e.translations = tr →
      Simulates c x tr id base φ (k e) b) :
    Simulates c x tr id base φ (find id >>= k) b := by
  refine ⟨fun w hw => ?_, ?_, fun w s hw hbase hcur => ?_⟩
  · rcases hw.engine with ⟨e, hid, he, htr⟩
    rw [Stateful.perform_bind_ok (find_perform hid)]
    exact (h e he.config he.extensions htr).worked w hw
  · exact (h ⟨c, x, tr, none, []⟩ rfl rfl rfl).grows
  · rcases hw.engine with ⟨e, hid, he, htr⟩
    rw [Stateful.perform_bind_ok (find_perform hid)]
    exact (h e he.config he.extensions htr).result w s hw hbase hcur

theorem log_simulates {α β : Type} {φ : α → β} (level : Level) (source name : String)
    (fields : Bindings) {k : Act α} {b : Stateful (List String) β}
    (h : Simulates c x tr id base φ k b) :
    Simulates c x tr id base φ (do Act.log level source name fields; k) b := by
  have hbind := (Simulates.log (c := c) level source name fields).bind (fun _ => h)
    fun _ => h.grows
  rwa [pure_bind] at hbind

theorem reportLoading_simulates (name : Value) (path : Path) (f : Fault) :
    Simulates c x tr id base (fun l : Loaded => l.body) (reportLoading name path f)
      (throw (loadingFault path f)) := by
  -- Two kinds of faults are reported in other words, the rest as they are.
  cases f with
  | includeMissing n searched => exact Simulates.throw _ _
  | markupSyntax line => exact log_simulates _ _ _ _ (Simulates.throw _ _)
  | _ => exact Simulates.throw _ _

theorem reportRendering_simulates (name : Value) (f : Fault) :
    Simulates c x tr id base (fun y => y) (reportRendering name f)
      (throw (renderingFault f)) := by
  unfold reportRendering renderingFault
  split
  · exact log_simulates _ _ _ _ (Simulates.throw _ _)
  · exact Simulates.throw _ _

theorem load_simulates (name : Value) :
    Simulates c x tr id base (fun r : String × Loaded => (r.1, r.2.body)) (load id name)
      (loadAnew c x base name) := by
  refine find_simulates fun e hc _ _ => ?_
  rw [hc, loadAnew]
  cases innerName c name with
  | error f => exact Simulates.throw _ f
  | ok r =>
      -- What is reported of a failed load depends on its fault only.
      have hload : Simulates c x tr id base (fun l : Loaded => l.body)
          (tryCatch (fetch id r.2) (reportLoading name r.1))
          (tryCatch (reach c x base r.2) fun f => throw (loadingFault r.1 f)) :=
        (fetch_simulates r.2).tryCatch fun f => reportLoading_simulates name r.1 f
      exact hload.bind (g := fun body => pure (r.2, body)) (fun l => Simulates.pure _ (r.2, l))
        fun body s => List.Subset.refl _

/-- The loads of two renderers that differ only in how they come by templates. -/
theorem renderer_simulates {e : Engine} (hc : e.config = c) (hx : e.extensions = x)
    (htr : e.translations = tr) :
    (Simulates.relation c x tr id base).Renderers (renderer id e) (anew c x tr base) := by
  subst hc hx htr
  refine ⟨fun n => ?_, rfl, rfl, rfl, rfl⟩
  exact (fetch_simulates n).bind (g := fun body => pure (⟨n, body⟩ : Template.Program))
    (fun l => Simulates.pure _ _) fun body s => List.Subset.refl _

/-- Rendering by an engine gives what rendering from the files gives, if its memory is
    right for the names that this reaches. -/
theorem render_simulates (name : Value) (data : Bindings) :
    Simulates c x tr id base (fun y => y) (render id name data)
      (renderAnew c x tr base name data) := by
  have hrest : ∀ e : Engine, e.config = c → e.extensions = x → e.translations = tr →
      ∀ q : Template.Program, Simulates c x tr id base (fun y => y)
        (tryCatch (Template.render (renderer id e) q data) (reportRendering name))
        (tryCatch (Template.render (anew c x tr base) q data) fun f => throw (renderingFault f)) :=
    fun e hc hx htr q =>
      Simulates.tryCatch (Template.Relation.render (renderer_simulates hc hx htr) q data)
        fun f => reportRendering_simulates name f
  refine (load_simulates name).bind (fun r => ?_) fun r s => ?_
  · exact find_simulates fun e hc hx htr =>
      log_simulates _ _ _ _ (hrest e hc hx htr ⟨r.1, r.2.body⟩)
  · exact (hrest ⟨c, x, tr, none, []⟩ rfl rfl rfl ⟨r.1, r.2⟩).grows s

/-- Rendering changes nothing but what engines at work change. -/
theorem render_worked (hw : Running c x tr id w) (name : Value) (data : Bindings) :
    Worked c x id w ((render id name data).perform w).2 := by
  have hsim : Simulates c x tr id w.files (fun y => y) (render id name data)
      (renderAnew c x tr w.files name data) := render_simulates name data
  exact hsim.worked w hw

end Engine

end Stencil
