import Stencil.Proofs.Building
import Stencil.Proofs.Logging

/-!
# Work that does not show

An engine that renders changes its memory and the directory of compiled templates. The next
render goes by these, so one might depend on the other. But it does not: what is new in the
memory or in the directory is what would have been read anyway, and what was in the memory
stays there as long as its file has the same time, right or wrong.

So what an engine has for a name now is all that counts of the past. It stays as it is
whatever engines of the same kind do that share the directory, as long as nobody touches the
files. New engines of that kind may be made as well, if the directory is in place.

## Main definitions

* `readNow`: What an engine has for a name now.
* `Steady`: A world in which an engine has the same for all names as in another one.
* `Gives`: An action has one result as long as an invariant holds, and keeps it.
* `renderReading`: Rendering from what is read for names.
* `Reads`: An engine that has one result for each name as long as an invariant holds.
* `Beside`: Such a world in which there is another engine of the kind as well.

## Theorems

* `Gives.bind`, `Gives.tryCatch`: Actions that are put together.
* `Reads.render`: Rendering then depends on these results only.
* `fetch_gives`, `render_gives`: What an engine loads and renders in such worlds.
* `Steady.other`, `Steady.created`: Other engines of the kind do not matter, nor does making one.
* `create_perform`: An engine that is made is the same each time.
-/

namespace Stencil

namespace Engine

open Files (Agree Tidy)

/-- What an engine has for a name now: the template in its memory, if the file is as it was
    when this was read, and else what the file compiles to. -/
def readNow (c : Config) (x : Extensions) (id : EngineId) (w : World) (n : String) :
    Except Fault (List Template.Stmt) :=
  match (w.engine? id).bind fun e => e.remembered? w.files n with
  | some l => .ok l.body
  | none => readAnew c x w.files n

/-- A world in which an engine runs and has the same for all names as in another one, with
    the same files. -/
structure Steady (c : Config) (x : Extensions) (tr : Translations) (id : EngineId)
    (base w : World) : Prop where
  running : Running c x tr id w
  agree : Agree base.files w.files
  reads : ∀ n, readNow c x id w n = readNow c x id base n

/-- An action has one result as long as an invariant holds, up to what is forgotten of the
    result, and keeps the invariant. -/
def Gives (I : World → Prop) {α β : Type} (φ : α → β) (a : Act α) (r : Except Fault β) : Prop :=
  ∀ w, I w → (a.perform w).1.map φ = r ∧ I (a.perform w).2

namespace Gives

variable {I : World → Prop} {α β γ δ : Type}

theorem pure (φ : α → β) (y : α) : Gives I φ (Pure.pure y) (.ok (φ y)) := fun _ hw => ⟨rfl, hw⟩

theorem throw (φ : α → β) (f : Fault) : Gives I φ (MonadExcept.throw f) (.error f) :=
  fun _ hw => ⟨rfl, hw⟩

theorem bind {φ : α → β} {ψ : γ → δ} {a : Act α} {r : Except Fault β} {f : α → Act γ}
    {g : β → Except Fault δ} (h : Gives I φ a r) (hf : ∀ y, Gives I ψ (f y) (g (φ y))) :
    Gives I ψ (a >>= f) (r >>= g) := by
  intro w hw
  have hpart := h w hw
  rw [Stateful.perform_bind]
  rcases ha : a.perform w with ⟨e | y, w'⟩
  · rw [ha] at hpart
    rcases hpart with ⟨rfl, hw'⟩
    exact ⟨rfl, hw'⟩
  · rw [ha] at hpart
    rcases hpart with ⟨rfl, hw'⟩
    exact hf y w' hw'

theorem tryCatch {φ : α → β} {a : Act α} {r : Except Fault β} {f : Fault → Act α}
    {g : Fault → Except Fault β} (h : Gives I φ a r) (hf : ∀ e, Gives I φ (f e) (g e)) :
    Gives I φ (MonadExcept.tryCatch a f) (MonadExcept.tryCatch r g) := by
  intro w hw
  have hpart := h w hw
  rw [Stateful.perform_tryCatch]
  rcases ha : a.perform w with ⟨e | y, w'⟩
  · rw [ha] at hpart
    rcases hpart with ⟨rfl, hw'⟩
    exact hf e w' hw'
  · rw [ha] at hpart
    rcases hpart with ⟨rfl, hw'⟩
    exact ⟨rfl, hw'⟩

/-- Logging does not matter to an invariant that does not look at the log. -/
theorem log (hlog : ∀ w w' : World, w.Logged w' → I w → I w') (level : Level)
    (source name : String) (fields : Bindings) {φ : α → β} {k : Act α} {r : Except Fault β}
    (h : Gives I φ k r) : Gives I φ (do Act.log level source name fields; k) r := by
  intro w hw
  rw [Stateful.perform_bind_ok (Act.perform_log _ _ _ _ w)]
  exact h _ (hlog w _ ⟨[_], rfl⟩ hw)

theorem result {a : Act α} {r : Except Fault α} (h : Gives I (fun y => y) a r) {w : World}
    (hw : I w) : (a.perform w).1 = r ∧ I (a.perform w).2 := by
  rcases h w hw with ⟨hresult, hw'⟩
  refine ⟨?_, hw'⟩
  cases hr : (a.perform w).1 <;> rw [hr] at hresult <;> exact hresult

theorem of_result {a : Act α} {r : Except Fault α}
    (h : ∀ w, I w → (a.perform w).1 = r ∧ I (a.perform w).2) : Gives I (fun y => y) a r := by
  intro w hw
  rcases h w hw with ⟨hresult, hw'⟩
  refine ⟨?_, hw'⟩
  rw [hresult]
  cases r <;> rfl

/-- Having one result as a relation that rendering keeps. -/
def relation (I : World → Prop) : Template.Relation Act (Except Fault) where
  holds := Gives I fun y => y
  pure y := Gives.pure (fun y => y) y
  bind h hf := h.bind hf
  throw f := Gives.throw (fun y => y) f
  tryCatch h hf := h.tryCatch hf

end Gives

variable {c : Config} {x : Extensions} {tr : Translations} {id id' : EngineId}
  {base w w' : World}

theorem Steady.refl (h : Running c x tr id w) : Steady c x tr id w w :=
  ⟨h, fun _ _ => rfl, fun _ => rfl⟩

theorem Steady.logged (h : Steady c x tr id base w) (hlog : w.Logged w') :
    Steady c x tr id base w' := by
  rcases hlog with ⟨es, rfl⟩
  exact ⟨⟨h.running.sound, h.running.engine⟩, h.agree, h.reads⟩

theorem remembered?_agree {t t' : Files} (h : Agree t t') (e : Engine) (n : String) :
    e.remembered? t n = e.remembered? t' n := by
  rw [remembered?, remembered?]
  simp only [Files.agree_file? h]

theorem readNow_of_engine {e : Engine} (hid : w.engine? id = some e) (n : String) :
    readNow c x id w n =
      match e.remembered? w.files n with
      | some l => .ok l.body
      | none => readAnew c x w.files n := by
  rw [readNow, hid, Option.bind_some]

/-- What is put into memory at the time of its file is remembered. -/
theorem remembered?_keep {e : Engine} (hc : e.config = c) {t : Files} {n : String}
    {content : Content} {l : Loaded} (hfile : fileOf? c t n = some (content, l.modified)) :
    ({ e with memory := Memory.keep e.memory n l } : Engine).remembered? t n = some l := by
  subst hc
  rcases Option.bind_eq_some_iff.mp hfile with ⟨segments, hsegments, hfile⟩
  simp only [remembered?, Memory.find?_keep_self, hsegments, Option.bind_eq_bind,
    Option.bind_some, hfile, if_true]

theorem remembered?_keep_of_ne (e : Engine) (t : Files) {m n : String} (l : Loaded) (h : m ≠ n) :
    ({ e with memory := Memory.keep e.memory n l } : Engine).remembered? t m =
      e.remembered? t m := by
  rw [remembered?, remembered?, Memory.find?_keep_of_ne _ _ h]

/-- What an engine has for names is not changed by loading one that it does not remember. -/
theorem readNow_afterLoad {e : Engine} (hid : w.engine? id = some e) (hc : e.config = c)
    {t : Files} (ht : Agree w.files t) {n : String} {content : Content} {modified : Nat}
    {body : List Template.Stmt} (hnone : e.remembered? w.files n = none)
    (hfile : fileOf? c w.files n = some (content, modified))
    (hbody : compiled c x n content = .ok body) (m : String) :
    readNow c x id (afterLoad w id e t n ⟨body, modified, w.loads⟩) m = readNow c x id w m := by
  have hlen : id < w.engines.length := (List.getElem?_eq_some_iff.mp hid).1
  have hself : (afterLoad w id e t n ⟨body, modified, w.loads⟩).engine? id =
      some { e with memory := Memory.keep e.memory n ⟨body, modified, w.loads⟩ } :=
    List.getElem?_set_self hlen
  have hfiles : (afterLoad w id e t n ⟨body, modified, w.loads⟩).files = t := rfl
  rw [readNow_of_engine hself, readNow_of_engine hid, hfiles, ← remembered?_agree ht,
    ← readAnew_agree ht]
  by_cases hm : m = n
  · -- What was loaded is remembered from now on, and it is what reading gave before.
    subst hm
    rw [remembered?_keep (l := ⟨body, modified, w.loads⟩) hc hfile, hnone,
      readAnew_of_fileOf? hfile, hbody]
  · rw [remembered?_keep_of_ne _ _ _ hm]

/-- Loading by name gives what the engine has for the name. -/
theorem fetch_gives (n : String) :
    Gives (Steady c x tr id base) (fun l : Loaded => l.body) (fetch id n)
      (readNow c x id base n) := by
  intro w hw
  rcases hw.running.engine with ⟨e, hid, he, htr⟩
  rw [fetch_perform hid, ← hw.reads, readNow_of_engine hid]
  cases hmem : e.remembered? w.files n with
  | some l => exact ⟨rfl, hw⟩
  | none =>
      rcases loadFresh_cases hw.running.sound hid he n with
        ⟨t, content, m, body, hof, hbody, ht, hsound, hload⟩ | ⟨f, hload, hanew⟩
      · have hwork := afterLoad_worked hid ht hsound hof hbody
        simp only [hload, readAnew_of_fileOf? hof, hbody]
        exact ⟨rfl, hwork.running hw.running, hw.agree.trans hwork.agree, fun k =>
          (readNow_afterLoad hid he.config ht hmem hof hbody k).trans (hw.reads k)⟩
      · simp only [hload, hanew]
        exact ⟨rfl, hw⟩

/-- What rendering depends on when it renders from what is read for names. -/
def reader (c : Config) (x : Extensions) (tr : Translations)
    (reading : String → Except Fault (List Template.Stmt)) :
    Template.Renderer (Except Fault) where
  load n := do return ⟨n, ← reading n⟩
  strict := c.isStrict
  globals := x.globals
  translations := tr
  transFilter := x.own

/-- Loads the template of a name from what is read for names. -/
def loadReading (c : Config) (reading : String → Except Fault (List Template.Stmt))
    (name : Value) : Except Fault (String × List Template.Stmt) := do
  let (path, inner) ← innerName c name
  let body ← tryCatch (reading inner) fun f => throw (loadingFault path f)
  return (inner, body)

/-- Renders the template of a name over data from what is read for names. -/
def renderReading (c : Config) (x : Extensions) (tr : Translations)
    (reading : String → Except Fault (List Template.Stmt)) (name : Value) (data : Bindings) :
    Except Fault String := do
  let (inner, body) ← loadReading c reading name
  tryCatch (Template.render (reader c x tr reading) ⟨inner, body⟩ data) fun f =>
    throw (renderingFault f)

/-- As long as an invariant holds, an engine is what it is known by, and has one result for
    each name. -/
structure Reads (I : World → Prop) (c : Config) (x : Extensions) (tr : Translations)
    (id : EngineId) (reading : String → Except Fault (List Template.Stmt)) : Prop where
  logged : ∀ w w' : World, w.Logged w' → I w → I w'
  engine : ∀ w, I w →
    ∃ e, w.engine? id = some e ∧ e.config = c ∧ e.extensions = x ∧ e.translations = tr
  fetch : ∀ n, Gives I (fun l : Loaded => l.body) (fetch id n) (reading n)

namespace Reads

variable {I : World → Prop} {reading : String → Except Fault (List Template.Stmt)}

/-- Looking an engine up changes nothing, and what it is known by stays. -/
theorem find (hI : Reads I c x tr id reading) {α β : Type} {φ : α → β} {k : Engine → Act α}
    {r : Except Fault β}
    (h : ∀ e, e.config = c → e.extensions = x → e.translations = tr → Gives I φ (k e) r) :
    Gives I φ (Engine.find id >>= k) r := by
  intro w hw
  rcases hI.engine w hw with ⟨e, hid, hc, hx, htr⟩
  rw [Stateful.perform_bind_ok (find_perform hid)]
  exact h e hc hx htr w hw

theorem reportLoading (hI : Reads I c x tr id reading) (name : Value) (path : Path) (f : Fault) :
    Gives I (fun l : Loaded => l.body) (Engine.reportLoading name path f)
      (.error (loadingFault path f)) := by
  -- Two kinds of faults are reported in other words, the rest as they are.
  cases f with
  | includeMissing n searched => exact .throw _ _
  | markupSyntax line => exact .log hI.logged _ _ _ _ (.throw _ _)
  | _ => exact .throw _ _

theorem reportRendering (hI : Reads I c x tr id reading) (name : Value) (f : Fault) :
    Gives I (fun y => y) (Engine.reportRendering name f) (.error (renderingFault f)) := by
  unfold Engine.reportRendering renderingFault
  split
  · exact .log hI.logged _ _ _ _ (.throw _ _)
  · exact .throw _ _

theorem load (hI : Reads I c x tr id reading) (name : Value) :
    Gives I (fun r : String × Loaded => (r.1, r.2.body)) (Engine.load id name)
      (loadReading c reading name) := by
  refine hI.find fun e hc _ _ => ?_
  rw [hc, loadReading]
  cases innerName c name with
  | error f => exact .throw _ f
  | ok r =>
      have hfetch : Gives I (fun l : Loaded => l.body)
          (tryCatch (Engine.fetch id r.2) (Engine.reportLoading name r.1))
          (tryCatch (reading r.2) fun f => throw (loadingFault r.1 f)) :=
        (hI.fetch r.2).tryCatch fun f => hI.reportLoading name r.1 f
      exact hfetch.bind (g := fun body => .ok (r.2, body)) fun l => .pure _ (r.2, l)

/-- Rendering by an engine gives what rendering from all that the engine has for names
    gives, and keeps the invariant. -/
theorem render (hI : Reads I c x tr id reading) (name : Value) (data : Bindings) :
    Gives I (fun y => y) (Engine.render id name data)
      (renderReading c x tr reading name data) := by
  refine (hI.load name).bind (g := fun r => tryCatch (Template.render
    (reader c x tr reading) ⟨r.1, r.2⟩ data) fun f => throw (renderingFault f))
    fun r => hI.find fun e hc hx htr => .log hI.logged _ _ _ _ ?_
  have hrenderers : (Gives.relation I).Renderers (renderer id e) (reader c x tr reading) := by
    subst hc hx htr
    refine ⟨fun n => ?_, rfl, rfl, rfl, rfl⟩
    exact (hI.fetch n).bind (g := fun body => .ok (⟨n, body⟩ : Template.Program))
      fun l => .pure _ _
  exact (Template.Relation.render hrenderers ⟨r.1, r.2.body⟩ data).tryCatch fun f =>
    hI.reportRendering name f

end Reads

theorem Steady.reads_now :
    Reads (Steady c x tr id base) c x tr id (readNow c x id base) where
  logged _ _ hlog hw := hw.logged hlog
  engine w hw := by
    rcases hw.running.engine with ⟨e, hid, he, htr⟩
    exact ⟨e, hid, he.config, he.extensions, htr⟩
  fetch := fetch_gives

/-- A steady engine renders from what it has for names. -/
theorem render_gives (name : Value) (data : Bindings) :
    Gives (Steady c x tr id base) (fun y => y) (render id name data)
      (renderReading c x tr (readNow c x id base) name data) :=
  Steady.reads_now.render name data

/-- A new engine that works beside the one that is steady. -/
structure Beside (c : Config) (x : Extensions) (tr tr' : Translations) (id id' : EngineId)
    (base w : World) : Prop where
  steady : Steady c x tr id base w
  running : Running c x tr' id' w
  current : ∀ n, Current c x id' w n

theorem Beside.logged {tr' : Translations} (h : Beside c x tr tr' id id' base w)
    (hlog : w.Logged w') : Beside c x tr tr' id id' base w' := by
  have hsteady := h.steady.logged hlog
  rcases hlog with ⟨es, rfl⟩
  exact ⟨hsteady, ⟨h.running.sound, h.running.engine⟩, h.current⟩

/-- What another engine of the kind does is not seen. -/
theorem Steady.other (h : Steady c x tr id base w) (hne : id ≠ id')
    (hwork : Worked c x id' w w') : Steady c x tr id base w' := by
  rcases h.running.engine with ⟨e, hid, he, htr⟩
  have hid' : w'.engine? id = some e := (hwork.others id hne).trans hid
  refine ⟨⟨hwork.sound, e, hid', he.agree hwork.agree, htr⟩, h.agree.trans hwork.agree,
    fun n => ?_⟩
  rw [← h.reads n, readNow_of_engine hid', readNow_of_engine hid, ← remembered?_agree hwork.agree,
    ← readAnew_agree hwork.agree]

/-- What a new engine renders is what rendering from the files gives. -/
theorem Beside.render_gives {tr' : Translations} (hne : id ≠ id') (name : Value)
    (data : Bindings) :
    Gives (Beside c x tr tr' id id' base) (fun y => y) (render id' name data)
      ((renderAnew c x tr' base.files name data).perform []).1 := by
  refine .of_result fun w hw => ?_
  have hwork := render_worked hw.running name data
  refine ⟨?_, hw.steady.other hne hwork, hwork.running hw.running,
    fun n => hwork.current hw.running (hw.current n)⟩
  rw [render_result hw.running name data fun n _ => hw.current n,
    renderAnew_congr fun n => (readAnew_agree hw.steady.agree c x n).symm]

/-- Nor is it seen that one is made. -/
theorem Steady.created {e : Engine} (h : Steady c x tr id base w)
    (hcreated : Created c x w w' id' e) (hfiles : w'.files = w.files) :
    Beside c x tr e.translations id id' base w' := by
  rcases h.running.engine with ⟨e', hid, he, htr⟩
  have hlen : id < w.engines.length := (List.getElem?_eq_some_iff.mp hid).1
  have hid' : w'.engine? id = some e' := by
    rw [World.engine?, hcreated.engines, List.getElem?_append_left hlen]
    exact hid
  refine ⟨⟨⟨hfiles ▸ h.running.sound, e', hid', hfiles ▸ he, htr⟩, hfiles ▸ h.agree, fun n => ?_⟩,
    hcreated.running h.running.sound, hcreated.current⟩
  rw [← h.reads n, readNow_of_engine hid', readNow_of_engine hid, hfiles]

/-- The translations of a configuration among the files. -/
def translationsIn (files : Files) (c : Config) : Except Fault Translations := do
  let _ ← c.languages.items
  let names ← languageNames c.languages
  return match c.localeDir with
    | some dir => catalogs files dir c.translationDomain.shown names
    | none => []

/-- Engines without extensions have no use for them. -/
def translationsFor (files : Files) (c : Config) (x : Extensions) : Except Fault Translations :=
  if x.any then translationsIn files c else .ok []

/-- What making an engine gives it to translate with. It fails if nothing can be said of the
    root, or if the languages are none. -/
def translationsMade (files : Files) (c : Config) (x : Extensions) :
    Except Fault Translations := do
  let _ ← files.isDirectory c.templateRoot
  translationsFor files c x

theorem translationsFor_agree {t t' : Files} (h : Agree t t') (c : Config) (x : Extensions) :
    translationsFor t c x = translationsFor t' c x := by
  have hcatalogs : ∀ dir domain names, catalogs t dir domain names =
      catalogs t' dir domain names := by
    intro dir domain names
    rw [catalogs, catalogs]
    simp only [Files.agree_file? h]
  simp only [translationsFor, translationsIn, hcatalogs]

theorem translationsMade_agree {t t' : Files} (h : Agree t t') (c : Config) (x : Extensions) :
    translationsMade t c x = translationsMade t' c x := by
  have hroot : t.isDirectory c.templateRoot = t'.isDirectory c.templateRoot :=
    Files.agree_asks h _ _
  rw [translationsMade, translationsMade, hroot, translationsFor_agree h]

theorem loadTranslations_perform (c : Config) (w : World) :
    ∃ w', w.Logged w' ∧ (loadTranslations c).perform w = (translationsIn w.files c, w') := by
  rw [loadTranslations, translationsIn, Stateful.perform_bind, Act.perform_ofExcept]
  cases c.languages.items with
  | error f => exact ⟨w, .refl w, rfl⟩
  | ok items =>
      simp only
      rw [Stateful.perform_bind, Act.perform_ofExcept]
      cases languageNames c.languages with
      | error f => exact ⟨w, .refl w, rfl⟩
      | ok names => exact ⟨_, ⟨[_], rfl⟩, rfl⟩

theorem chooseTranslations_perform (c : Config) (x : Extensions) (w : World) :
    ∃ w', w.Logged w' ∧
      (chooseTranslations c x none).perform w = (translationsFor w.files c x, w') := by
  unfold chooseTranslations translationsFor
  split
  · exact loadTranslations_perform c w
  · exact ⟨w, .refl w, rfl⟩

/-- Where the directory of compiled templates is in place, nothing is made. -/
theorem prepareStore_perform (hdir : w.files.isDirectory c.cacheDir = .ok true) :
    ∃ w', w.Logged w' ∧ (prepareStore c).perform w =
      ((w.files.isDirectory c.templateRoot).map fun b => if b then some c.cacheDir else none,
        w') := by
  rw [prepareStore, Stateful.perform_bind_ok (Stateful.perform_get w), Stateful.perform_bind,
    Act.perform_ofExcept]
  cases w.files.isDirectory c.templateRoot with
  | error f => exact ⟨w, .refl w, rfl⟩
  | ok b =>
      cases b with
      | false => exact ⟨_, ⟨[_], rfl⟩, rfl⟩
      | true =>
          simp only [if_true, Files.makeDirectories_of_isDirectory hdir]
          exact ⟨w, .refl w, rfl⟩

/-- Where the directory of compiled templates is in place, an engine that is made is the same
    each time, or fails to be made in the same way. -/
theorem create_perform (hdir : w.files.isDirectory c.cacheDir = .ok true) :
    match translationsMade w.files c (defaultExtensions c) with
    | .error f => ∃ w', w.Logged w' ∧ (create c none none).perform w = (.error f, w')
    | .ok tr => ∃ w' e, (create c none none).perform w = (.ok w.engines.length, w') ∧
        Created c (defaultExtensions c) w w' w.engines.length e ∧ w'.files = w.files ∧
        e.translations = tr := by
  rcases prepareStore_perform hdir with ⟨w₁, ⟨es, rfl⟩, hstore⟩
  rcases chooseTranslations_perform c (defaultExtensions c)
    { w with events := es ++ w.events } with ⟨w₂, hlog, htr⟩
  -- There is a store only if the root is a directory, which is asked first. The translations come
  -- after that.
  rw [create, Stateful.perform_bind, hstore, translationsMade]
  cases hroot : w.files.isDirectory c.templateRoot with
  | error f => exact ⟨_, ⟨es, rfl⟩, rfl⟩
  | ok b =>
      simp only [Except.map, Option.getD_none]
      rw [Stateful.perform_bind, htr]
      show match translationsFor w.files c (defaultExtensions c) with
        | .error f => _
        | .ok tr => _
      cases hr : translationsFor w.files c (defaultExtensions c) with
      | error f => exact ⟨w₂, .trans ⟨es, rfl⟩ hlog, rfl⟩
      | ok tr =>
          rcases hlog with ⟨es', rfl⟩
          refine ⟨_, ⟨c, defaultExtensions c, tr, if b then some c.cacheDir else none, []⟩, rfl,
            ⟨rfl, rfl, rfl, rfl, rfl, rfl, fun hany => ?_, ?_⟩, rfl, rfl⟩
          · rw [translationsFor, if_neg (by rw [hany]; decide)] at hr
            exact (Except.ok.inj hr).symm
          · cases b with
            | false => exact .inl ⟨rfl, rfl⟩
            | true => exact .inr ⟨rfl, hroot, Files.makeDirectories_of_isDirectory hdir⟩

end Engine

end Stencil
