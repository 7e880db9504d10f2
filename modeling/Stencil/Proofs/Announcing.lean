import Stencil.Proofs.Unraised

/-!
# Faults that the log tells of

Whoever reads the log is to find there what went wrong. An action only adds to the log. Here it
is said of one that it tells there of every fault of the library with which it fails, by an event
that is a warning or graver, but for faults of some kinds. Faults that are raised by name are
left out, and so are those that the library only lets through.

Putting actions together keeps this, and most places that catch a fault to make another one of it
tell of it themselves. So it is enough to look at each place that raises one. Of those of
settings, names and templates three do not tell: a name that is refused, a template that is gone
when it is loaded, and settings that no configuration can be built from.

## Main definitions

* `Fault.OfLibrary`: The library has raised a fault, or made it of another.
* `World.Warned`, `World.Calm`: Something grave was logged, or nothing.
* `Stateful.Tells`: An action tells of its faults in the log.
* `Fault.NoTemplate`, `Fault.Unbuildable`: Faults that are not told.

## Theorems

* `Stateful.Tells.bind`, `Stateful.Tells.tryCatch`: Putting actions together.
* `Resolution.resolve_tells`, `Engine.render_tells`, `Config.load_tells`: What is told of names,
  templates and settings.
* `Resolution.resolve_refused`, `Engine.load_silent`, `Config.load_unbuildable`: What is not.
-/

namespace Stencil

open Fault (Foreign)

/-- An event says that something is wrong. -/
def Event.Grave (e : Event) : Prop := Level.warning.rank ≤ e.level.rank

theorem Event.not_grave_debug {source name : String} {fields : Bindings} :
    ¬(⟨.debug, source, name, fields⟩ : Event).Grave :=
  (by decide : ¬Level.warning.rank ≤ Level.debug.rank)

/-- Something grave was logged between two worlds, and nothing was taken out of the log. -/
def World.Warned (w w' : World) : Prop :=
  ∃ es, w'.events = es ++ w.events ∧ ∃ e ∈ es, e.Grave

/-- Nothing grave was logged between two worlds, nor was anything taken out of the log. -/
def World.Calm (w w' : World) : Prop :=
  ∃ es, w'.events = es ++ w.events ∧ ∀ e ∈ es, ¬e.Grave

namespace World.Calm

variable {w w' : World}

theorem refl (w : World) : w.Calm w := ⟨[], rfl, nofun⟩

theorem log (h : w.Calm w') {e : Event} (he : ¬e.Grave) : w.Calm (w'.log e) := by
  obtain ⟨es, hes, hall⟩ := h
  exact ⟨e :: es, congrArg (e :: ·) hes, List.forall_mem_cons.mpr ⟨he, hall⟩⟩

theorem not_warned (h : w.Calm w') : ¬w.Warned w' := by
  obtain ⟨es, hes, hall⟩ := h
  rintro ⟨es', hes', e, he, hgrave⟩
  obtain rfl := List.append_cancel_right (hes.symm.trans hes')
  exact hall e he hgrave

end World.Calm

namespace Fault

/-- The library has raised a fault, or made it of another. -/
def OfLibrary (f : Fault) : Prop := f.isOwn = true ∧ f.Unraised

/-- A template is gone when it is to be read. -/
def Gone : Fault → Prop
  | .templateMissing _ (some _) => True
  | _ => False

/-- No configuration can be built from the settings. -/
def Unbuildable : Fault → Prop
  | .invalidConfig _ => True
  | _ => False

theorem Foreign.not_ofLibrary {f : Fault} (h : f.Foreign) : ¬f.OfLibrary := by
  rintro ⟨hown, -⟩
  have hkinds : ∀ k ∈ ["FileNotFoundError", "FileExistsError", "NotADirectoryError",
      "IsADirectoryError", "OSError", "UnicodeDecodeError", "UnicodeError", "TemplateSyntaxError",
      "SyntaxError", "NotImplementedError", "TomlDecodeError", "MarkupError", "TemplateNotFound",
      "UndefinedError", "TemplateRuntimeError", "RecursionError", "TypeError", "ValueError",
      "AttributeError", "KeyError", "IndexError", "ZeroDivisionError", "OverflowError",
      "NameError"],
      Kind.isA k "TemplateViewError" = false := by decide
  have hno : f.isOwn = false := by
    refine hkinds f.kind ?_
    cases f with
    | system r p => cases r <;> exact List.mem_of_elem_eq_true rfl
    | _ => first | exact h.elim | exact List.mem_of_elem_eq_true rfl
  rw [hno] at hown
  cases hown

/-- Faults of the library are ordinary ones. -/
theorem OfLibrary.ordinary {f : Fault} (h : f.OfLibrary) : f.isOrdinary = true := by
  cases f <;> first | rfl | exact h.2.elim | exact absurd h (Foreign.not_ofLibrary trivial)

end Fault

/-- There is no template of a name to read: the name is refused, or the template is gone. -/
def Fault.NoTemplate (name : Value) (f : Fault) : Prop := Resolution.Refuses name f ∨ f.Gone

/-- The log of a scene is that of its world. -/
def Scene.events (s : Scene) : List Event := s.world.events

/-- An action only adds to the log, and tells there of every fault of the library with which it
    fails, but for some kinds. -/
def Stateful.Tells {σ α : Type} (log : σ → List Event) (P : Fault → Prop) (a : Stateful σ α)
    (s : σ) : Prop :=
  ∃ es, log (a.perform s).2 = es ++ log s ∧
    ∀ f, (a.perform s).1 = .error f → f.OfLibrary → P f ∨ ∃ e ∈ es, e.Grave

namespace Stateful.Tells

variable {σ α β : Type} {log : σ → List Event} {P Q : Fault → Prop} {a : Stateful σ α} {s : σ}

/-- An action that does not log. -/
theorem silent (h : log (a.perform s).2 = log s)
    (hP : ∀ f, (a.perform s).1 = .error f → f.OfLibrary → P f) : Tells log P a s :=
  ⟨[], h, fun f hf ho => .inl (hP f hf ho)⟩

theorem pure (x : α) : Tells log P (Pure.pure x) s := .silent rfl nofun

theorem throw {f : Fault} (h : f.OfLibrary → P f) :
    Tells log P (MonadExcept.throw f : Stateful σ α) s :=
  .silent rfl fun _ hf => Except.error.inj hf ▸ h

theorem foreign {f : Fault} (h : f.Foreign) :
    Tells log P (MonadExcept.throw f : Stateful σ α) s :=
  .throw fun ho => absurd ho h.not_ofLibrary

theorem changing {g : σ → σ} (h : log (g s) = log s) :
    Tells log P (modify g : Stateful σ Unit) s := .silent h nofun

theorem set {s' : σ} (h : log s' = log s) : Tells log P (MonadState.set s' : Stateful σ Unit) s :=
  .silent h nofun

theorem mono (h : Tells log P a s) (hPQ : ∀ f, f.OfLibrary → P f → Q f) : Tells log Q a s := by
  obtain ⟨es, hes, hf⟩ := h
  exact ⟨es, hes, fun f he ho => (hf f he ho).imp_left (hPQ f ho)⟩

/-- Nothing is left out where an action succeeds. -/
theorem of_ok {x : α} {s' : σ} (h : Tells log P a s) (hok : a.perform s = (.ok x, s')) :
    Tells log Q a s := by
  obtain ⟨es, hes, -⟩ := h
  exact ⟨es, hes, fun f hf => by rw [hok] at hf; cases hf⟩

/-- What follows an action starts where that has left off. -/
theorem andThen {k : α → Stateful σ β} (ha : Tells log P a s)
    (hk : ∀ x s', a.perform s = (.ok x, s') → Tells log P (k x) s') :
    Tells log P (a >>= k) s := by
  obtain ⟨es, hes, hf⟩ := ha
  rcases h : a.perform s with ⟨f | x, s'⟩
  all_goals rw [h] at hes hf
  · rw [Tells, perform_bind_error h]
    exact ⟨es, hes, fun g hg => hf g (Except.error.inj hg ▸ rfl)⟩
  · rw [Tells, perform_bind_ok h]
    obtain ⟨es', hes', hf'⟩ := hk x s' h
    refine ⟨es' ++ es, by rw [hes', hes, List.append_assoc], fun f he ho => ?_⟩
    exact (hf' f he ho).imp_right fun ⟨e, he, hg⟩ => ⟨e, List.mem_append_left es he, hg⟩

theorem bind {k : α → Stateful σ β} (ha : Tells log P a s) (hk : ∀ x s', Tells log P (k x) s') :
    Tells log P (a >>= k) s := ha.andThen fun x s' _ => hk x s'

/-- What is done with the state that an action looks at is done in that state. -/
theorem get {k : σ → Stateful σ β} (h : Tells log P (k s) s) :
    Tells log P (MonadState.get >>= k) s :=
  (silent rfl nofun).andThen fun _ _ heq => by cases heq; exact h

/-- A handler has to tell of what it makes of a fault. -/
theorem tryCatch {k : Fault → Stateful σ α} (ha : Tells log Q a s)
    (hk : ∀ f s', a.perform s = (.error f, s') → Tells log P (k f) s') :
    Tells log P (MonadExcept.tryCatch a k) s := by
  obtain ⟨es, hes, -⟩ := ha
  rw [Tells, perform_tryCatch]
  rcases h : a.perform s with ⟨f | x, s'⟩
  all_goals rw [h] at hes
  · obtain ⟨es', hes', hf'⟩ := hk f s' h
    refine ⟨es' ++ es, by rw [hes', hes, List.append_assoc], fun f he ho => ?_⟩
    exact (hf' f he ho).imp_right fun ⟨e, he, hg⟩ => ⟨e, List.mem_append_left es he, hg⟩
  · exact ⟨es, hes, nofun⟩

end Stateful.Tells

variable {α β : Type} {P Q : Fault → Prop} {w : World}

/-- An action on the world tells of its faults. -/
abbrev Act.Tells (P : Fault → Prop) (a : Act α) (w : World) : Prop :=
  Stateful.Tells World.events P a w

/-- An action on a scene tells of its faults. -/
abbrev Play.Tells (P : Fault → Prop) (p : Play α) (s : Scene) : Prop :=
  Stateful.Tells Scene.events P p s

namespace Stateful.Tells

theorem ofExcept {r : Except Fault α} (h : FailsOf (fun f => f.Foreign ∨ P f) r) :
    Act.Tells P (Act.ofExcept r) w := by
  refine .silent (by rw [Act.perform_ofExcept]) fun f hf ho => ?_
  rw [Act.perform_ofExcept] at hf
  exact (h f hf).resolve_left fun hforeign => hforeign.not_ofLibrary ho

theorem ofForeign {r : Except Fault α} (h : FailsOf Foreign r) : Act.Tells P (Act.ofExcept r) w :=
  ofExcept (h.mono fun _ => .inl)

theorem log (level : Level) (source name : String) (fields : Bindings) :
    Act.Tells P (Act.log level source name fields) w := ⟨[_], rfl, nofun⟩

/-- A fault is told of before it is raised. -/
theorem report {level : Level} (hlevel : Level.warning.rank ≤ level.rank) (source name : String)
    (fields : Bindings) (f : Fault) :
    Act.Tells P (do Act.log level source name fields; MonadExcept.throw f : Act α) w :=
  ⟨[⟨level, source, name, fields⟩], rfl, fun _ _ _ => .inr ⟨_, List.mem_singleton_self _, hlevel⟩⟩

/-- Only adding to the log, as a relation that rendering keeps. -/
def relation : Template.Relation Act Act where
  holds a b := a = b ∧ ∀ w, Act.Tells (fun _ => True) a w
  pure _ := ⟨rfl, fun _ => .pure _⟩
  bind := by
    rintro α β a _ f g ⟨rfl, ha⟩ hf
    exact ⟨bind_congr fun x => (hf x).1, fun w => (ha w).bind fun x => (hf x).2⟩
  throw f := ⟨rfl, fun _ => .throw fun _ => trivial⟩
  tryCatch := by
    rintro α a _ f g ⟨rfl, ha⟩ hf
    exact ⟨congrArg _ (funext fun e => (hf e).1), fun w => (ha w).tryCatch fun e w' _ =>
      (hf e).2 w'⟩

end Stateful.Tells

/-! ## Names -/

namespace Resolution

/-- All faults of finding an owner are told of, but not that the name is refused. -/
theorem resolve_tells (root : Path) (name : Value) (ext : Extensions) (w : World) :
    Act.Tells (Refuses name) (resolve root name ext) w := by
  unfold resolve
  refine .bind (.ofExcept (candidates_fails _ _ _)) fun cs w₁ => .get (.bind
    (.ofForeign (owner?_foreign _ _)) fun r w₂ => ?_)
  split
  · exact .bind (.log _ _ _ _) fun _ _ => .pure _
  · exact .report (by decide) _ _ _ _

/-- Nothing is done if a name is refused. -/
theorem resolve_refused {name : Value} {f : Fault} (h : Refuses name f) (root : Path)
    (ext : Extensions) (w : World) : (resolve root name ext).perform w = (.error f, w) := by
  rw [resolve, candidates, h]
  rfl

/-- That an owner is found is logged, which is nothing grave. -/
theorem resolve_found {root : Path} {name : Value} {ext : Extensions} {r : Resolution}
    (h : owner w.files root name ext = .ok r) :
    ∃ e : Event, ¬e.Grave ∧ (resolve root name ext).perform w = (.ok r, w.log e) := by
  rw [owner] at h
  split at h
  · cases h
  · rename_i cs hcs
    split at h
    · cases h
    · rename_i r' hr
      cases h
      rw [resolve, hcs, Stateful.perform_bind_ok (Act.perform_ofExcept _ w),
        Stateful.perform_bind_ok (Stateful.perform_get w), hr,
        Stateful.perform_bind_ok (Act.perform_ofExcept _ w)]
      exact ⟨_, Event.not_grave_debug, rfl⟩
    · cases h

end Resolution

/-! ## Engines -/

namespace Engine

variable {c : Config} {id : EngineId}

theorem prepareStore_tells (P : Fault → Prop) (c : Config) (w : World) :
    Act.Tells P (prepareStore c) w := by
  unfold prepareStore
  refine .get (.bind (.ofForeign (Files.asks_foreign _ _ _)) fun b w₁ => ?_)
  split
  · split
    · exact .bind (.changing rfl) fun _ _ => .pure _
    · exact .bind (.log _ _ _ _) fun _ _ => .pure _
    · rename_i f _ hf
      exact .foreign (Files.makeDirectories_foreign _ _ f hf)
  · exact .bind (.log _ _ _ _) fun _ _ => .pure _

theorem loadTranslations_tells (P : Fault → Prop) (c : Config) (w : World) :
    Act.Tells P (loadTranslations c) w := by
  unfold loadTranslations
  exact .bind (.ofForeign ((Template.items_fail _).mono fun _ => Fault.OfUse.foreign)) fun _ _ =>
    .bind (.ofForeign (languageNames_foreign _)) fun _ _ => .get
      (.bind (.log _ _ _ _) fun _ _ => .pure _)

/-- All faults of making an engine are told of. -/
theorem create_tells (P : Fault → Prop) (c : Config) (extensions : Option Extensions)
    (translations : Option Translations) (w : World) :
    Act.Tells P (create c extensions translations) w := by
  unfold create
  refine .bind (prepareStore_tells P c w) fun store w₁ => .bind ?_ fun tr w₂ =>
    .bind (.log _ _ _ _) fun _ w₃ => .get (.bind (.set rfl) fun _ _ => .pure _)
  unfold chooseTranslations
  split
  · split
    · exact .pure _
    · exact loadTranslations_tells P c w₁
  · exact .pure _

theorem find_tells (P : Fault → Prop) (id : EngineId) (w : World) : Act.Tells P (find id) w := by
  unfold find
  refine .get ?_
  split
  · exact .pure _
  · exact .foreign trivial

theorem keepStored_tells (P : Fault → Prop) (store : Option Path) (name file text : String)
    (body : List Template.Stmt) (w : World) :
    Act.Tells P (keepStored store name file text body) w := by
  unfold keepStored
  split
  · exact .pure _
  · refine .get ?_
    split
    · exact .set rfl
    · exact .foreign trivial

theorem keepLoaded_tells (P : Fault → Prop) (id : EngineId) (name : String)
    (body : List Template.Stmt) (modified : Nat) (w : World) :
    Act.Tells P (keepLoaded id name body modified) w := by
  unfold keepLoaded remember
  refine .get (.bind (.changing rfl) fun _ w₁ => .bind (.get ?_) fun _ _ => .pure _)
  split
  · exact .set rfl
  · exact .pure _

/-- All faults of loading a template by the name that inclusions use are of other parties. -/
theorem fetch_tells (P : Fault → Prop) (id : EngineId) (name : String) (w : World) :
    Act.Tells P (fetch id name) w := by
  unfold fetch
  refine .bind (find_tells P id w) fun e w₁ => .get ?_
  split
  · exact .pure _
  · unfold loadFresh
    split
    · exact .foreign trivial
    · refine .get ?_
      split
      · exact .foreign trivial
      · unfold loadContent statements
        refine .bind (.ofForeign (Content.chars_foreign _)) fun chars w₂ => .bind (.get ?_)
          fun body w₃ => keepLoaded_tells P id name body _ w₃
        split
        · exact .pure _
        · have hcompile (s : Template.Settings) : FailsOf Foreign (Template.compile s chars) :=
            fun f hf => Fault.OfLoading.foreign (.markup (Template.compile_fails _ f hf))
          exact .bind (.ofForeign (hcompile _)) fun body w₃ =>
            .bind (keepStored_tells P _ _ _ _ _ w₃) fun _ _ => .pure _

/-- All faults of loading a template are told of, but not that its name is refused or that it is
    gone. -/
theorem load_tells (id : EngineId) (name : Value) (w : World) :
    Act.Tells (Fault.NoTemplate name) (load id name) w := by
  unfold load
  refine .bind (find_tells _ id w) fun e w₁ =>
    .bind (.ofExcept ((innerName_fails _ _).mono fun _ => Or.imp_right .inl)) fun r w₂ =>
      .bind (.tryCatch (fetch_tells (fun _ => True) id _ w₂) fun f w₃ hf => ?_) fun _ _ => .pure _
  unfold reportLoading
  split
  · exact .throw fun _ => .inr trivial
  · exact .report (by decide) _ _ _ _
  · exact .foreign (fetch_fails id _ w₂ f (congrArg Prod.fst hf)).foreign

/-- Running a template only adds to the log. -/
theorem run_tells (id : EngineId) (e : Engine) (q : Template.Program) (data : Bindings)
    (w : World) : Act.Tells (fun _ => True) (Template.render (renderer id e) q data) w := by
  have hload (n : String) (w : World) : Act.Tells (fun _ => True)
      (do return ⟨n, (← fetch id n).body⟩ : Act Template.Program) w :=
    .bind (fetch_tells _ id n w) fun _ _ => .pure _
  have hsame : Stateful.Tells.relation.Renderers (renderer id e) (renderer id e) :=
    ⟨fun n => ⟨rfl, hload n⟩, rfl, rfl, rfl, rfl⟩
  exact (Template.Relation.render hsame q data).2 w

/-- Nothing is done if a template cannot be loaded by the name that inclusions use. -/
theorem fetch_failed {name : String} {f : Fault} {w' : World}
    (h : (fetch id name).perform w = (.error f, w')) : w' = w := by
  cases hid : w.engine? id with
  | none =>
      rw [fetch, Stateful.perform_bind_error (find_missing hid)] at h
      exact (congrArg Prod.snd h).symm
  | some e =>
      rcases fetch_ends hid name with ⟨l, w₁, e', hl, -⟩ | hnone | ⟨g, hg⟩
      · rw [hl] at h
        cases h
      · rw [fetch_missing hid hnone] at h
        exact (congrArg Prod.snd h).symm
      · rw [hg.fetch hid] at h
        exact (congrArg Prod.snd h).symm

/-- Nothing is done if a name is refused. -/
theorem load_refused {name : Value} {f : Fault} (h : Resolution.Refuses name f) (id : EngineId)
    (w : World) : ∃ g, (load id name).perform w = (.error g, w) := by
  cases hid : w.engine? id with
  | none => exact ⟨_, by rw [load, Stateful.perform_bind_error (find_missing hid)]⟩
  | some e => exact ⟨f, load_misnamed hid (innerName_rejected h)⟩

/-- Nor is anything done if its template is gone. -/
theorem load_gone {name : Value} {f : Fault} {w' : World}
    (h : (load id name).perform w = (.error f, w')) (hf : f.Gone) : w' = w := by
  cases hid : w.engine? id with
  | none =>
      rw [load, Stateful.perform_bind_error (find_missing hid)] at h
      exact (congrArg Prod.snd h).symm
  | some e =>
      cases hname : innerName e.config name with
      | error g =>
          rw [load_misnamed hid hname] at h
          exact (congrArg Prod.snd h).symm
      | ok r =>
          obtain ⟨p, n⟩ := r
          rcases hfetch : (fetch id n).perform w with ⟨g | l, w₁⟩
          · obtain rfl := fetch_failed hfetch
            rcases hreport : (reportLoading name p g).perform w₁ with ⟨g' | l, w₂⟩
            · have hcaught : (tryCatch (fetch id n) (reportLoading name p)).perform w₁ =
                  (.error g', w₂) := by
                rw [Stateful.perform_tryCatch, hfetch]
                exact hreport
              rw [load, Stateful.perform_bind_ok (find_perform hid), hname,
                Stateful.perform_bind_ok (Act.perform_ofExcept _ w₁),
                Stateful.perform_bind_error hcaught] at h
              cases h
              -- What is not well formed is reported as another kind of fault.
              unfold reportLoading at hreport
              split at hreport
              · exact (congrArg Prod.snd hreport).symm
              · cases hreport
                exact hf.elim
              · exact (congrArg Prod.snd hreport).symm
            · have hthrows := reportLoading_perform name p g w₁
              rw [hreport] at hthrows
              cases hthrows
          · rw [load_fetched hid hname hfetch] at h
            cases h

theorem load_silent {name : Value} {f : Fault} {w' : World}
    (h : (load id name).perform w = (.error f, w')) (hf : f.NoTemplate name) : w' = w := by
  rcases hf with hrefuses | hgone
  · obtain ⟨g, hg⟩ := load_refused hrefuses id w
    rw [hg] at h
    exact (congrArg Prod.snd h).symm
  · exact load_gone h hgone

/-- Nor is more left out of rendering a template. -/
theorem render_tells (id : EngineId) (name : Value) (data : Bindings) (w : World) :
    Act.Tells (Fault.NoTemplate name) (render id name data) w := by
  unfold render
  refine .bind (load_tells id name w) fun r w₁ => .bind (find_tells _ id w₁) fun e w₂ =>
    .bind (.log _ _ _ _) fun _ w₃ => .tryCatch (run_tells id e _ data w₃) fun f w₄ _ => ?_
  unfold reportRendering
  split
  · exact .report (by decide) _ _ _ _
  · rename_i hno
    exact .throw fun ho => absurd ho.ordinary hno

theorem render_silent {name : Value} {data : Bindings} {f : Fault} {w' : World}
    (h : (render id name data).perform w = (.error f, w')) (hf : f.NoTemplate name) :
    w' = w := by
  rcases hload : (load id name).perform w with ⟨g | r, w₁⟩
  · rw [render, Stateful.perform_bind_error hload] at h
    cases h
    exact load_silent hload hf
  · rcases hf with hrefuses | hgone
    · obtain ⟨g, hg⟩ := load_refused hrefuses id w
      rw [hg] at hload
      cases hload
    -- What goes wrong once a template is loaded is reported as another kind of fault.
    have hfails : Stateful.Fails (fun f => ¬f.Gone) (do
        let e ← find id
        Act.log .info source "rendering_compiled_template"
          [("name", name), ("context_keys", .list (data.keys.map Value.text))]
        tryCatch (Template.render (renderer id e) ⟨r.1, r.2.body⟩ data)
          (reportRendering name) : Act String) := by
      refine .bind (.bind .get fun w => ?_) fun e => .bind (.log _ _ _ _) fun _ =>
        .handled fun g => ?_
      · split
        · exact .pure _
        · exact .throw fun h => h
      · unfold reportRendering
        split
        · exact .bind (.log _ _ _ _) fun _ => .throw fun h => h
        · rename_i hno
          refine .throw fun hg => hno ?_
          cases g <;> first | rfl | exact hg.elim
    rw [render, Stateful.perform_bind_ok hload] at h
    exact absurd hgone (hfails w₁ f (congrArg Prod.fst h))

end Engine

/-! ## Settings -/

namespace Config

open Loader

theorem readSettings_tells (P : Fault → Prop) (file : Path) (shown : String) (w : World) :
    Act.Tells P (readSettings file shown) w := by
  unfold readSettings
  refine .get (.bind (.ofForeign (Files.asks_foreign _ _ _)) fun b w₁ => ?_)
  split
  · refine .bind (.log _ _ _ _) fun _ w₂ => ?_
    split
    · exact .ofForeign (settingsIn_foreign _ _)
    · rename_i f hf
      split
      · exact .report (by decide) _ _ _ _
      · exact .foreign (read_foreign _ _ _ f hf)
  · exact .pure _

theorem projectSettings_tells (P : Fault → Prop) (base : Path) (shownBase : String)
    (names : List String) (w : World) : Act.Tells P (projectSettings base shownBase names) w := by
  induction names generalizing w with
  | nil => exact .pure _
  | cons name names ih =>
      rw [projectSettings]
      refine .get (.bind (.ofForeign (Files.asks_foreign _ _ _)) fun b w₁ => ?_)
      split
      · refine .bind (readSettings_tells P _ _ w₁) fun v w₂ => ?_
        split
        · refine .bind (.log _ _ _ _) fun _ w₃ => ?_
          split
          · exact .pure _
          · exact .foreign trivial
          · exact .foreign trivial
        · exact ih w₂
      · exact ih w₁

/-- All faults of reading settings are told of. -/
theorem readAll_tells (P : Fault → Prop) (searchDir : Option Path) (w : World) :
    Act.Tells P (readAll searchDir) w := by
  unfold readAll userSettings
  refine .bind (.get (.bind (.ofForeign (Files.asks_foreign _ _ _)) fun b w₁ => ?_)) fun user w₂ =>
    .get (.bind (projectSettings_tells P _ _ _ w₂) fun project w₃ => ?_)
  · split
    · refine .bind (.log _ _ _ _) fun _ w₂ => .bind (readSettings_tells P _ _ w₂) fun v w₃ => ?_
      split <;> exact .pure _
    · exact .pure _
  · simp only
    split
    · exact .bind (.log _ _ _ _) fun _ _ => .pure _
    · exact .pure _

theorem warnUnknown_tells (P : Fault → Prop) (origin : String) (raw : Bindings) (w : World) :
    Act.Tells P (warnUnknown origin raw) w := by
  obtain ⟨es, hes⟩ := warnUnknown_perform origin raw w
  rw [Act.Tells, Stateful.Tells, hes]
  exact ⟨es, rfl, nofun⟩

theorem chosenSettings_tells (P : Fault → Prop) (raw : Bindings) (profile : Option String)
    (w : World) : Act.Tells P (chosenSettings raw profile) w := by
  unfold chosenSettings
  simp only
  split
  · exact .pure _
  · exact .pure _
  · refine .bind (.ofForeign (profileSettings_foreign _ _)) fun v w₁ => ?_
    split
    · exact .bind (.log _ _ _ _) fun _ w₂ => .bind (warnUnknown_tells P _ _ w₂) fun _ _ => .pure _
    · exact .bind (.log _ _ _ _) fun _ _ => .pure _

/-- All faults of loading a configuration are told of, but not that none can be built from the
    settings. -/
theorem load_tells (profile : Option String) (overrides : Bindings) (searchDir : Option Path)
    (w : World) : Act.Tells Fault.Unbuildable (load profile overrides searchDir) w := by
  unfold load
  refine .bind (readAll_tells _ _ w) fun raw w₁ => .bind (warnUnknown_tells _ _ _ w₁) fun _ w₂ =>
    .bind (chosenSettings_tells _ _ _ w₂) fun chosen w₃ => ?_
  simp only
  split
  · exact .bind (.log _ _ _ _) fun _ _ => .pure _
  · exact .throw fun _ => trivial
  · exact .throw fun _ => trivial
  · rename_i f _ _ hf
    exact .foreign (ofFields_foreign _ f hf)

/-- The settings are read and chosen between two worlds, and nothing more is done. -/
def Chosen (profile : Option String) (searchDir : Option Path) (w w' : World) : Prop :=
  ∃ raw chosen w₁ w₂, (readAll searchDir).perform w = (.ok raw, w₁) ∧
    (warnUnknown "config_file" raw).perform w₁ = (.ok (), w₂) ∧
      (chosenSettings raw profile).perform w₂ = (.ok chosen, w')

/-- If no configuration can be built from the settings, nothing is logged once they are chosen. -/
theorem load_unbuildable {profile : Option String} {overrides : Bindings} {searchDir : Option Path}
    {f : Fault} {w' : World} (h : (load profile overrides searchDir).perform w = (.error f, w'))
    (hf : f.Unbuildable) : Chosen profile searchDir w w' := by
  have hno {g : Fault} (hg : g.OfSettings) : ¬g.Unbuildable := by
    intro hbuild
    cases g <;> first | exact hbuild | exact hg
  unfold load at h
  rcases hraw : (readAll searchDir).perform w with ⟨g | raw, w₁⟩
  · rw [Stateful.perform_bind_error hraw] at h
    cases h
    exact absurd hf (hno (readAll_fails searchDir w f (congrArg Prod.fst hraw)))
  rw [Stateful.perform_bind_ok hraw] at h
  rcases hwarn : (warnUnknown "config_file" raw).perform w₁ with ⟨g | ⟨⟩, w₂⟩
  · rw [Stateful.perform_bind_error hwarn] at h
    cases h
    exact absurd hf (hno (warnUnknown_fails _ raw w₁ f (congrArg Prod.fst hwarn)))
  rw [Stateful.perform_bind_ok hwarn] at h
  rcases hchosen : (chosenSettings raw profile).perform w₂ with ⟨g | chosen, w₃⟩
  · rw [Stateful.perform_bind_error hchosen] at h
    cases h
    exact absurd hf (hno (chosenSettings_fails raw profile w₂ f (congrArg Prod.fst hchosen)))
  rw [Stateful.perform_bind_ok hchosen] at h
  refine ⟨raw, chosen, w₁, w₂, hraw, hwarn, ?_⟩
  -- Building from the settings does not log, unless it succeeds.
  simp only at h
  split at h
  · cases h
  all_goals
    obtain rfl : w₃ = w' := congrArg Prod.snd h
    exact hchosen

end Config

end Stencil
