import Stencil.Proofs.Telling

/-!
# What the library does not tell

Wherever the library is used, it either warns of a fault that it has raised or made of another,
or the fault is of one of a few kinds. These are that a name is refused, that a template or the
file of a script is gone when it is to be read, that the call proxy does not know a name, that no
configuration can be built from the settings, and that an output cannot be written. Nothing
grave is logged of them, but for what the program says of its own accord when it was asked to
render.

This is said of each way to use the library, exactly where it can be. Where a helper renders
another template it can only be said that nothing else is left out, because making the view for
that may warn of a directory that cannot be made.

## Main definitions

* `Stateful.WarnsUnless`: An action warns of its faults, exactly unless something.
* `Session.Untold`: What a step leaves out.
* `RegistryStep.Misses`: The call proxy does not know a name.

## Theorems

* `Session.step_tells`, `Session.run_warned`: What a step tells stays in the log of a run.
* `RegistrySession.step_warns`: What registries tell.
* `Command.render_warns`, `Command.resolve_warned`: What the program tells.
* `faults_told`: What is told of all faults, and what is not.
-/

namespace Stencil

open Fault (Foreign)
open Stateful (Tells)
open Stateful.Tells

variable {α β : Type} {P Q : Fault → Prop} {s : Scene} {w : World}

/-- Where an action fails with a fault of the library, it warns of that, exactly unless something
    is the case. -/
def Stateful.WarnsUnless {σ : Type} (world : σ → World) (Q : σ → Fault → Prop)
    (a : Stateful σ α) : Prop :=
  ∀ s f s', a.perform s = (.error f, s') → f.OfLibrary → ((world s).Warned (world s') ↔ ¬Q s f)

/-- An action that fails warns of that, if it does not leave it out. -/
theorem Stateful.Tells.warned {a : Act α} {f : Fault} {w' : World} (h : Act.Tells P a w)
    (hf : a.perform w = (.error f, w')) (ho : f.OfLibrary) : P f ∨ w.Warned w' := by
  obtain ⟨es, hes, htold⟩ := h
  rw [hf] at hes htold
  exact (htold f rfl ho).imp_right fun he => ⟨es, hes, he⟩

namespace Stateful.WarnsUnless

variable {σ : Type} {world : σ → World} {R : σ → Fault → Prop} {a : Stateful σ α}

/-- An action that tells of what it fails with, and logs nothing grave about the rest. -/
theorem of_tells (htells : ∀ s, Tells (fun s => (world s).events) (R s) a s)
    (hcalm : ∀ s f s', a.perform s = (.error f, s') → R s f → (world s).Calm (world s')) :
    WarnsUnless world R a := by
  intro s f s' h ho
  refine ⟨fun hwarned hf => (hcalm s f s' h hf).not_warned hwarned, fun hno => ?_⟩
  obtain ⟨es, hes, hf⟩ := htells s
  rw [h] at hes hf
  exact ⟨es, hes, (hf f rfl ho).resolve_left hno⟩

/-- An action that tells of all that it fails with. -/
theorem of_all (htells : ∀ s, Tells (fun s => (world s).events) (fun _ => False) a s) :
    WarnsUnless world (fun _ _ => False) a := of_tells htells fun _ _ _ _ h => h.elim

end Stateful.WarnsUnless

open Stateful (WarnsUnless)

/-! ## Names, templates and scripts -/

theorem Resolution.resolve_warns (root : Path) (name : Value) (ext : Extensions) :
    WarnsUnless id (fun _ => Refuses name) (resolve root name ext) := by
  refine .of_tells (resolve_tells root name ext) fun w f w' h hf => ?_
  rw [resolve_refused hf] at h
  cases h
  exact .refl w

theorem Engine.load_warns (e : EngineId) (name : Value) :
    WarnsUnless id (fun _ => Fault.NoTemplate name) (load e name) :=
  .of_tells (load_tells e name) fun w _ _ h hf => load_silent h hf ▸ .refl w

theorem Engine.render_warns (e : EngineId) (name : Value) (data : Bindings) :
    WarnsUnless id (fun _ => Fault.NoTemplate name) (render e name data) :=
  .of_tells (render_tells e name data) fun w _ _ h hf => render_silent h hf ▸ .refl w

theorem RawScript.compile_warns (path : Path) :
    WarnsUnless id (fun _ => Fault.Gone) (compile path) :=
  .of_tells (fun w => (compile_tells path w).mono fun _ _ h => h.1)
    fun w _ _ h hf => compile_silent h hf ▸ .refl w

theorem renderScript_warns (owner : Owner) (path : Path) :
    WarnsUnless Scene.world (fun _ _ => False) (renderScript nestedRender owner path) :=
  .of_all (renderScript_tells (fun shared n data w => (renderNested_tells _ _ shared n data w).mono
    fun _ _ _ => trivial) _ path)

theorem View.render_warns (v : View) (data : Bindings) (helpers : List (String × Helper)) :
    WarnsUnless Scene.world (fun s => Misses v.name v.config s.world.files)
      (v.render data helpers) :=
  .of_tells (v.render_tells data helpers) fun _ _ _ h hf => render_missed h hf

/-! ## Views in a session -/

/-- What a step of a view fails with and does not tell. -/
def ViewStep.Untold (v : View) (s : Scene) : ViewStep → Fault → Prop
  | .render _ _, f => View.Misses v.name v.config s.world.files f
  | .resolve, f => Resolution.Refuses v.name f
  | .invoke _ _ _, f => f.Templateless
  | .call n _ _, f => f.Templateless ∨ ¬Registry.proxyHas s.helpers n
  | _, _ => False

theorem forM_tells {f : α → Play Unit} (h : ∀ x s, Play.Tells P (f x) s) (xs : List α)
    (s : Scene) : Play.Tells P (xs.forM f) s := by
  induction xs generalizing s with
  | nil => exact .pure _
  | cons x xs ih => exact .bind (h x s) fun _ s₁ => ih s₁

namespace Session

theorem setAllOf_tells (P : Fault → Prop) (v : Value) (s : Scene) :
    Play.Tells P (setAllOf v) s := by
  have hitems (v : Value) : FailsOf Foreign v.items :=
    (Template.items_fail v).mono fun _ => Fault.OfUse.foreign
  unfold setAllOf
  split
  · split
    · exact .changing rfl
    · refine .bind (.playForeign (hitems _)) fun items s₁ => ?_
      split
      · exact .foreign trivial
      · refine .bind (.changing rfl) fun _ s₂ => forM_tells (fun p s => ?_) _ s₂
        split
        · exact .changing rfl
        · exact .foreign trivial
      · exact .foreign trivial
      · exact .foreign trivial
  · exact .pure _

theorem viewStep_tells (v : View) (st : ViewStep) (s : Scene) :
    Play.Tells (st.Untold v s) (viewStep v st) s := by
  have hnested (shared : Bool) (n : Value) (data : Bindings) (w : World) :
      Act.Tells Fault.Templateless (nestedRender v.owner shared n data) w :=
    renderNested_tells _ _ shared n data w
  cases st with
  | set data value => exact .bind (View.setData_tells _ _ _ _ s) fun _ _ => .pure _
  | setAll data => exact .bind (setAllOf_tells _ data s) fun _ _ => .pure _
  | setOne key value => exact .bind (.changing rfl) fun _ _ => .pure _
  | setHelper name helper => exact .bind (Registry.add_tells _ name helper s) fun _ _ => .pure _
  | removeHelper name => exact .bind (Registry.remove_tells _ name s) fun _ _ => .pure _
  | invoke name args keywords =>
      exact .bind (v.invoke_tells name args keywords s) fun _ _ => .pure _
  | call name args keywords =>
      exact .bind (callByProxy_tells hnested name args keywords s) fun _ _ => .pure _
  | render data helpers => exact .bind (v.render_tells data helpers s) fun _ _ => .pure _
  | resolve =>
      exact .bind (.ofAct (Resolution.resolve_tells _ _ _ s.world)) fun _ _ => .pure _
  | name => exact .pure _
  | shown => exact .get (.pure _)
  | config => exact .pure _

end Session

/-! ## Engines in a session -/

/-- What a step of an engine fails with and does not tell. -/
def EngineStep.Untold : EngineStep → Fault → Prop
  | .render name _, f | .load name, f => f.NoTemplate (.text name)
  | .templatePath name, f => Resolution.Refuses (.text name) f
  | _, _ => False

namespace Engine

theorem clear_tells (P : Fault → Prop) (id : EngineId) (w : World) :
    Act.Tells P (clear id) w := by
  unfold clear clearStore
  refine .bind (find_tells P id w) fun e w₁ => .bind (.changing rfl) fun _ w₂ =>
    .bind ?_ fun _ _ => .log _ _ _ _
  split
  · exact .pure _
  · refine .get ?_
    split
    · exact .set rfl
    · exact .foreign trivial
    · exact .foreign trivial
    · exact .foreign trivial

theorem storeState_tells (P : Fault → Prop) (id : EngineId) (w : World) :
    Act.Tells P (storeState id) w := by
  unfold storeState
  exact .bind (find_tells P id w) fun e w₁ => .get (.bind (.ofForeign (Files.asks_foreign _ _ _))
    fun _ _ => .pure _)

end Engine

namespace Session

theorem engineStep_tells (id : EngineId) (last : String → Option Nat) (st : EngineStep)
    (w : World) : Act.Tells st.Untold (engineStep id last st) w := by
  cases st with
  | render name data => exact .bind (Engine.render_tells id _ data w) fun _ _ => .pure _
  | load name => exact .bind (Engine.load_tells id _ w) fun _ _ => .pure _
  | templatePath name =>
      refine .bind (Engine.find_tells _ id w) fun e w₁ => .bind (.ofExcept ?_) fun _ _ => .pure _
      exact (Resolution.candidates_fails _ _ _).bind fun _ => .ok
  | clear => exact .bind (Engine.clear_tells _ id w) fun _ _ => .pure _
  | storeState => exact .bind (Engine.storeState_tells _ id w) fun _ _ => .pure _
  | config => exact .bind (Engine.find_tells _ id w) fun _ _ => .pure _
  | extensions => exact .bind (Engine.find_tells _ id w) fun _ _ => .pure _

/-! ## Steps of a session -/

/-- What a step fails with and does not tell. -/
def Untold (s : Session) : Step → Fault → Prop
  | .onEngine _ st, f => st.Untold f
  | .compileScript path, f => f.Gone ∧ s.world.files.isFile path ≠ .ok true
  | .onView id st, f => ∃ v, s.views.lookup id = some v ∧ st.Untold v ⟨v.data, v.helpers, s.world⟩ f
  | _, _ => False

/-- The log of a session is that of its world. -/
def events (s : Session) : List Event := s.world.events

/-- Files are written and removed without the library. -/
theorem writeFile_tells (P : Fault → Prop) (path : Path) (content : Option Content)
    (sameTime : Bool) (w : World) : Act.Tells P (writeFile path content sameTime) w := by
  unfold writeFile
  refine .get ?_
  split
  · exact .set rfl
  · simp only
    split <;> exact .set rfl

theorem deleteFile_tells (P : Fault → Prop) (path : Path) (w : World) :
    Act.Tells P (deleteFile path) w := by
  unfold deleteFile
  refine .get ?_
  split
  · exact .set rfl
  · exact .foreign trivial
  · exact .foreign trivial

/-- What an action in the world of a session gives. -/
theorem act_eq {s : Session} {a : Act α} {r : Except Fault α} {w' : World}
    (ha : a.perform s.world = (r, w')) : s.act a = (r, { s with world := w' }) := by
  rw [act, ha]

/-- A step tells what the action in its world tells that it fails with. Of what the action
    returns it may make what it likes. -/
theorem of_act {s : Session} {st : Step} {a : Act α} (h : Act.Tells P a s.world)
    (hok : ∀ x w', a.perform s.world = (.ok x, w') →
      ∃ r s', s.step st = (.ok r, s') ∧ s'.world = w')
    (herror : ∀ f w', a.perform s.world = (.error f, w') →
      s.step st = (.error f, { s with world := w' })) :
    Tells events P (fun s => s.step st : Stateful Session Result) s := by
  obtain ⟨es, hes, htold⟩ := h
  rcases ha : a.perform s.world with ⟨f | x, w'⟩
  · rw [ha] at hes htold
    refine ⟨es, ?_, fun g hg => htold g ?_⟩
    · show events (s.step st).2 = _
      rw [herror f w' ha]
      exact hes
    · cases (congrArg Prod.fst (herror f w' ha)).symm.trans hg
      rfl
  · obtain ⟨r, s', hstep, rfl⟩ := hok x w' ha
    rw [ha] at hes
    refine ⟨es, ?_, fun g hg => ?_⟩
    · show events (s.step st).2 = _
      rw [hstep]
      exact hes
    · cases (congrArg Prod.fst hstep).symm.trans hg

/-- A step that is an action in its world. -/
theorem of_act_eq {s : Session} {st : Step} {a : Act Result} (h : Act.Tells P a s.world)
    (hstep : s.step st = s.act a) :
    Tells events P (fun s => s.step st : Stateful Session Result) s :=
  of_act h (fun _ _ ha => ⟨_, _, hstep.trans (act_eq ha), rfl⟩) fun _ _ ha =>
    hstep.trans (act_eq ha)

/-- Engines and views that are not there are no fault of the library. -/
theorem of_unnamed {s : Session} {st : Step} {name : String}
    (h : s.step st = (unnamed name, s)) :
    Tells events P (fun s => s.step st : Stateful Session Result) s := by
  refine .silent (congrArg (fun r => events r.2) h) fun f hf ho => ?_
  cases (congrArg Prod.fst h).symm.trans hf
  exact absurd ho (Fault.Foreign.not_ofLibrary trivial)

theorem rawRender_tells (P : Fault → Prop) (path : Path) (data : Bindings)
    (helpers : List (String × Helper)) (w : World) : Act.Tells P (do
      let w ← get
      let play : Play String := do
        if !helpers.isEmpty then Registry.mergeDefaults helpers
        renderScript nestedRender .registry path
      let (r, scene) := play.perform ⟨data, [], w⟩
      set scene.world
      return .value (.text (← Act.ofExcept r)) : Act Result) w := by
  have hscript (s : Scene) : Play.Tells P (renderScript nestedRender .registry path) s :=
    renderScript_tells (fun shared n data w => (renderNested_tells _ _ shared n data w).mono
      fun _ _ _ => trivial) P path s
  have hplay : Play.Tells P (do
      if !helpers.isEmpty then Registry.mergeDefaults helpers
      renderScript nestedRender .registry path) ⟨data, [], w⟩ := by
    simp only
    split
    · exact .bind (Registry.mergeDefaults_tells P _ _) fun _ s₁ => hscript s₁
    · exact hscript _
  refine .get ?_
  simp only
  rw [← bind_assoc]
  exact (within hplay).bind fun _ _ => .pure _

/-- A step adds to the log, and tells there of what it fails with, but for what steps of its
    kind leave out. -/
theorem step_tells (s : Session) (st : Step) :
    Tells events (s.Untold st) (fun s => s.step st : Stateful Session Result) s := by
  cases st with
  | write path content sameTime =>
      exact of_act_eq (.bind (writeFile_tells _ path content sameTime s.world) fun _ _ => .pure _) rfl
  | delete path =>
      exact of_act_eq (.bind (deleteFile_tells _ path s.world) fun _ _ => .pure _) rfl
  | «exists» path =>
      have hask : Act.Tells (s.Untold (.exists path)) (do
          let files := (← MonadState.get).files
          return .value (.bool (← Act.ofExcept (files.asks path fun _ => true))) : Act Result)
          s.world :=
        .get (.bind (.ofForeign (Files.asks_foreign _ _ _)) fun _ _ => .pure _)
      exact of_act_eq hask rfl
  -- An engine is made and looked at before the session takes note of it.
  | engine e fields extensions translations =>
      have hmake : Act.Tells (s.Untold (.engine e fields extensions translations)) (do
          let c ← Act.ofExcept (Config.ofFields fields)
          let e ← Engine.create c (extensions.map Extensions.ofNames) translations
          return (e, (← Engine.find e).extensions.names)) s.world :=
        .bind (.ofForeign (Config.ofFields_foreign _)) fun c w₁ =>
          .bind (Engine.create_tells _ c _ _ w₁) fun e w₂ =>
            .bind (Engine.find_tells _ e w₂) fun _ _ => .pure _
      refine of_act hmake ?_ ?_
      · exact fun x w' hx => ⟨_, _, by rw [step, act_eq hx], rfl⟩
      · exact fun f w' hf => by rw [step, act_eq hf]
  | onEngine e st =>
      cases he : s.engines.lookup e with
      | none => exact of_unnamed (by rw [step, he])
      | some i =>
          refine of_act (engineStep_tells i (fun name => s.lastLoads.lookup (i, name)) st s.world)
            ?_ ?_
          · rintro ⟨r, _ | ⟨name, serial⟩⟩ w' hx
            · exact ⟨r, _, by simp only [step, he, act_eq hx]; rfl, rfl⟩
            · exact ⟨r, _, by simp only [step, he, act_eq hx]; rfl, rfl⟩
          · exact fun f w' hf => by simp only [step, he, act_eq hf]
  | rawRender path data helpers => exact of_act_eq (rawRender_tells _ path data helpers s.world) rfl
  | compileScript path =>
      exact of_act_eq (.bind (RawScript.compile_tells path s.world) fun _ _ => .pure _) rfl
  | get v name data helpers fields engine =>
      -- The view is asked for in one way, whether no engine is named, or one that is there, or one
      -- that is not.
      have hget (x : Except Fault (Option EngineId)) (hx : FailsOf Foreign x) :
          Act.Tells (s.Untold (.get v name data helpers fields engine)) (do
            let config ← Act.ofExcept (fields.mapM Config.ofFields)
            let e ← Act.ofExcept x
            View.get (.text name) data helpers config e) s.world :=
        .bind (.ofForeign (FailsOf.mapM_option Config.ofFields_foreign _)) fun config w₁ =>
          .bind (.ofForeign hx) fun e w₂ => View.get_tells _ _ data helpers config e w₂
      cases engine with
      | none =>
          refine of_act (hget (.ok none) .ok) ?_ ?_
          · exact fun x w' hx => ⟨_, _, by simp only [step, act_eq hx]; rfl, rfl⟩
          · exact fun f w' hf => by simp only [step, act_eq hf]
      | some e =>
          cases he : s.engines.lookup e with
          | none =>
              refine of_act (hget (unnamed e) (.error trivial)) ?_ ?_
              · exact fun x w' hx => ⟨_, _, by simp only [step, he, act_eq hx]; rfl, rfl⟩
              · exact fun f w' hf => by simp only [step, he, act_eq hf]
          | some i =>
              refine of_act (hget (.ok (some i)) .ok) ?_ ?_
              · exact fun x w' hx => ⟨_, _, by simp only [step, he, act_eq hx]; rfl, rfl⟩
              · exact fun f w' hf => by simp only [step, he, act_eq hf]
  | onView id st =>
      cases hv : s.views.lookup id with
      | none => exact of_unnamed (by rw [step, hv])
      | some v =>
          -- A view works on its own data and helpers, so its step is one of a scene and not of the
          -- world.
          obtain ⟨es, hes, hf⟩ := viewStep_tells v st ⟨v.data, v.helpers, s.world⟩
          refine ⟨es, ?_, fun f he ho => (hf f ?_ ho).imp_left fun h => ⟨v, hv, h⟩⟩
          · show events (s.step (.onView id st)).2 = _
            rw [step, hv]
            exact hes
          · change (s.step (.onView id st)).1 = _ at he
            rw [step, hv] at he
            exact he

/-- What was logged in a run stays in the log. -/
theorem run_grows (s : Session) (steps : List Step) :
    ∃ es, (s.run steps).2.events = es ++ s.events := by
  induction steps generalizing s with
  | nil => exact ⟨[], rfl⟩
  | cons st rest ih =>
      obtain ⟨es, hes, -⟩ := step_tells s st
      obtain ⟨es', hes'⟩ := ih (s.step st).2
      exact ⟨es' ++ es, by rw [List.append_assoc, ← hes]; exact hes'⟩

theorem run_append (s : Session) (before after : List Step) :
    (s.run (before ++ after)).2 = ((s.run before).2.run after).2 := by
  induction before generalizing s with
  | nil => rfl
  | cons st rest ih => exact ih (s.step st).2

/-- What a step of a run fails with and tells of is in the log when the run is over. -/
theorem run_warned {s : Session} {before : List Step} {st : Step} {f : Fault}
    (h : ((s.run before).2.step st).1 = .error f) (ho : f.OfLibrary)
    (hf : ¬(s.run before).2.Untold st f) (after : List Step) :
    (s.run before).2.world.Warned (s.run (before ++ st :: after)).2.world := by
  obtain ⟨es, hes, htold⟩ := step_tells (s.run before).2 st
  obtain ⟨e, he, hgrave⟩ := (htold f h ho).resolve_left hf
  obtain ⟨es', hes'⟩ := run_grows ((s.run before).2.step st).2 after
  refine ⟨es' ++ es, ?_, e, List.mem_append_right es' he, hgrave⟩
  have hrun : (s.run (before ++ st :: after)).2 = (((s.run before).2.step st).2.run after).2 :=
    run_append s before (st :: after)
  rw [hrun, List.append_assoc]
  exact hes'.trans (congrArg (es' ++ ·) hes)

end Session

/-! ## Registries -/

/-- The call proxy does not know the name that a step takes from it. -/
def RegistryStep.Misses (t : HelperTable) : RegistryStep → Prop
  | .call n _ _ | .take n => ¬Registry.proxyHas t n
  | _ => False

namespace RegistrySession

/-- The log of a registry in use is that of its world. -/
def events (s : RegistrySession) : List Event := s.scene.world.events

theorem invoke_tells (P : Fault → Prop) (name : String) (args : List Value)
    (keywords : List (String × Value)) (s : Scene) :
    Play.Tells P (invoke name args keywords) s :=
  callHelper_tells (renderNested_registry P _) _ _ args keywords s

theorem tableStep_tells (st : RegistryStep) (s : Scene) :
    Play.Tells (fun _ => st.Misses s.helpers) (tableStep st) s := by
  cases st with
  | new helpers =>
      refine .bind ?_ fun _ _ => .pure _
      unfold fresh
      refine .get (.bind (.set rfl) fun _ s₁ => ?_)
      split
      · exact Registry.mergeDefaults_tells _ helpers s₁
      · exact .pure _
  | add name helper => exact .bind (Registry.add_tells _ name helper s) fun _ _ => .pure _
  | remove name => exact .bind (Registry.remove_tells _ name s) fun _ _ => .pure _
  | merge helpers => exact .bind (Registry.mergeDefaults_tells _ helpers s) fun _ _ => .pure _
  | invoke name args keywords =>
      exact .bind (invoke_tells _ name args keywords s) fun _ _ => .pure _
  -- Only the proxy says by itself that a name is unknown.
  | call name args keywords =>
      refine .bind ((callByProxy_tells (renderNested_registry (fun _ => False) _) name args
        keywords s).mono fun f _ h => ?_) fun _ _ => .pure _
      exact h.resolve_left id
  | take name =>
      refine .get ?_
      split
      · exact .pure _
      · rename_i hno
        exact .throw fun _ => hno
  | callTaken args keywords => exact .foreign trivial
  | proxyHas name => exact .get (.pure _)
  | has name => exact .get (.pure _)
  | contains name => exact .get (.pure _)
  | shown => exact .get (.pure _)
  | names => exact .get (.pure _)

theorem callTaken_tells (P : Fault → Prop) (s : RegistrySession) (t : Taken) (args : List Value)
    (keywords : List (String × Value)) :
    Tells events P (fun s => s.callTaken t args keywords : Stateful RegistrySession Result) s := by
  have hcalled (scene : Scene) (hw : scene.world = s.scene.world)
      (hresult : (s.callTaken t args keywords).1 =
        ((invoke t.name args keywords).perform scene).1.map .value)
      (hworld : (s.callTaken t args keywords).2.scene.world =
        ((invoke t.name args keywords).perform scene).2.world) :
      Tells events P
        (fun s => s.callTaken t args keywords : Stateful RegistrySession Result) s := by
    obtain ⟨es, hes, hf⟩ := invoke_tells P t.name args keywords scene
    refine ⟨es, ?_, fun f he => hf f ?_⟩
    · exact (congrArg World.events hworld).trans
        (hes.trans (congrArg (fun w => es ++ World.events w) hw))
    · have hmap := hresult.symm.trans he
      cases hr : ((invoke t.name args keywords).perform scene).1 with
      | error g =>
          rw [hr] at hmap
          exact congrArg Except.error (Except.error.inj hmap)
      | ok v =>
          rw [hr] at hmap
          cases hmap
  -- What was taken is called on the registry that it belongs to, also if that was replaced.
  cases hold : t.old with
  | none => exact hcalled s.scene rfl (by rw [callTaken, hold]) (by rw [callTaken, hold])
  | some old =>
      exact hcalled { s.scene with helpers := old } rfl (by rw [callTaken, hold])
        (by rw [callTaken, hold])

/-- A step of a registry tells of what it fails with, but not that the call proxy does not know
    a name. -/
theorem step_tells (s : RegistrySession) (st : RegistryStep) :
    Tells events (fun _ => st.Misses s.scene.helpers)
      (fun s => s.step st : Stateful RegistrySession Result) s := by
  -- All steps but one are those of the table. What was taken before is called by the session.
  obtain ⟨es, hes, hf⟩ := tableStep_tells st s.scene
  rcases h : (tableStep st).perform s.scene with ⟨r, scene⟩
  rw [h] at hes hf
  have htable (hst : (s.step st).2.scene.world = scene.world)
      (hfault : ∀ f, (s.step st).1 = .error f → r = .error f) :
      Tells events (fun _ => st.Misses s.scene.helpers)
        (fun s => s.step st : Stateful RegistrySession Result) s :=
    ⟨es, (congrArg World.events hst).trans hes, fun f he => hf f (hfault f he)⟩
  cases st with
  | callTaken args keywords =>
      cases ht : s.taken with
      | none =>
          have hstep : s.step (.callTaken args keywords) =
              (.error (.misuse (.notCallable "NoneType")), s) := by
            simp only [step, ht]
            rfl
          refine .silent (congrArg (fun r => events r.2) hstep) fun f hf ho => ?_
          cases (congrArg Prod.fst hstep).symm.trans hf
          exact absurd ho (Fault.Foreign.not_ofLibrary trivial)
      | some t =>
          have hstep : s.step (.callTaken args keywords) = s.callTaken t args keywords := by
            simp only [step, ht]
          obtain ⟨es, hes, hf⟩ := callTaken_tells (fun _ =>
            (RegistryStep.callTaken args keywords).Misses s.scene.helpers) s t args keywords
          exact ⟨es, (congrArg (fun r => events r.2) hstep).trans hes,
            fun f he => hf f ((congrArg Prod.fst hstep).symm.trans he)⟩
  | _ =>
      cases r with
      | error _ | ok _ => exact htable (by rw [step, h]) (by rw [step, h]; exact fun _ => id)

/-- Nothing is done if the call proxy does not know a name. -/
theorem step_missed {s : RegistrySession} {st : RegistryStep} (h : st.Misses s.scene.helpers) :
    ∃ name, s.step st = (.error (.unknownHelper name), s) := by
  cases st with
  | call name args keywords =>
      refine ⟨name, ?_⟩
      have htable : (tableStep (.call name args keywords)).perform s.scene =
          (.error (.unknownHelper name), s.scene) :=
        Stateful.perform_bind_error (callByProxy_unknown h .registry args keywords) _
      rw [step, htable]
  | take name =>
      refine ⟨name, ?_⟩
      have htable : (tableStep (.take name)).perform s.scene =
          (.error (.unknownHelper name), s.scene) := by
        rw [tableStep, Stateful.perform_bind_ok (Stateful.perform_get _), if_neg h]
        rfl
      rw [step, htable]
  | _ => exact h.elim

theorem step_warns (st : RegistryStep) :
    WarnsUnless (fun s : RegistrySession => s.scene.world)
      (fun s _ => st.Misses s.scene.helpers) (fun s => s.step st) := by
  refine .of_tells (fun s => step_tells s st) fun s f s' h hf => ?_
  obtain ⟨name, hname⟩ := step_missed hf
  cases (congrArg Prod.snd hname).symm.trans (congrArg Prod.snd h)
  exact .refl _

end RegistrySession

/-! ## The command line -/

/-- An output cannot be written. -/
def Fault.Unwritable : Fault → Prop
  | .unwritable _ _ => True
  | _ => False

theorem Output.writeToFile_tells (path : Path) (text : String) (w : World) :
    Act.Tells Fault.Unwritable (writeToFile path text) w := by
  unfold writeToFile
  refine .bind (.log _ _ _ _) fun _ w₁ => .get ?_
  split
  · exact .set rfl
  · exact .throw fun _ => trivial
  · rename_i f _ hf
    exact .foreign (Files.write_foreign _ _ _ _ f hf)

/-- If a file cannot be written, that it was to be written is all that is logged. -/
theorem Output.writeToFile_failed {path : Path} {text : String} {f : Fault} {w' : World}
    (h : (writeToFile path text).perform w = (.error f, w')) : w.Calm w' := by
  unfold writeToFile at h
  rw [Stateful.perform_bind_ok (Act.perform_log _ _ _ _ w),
    Stateful.perform_bind_ok (Stateful.perform_get _)] at h
  have hw : w' = w.log ⟨.info, source, "writing_output_to_file", [("path", .text path.text)]⟩ := by
    split at h
    · cases h
    · exact (congrArg Prod.snd h).symm
    · exact (congrArg Prod.snd h).symm
  exact hw ▸ (World.Calm.refl w).log (by decide : ¬Level.warning.rank ≤ Level.info.rank)

theorem Output.writeToFile_warns (path : Path) (text : String) :
    WarnsUnless id (fun _ => Fault.Unwritable) (writeToFile path text) :=
  .of_tells (writeToFile_tells path text) fun _ _ _ h _ => writeToFile_failed h

namespace Command

theorem config_tells (r : Request) (g : Globals) (w : World) :
    Act.Tells Fault.Unbuildable (r.config g) w := Config.load_tells _ _ _ w

theorem renderText_tells (r : Request) (g : Globals) (data : Bindings) (w : World) :
    Act.Tells (fun _ => True) (renderText r g data) w := by
  unfold renderText
  refine .bind ((config_tells r g w).mono fun _ _ _ => trivial) fun c w₁ =>
    .bind (View.get_tells _ _ _ _ _ _ w₁) fun v w₂ => .get ?_
  exact (within (v.render_tells data [] ⟨v.data, v.helpers, w₂⟩)).mono fun _ _ _ => trivial

theorem deliver_tells (output : Option String) (text : String) (w : World) :
    Act.Tells Fault.Unwritable (deliver output text) w := by
  unfold deliver
  split
  · exact .bind (Output.writeToFile_tells _ text w) fun _ _ => .pure _
  · exact .pure _

/-- All faults of rendering by the command line are told of. -/
theorem render_tells (P : Fault → Prop) (r : Request) (g : Globals) (data : Bindings) (w : World) :
    Act.Tells P (render r g data) w := by
  unfold render
  refine .bind (.log _ _ _ _) fun _ w₁ => .tryCatch (.bind (renderText_tells r g data w₁)
    fun text w₂ => (deliver_tells _ text w₂).mono fun _ _ _ => trivial) fun f w₂ _ => ?_
  simp only
  split
  · exact .report (by decide) _ _ _ _
  · rename_i hno
    exact .throw fun ho => absurd ho.1 hno

theorem render_warns (r : Request) (g : Globals) (data : Bindings) :
    WarnsUnless id (fun _ _ => False) (render r g data) := .of_all (render_tells _ r g data)

/-- Asking for an owner tells of what it fails with, but not that no configuration can be built.
    Once there is one, it logs nothing more if the name is refused. -/
theorem resolve_warned {r : Request} {g : Globals} {f : Fault} {w' : World}
    (h : (resolve r g).perform w = (.error f, w')) (ho : f.OfLibrary) :
    w.Warned w' ∨ (f.Unbuildable ∧ (r.config g).perform w = (.error f, w')) ∨
      (Resolution.Refuses (.text r.name) f ∧ ∃ c, (r.config g).perform w = (.ok c, w')) := by
  unfold resolve at h
  rcases hconfig : (r.config g).perform w with ⟨f' | c, w₁⟩
  · rw [Stateful.perform_bind_error hconfig] at h
    cases h
    exact ((config_tells r g w).warned hconfig ho).symm.imp_right fun hf => .inl ⟨hf, rfl⟩
  rw [Stateful.perform_bind_ok hconfig] at h
  cases hcs : Resolution.candidates c.templateRoot (.text r.name) c.extensions with
  | error f' =>
      rw [hcs, Stateful.perform_bind_error (Act.perform_ofExcept _ w₁)] at h
      cases h
      have hrefuses := (Resolution.candidates_fails _ _ _ f hcs).resolve_left
        fun hforeign => hforeign.not_ofLibrary ho
      exact .inr (.inr ⟨hrefuses, c, rfl⟩)
  | ok cs =>
      -- With both candidates no more faults are the library's own.
      have hprobe (files : Files) (q : Resolution) :
          Stateful.Fails Foreign (Act.ofExcept (probe files q)) :=
        .ofExcept ((Files.asks_foreign _ _ _).bind fun _ => .ok)
      have hrest : Stateful.Fails Foreign (do
          let w ← get
          let a ← Act.ofExcept (probe w.files cs.1)
          let b ← Act.ofExcept (probe w.files cs.2)
          return tell w.host c r.name [a, b] : Act Outcome) :=
        .bind .get fun w => .bind (hprobe _ _) fun _ => .bind (hprobe _ _) fun _ => .pure _
      rw [hcs, Stateful.perform_bind_ok (Act.perform_ofExcept _ w₁)] at h
      exact absurd ho (hrest w₁ f (congrArg Prod.fst h)).not_ofLibrary

end Command

/-- A fault of the library is told of wherever the library is used, but for what is left out there.
    Of what is left out nothing grave is logged: of a name that is refused, a template or a script
    that is gone, a name that the call proxy does not know, and an output that cannot be written;
    if no configuration can be built nothing is logged any more, and if the owner of a name that
    is refused is asked for, no more than the configuration logs. -/
theorem faults_told (name : Value) (path : Path) (data : Bindings) (r : Command.Request)
    (g : Command.Globals) :
    (∀ root ext, FailsOf (fun f => f.OfLibrary → Resolution.Refuses name f)
      (Resolution.candidates root name ext)) ∧
    (∀ root ext, WarnsUnless id (fun _ => Resolution.Refuses name)
      (Resolution.resolve root name ext)) ∧
    (∀ e, WarnsUnless id (fun _ => Fault.NoTemplate name) (Engine.load e name)) ∧
    (∀ e, WarnsUnless id (fun _ => Fault.NoTemplate name) (Engine.render e name data)) ∧
    WarnsUnless id (fun _ => Fault.Gone) (RawScript.compile path) ∧
    (∀ owner, WarnsUnless Scene.world (fun _ _ => False) (renderScript nestedRender owner path)) ∧
    (∀ v helpers, WarnsUnless Scene.world
      (fun s => View.Misses v.name v.config s.world.files) (View.render v data helpers)) ∧
    (∀ s before st after f, ((Session.run s before).2.step st).1 = .error f → f.OfLibrary →
      ¬(s.run before).2.Untold st f →
        (s.run before).2.world.Warned (s.run (before ++ st :: after)).2.world) ∧
    (∀ st, WarnsUnless (fun s : RegistrySession => s.scene.world)
      (fun s _ => st.Misses s.scene.helpers) (fun s => s.step st)) ∧
    (∀ owner helper args keywords s, ¬Registry.proxyHas (Scene.helpers s) helper →
      (callByProxy owner helper args keywords).perform s = (.error (.unknownHelper helper), s)) ∧
    (∀ profile overrides searchDir w f w',
      (Config.load profile overrides searchDir).perform w = (.error f, w') → f.OfLibrary →
        w.Warned w' ∨ f.Unbuildable ∧ Config.Chosen profile searchDir w w') ∧
    (∀ text, WarnsUnless id (fun _ => Fault.Unwritable) (Output.writeToFile path text)) ∧
    WarnsUnless id (fun _ _ => False) (Command.render r g data) ∧
    (∀ w f w', (Command.resolve r g).perform w = (.error f, w') → f.OfLibrary →
      w.Warned w' ∨ (f.Unbuildable ∧ (r.config g).perform w = (.error f, w')) ∨
        (Resolution.Refuses (.text r.name) f ∧ ∃ c, (r.config g).perform w = (.ok c, w'))) := by
  refine ⟨fun root ext f hf ho => ?_, fun root => Resolution.resolve_warns root name,
    fun e => Engine.load_warns e name, fun e => Engine.render_warns e name data,
    RawScript.compile_warns path, fun owner => renderScript_warns owner path,
    fun v => v.render_warns data,
    fun s before st after f hf ho hno => Session.run_warned hf ho hno after,
    RegistrySession.step_warns,
    fun owner helper args keywords s h => callByProxy_unknown h owner args keywords,
    fun profile overrides searchDir w f w' h ho => ?_, Output.writeToFile_warns path,
    Command.render_warns r g data, fun w f w' h ho => Command.resolve_warned h ho⟩
  · exact (Resolution.candidates_fails root name ext f hf).resolve_left fun h => h.not_ofLibrary ho
  · exact ((Config.load_tells profile overrides searchDir w).warned h ho).symm.imp_right
      fun hf => ⟨hf, Config.load_unbuildable h hf⟩

/-- A view in a world without templates. -/
def bareView (name : String) : View := ⟨.text name, .default, 0, [], []⟩

/-- A world without templates. -/
def bareWorld : World := .ofFiles ⟨[]⟩ 0 "" ⟨.here, ["settings.toml"]⟩

/-- A request without options. -/
def bareRequest (name : String) : Command.Request := ⟨.render, name, ⟨[], [name]⟩⟩

/-- That a template is not found is told of. -/
theorem faults_told_absent : ∃ f s',
    ((bareView "greet").render [] []).perform ⟨[], [], bareWorld⟩ = (.error f, s') ∧
      f.kind = "TemplateNotFoundError" ∧ bareWorld.Warned s'.world := by
  obtain ⟨-, -, -, -, -, -, hviews, -⟩ := faults_told (.text "greet") ⟨.here, []⟩ []
    (bareRequest "greet") ⟨none, .warning, false⟩
  have hresolve : ∃ e, (bareView "greet").resolve.perform bareWorld =
      (.error (.templateMissing "templates/greet.pyt" none), bareWorld.log e) := ⟨_, rfl⟩
  obtain ⟨e, hresolve⟩ := hresolve
  have hrender := View.render_unresolved (s := ⟨[], [], bareWorld⟩) [] [] _ hresolve
  refine ⟨_, _, hrender, rfl, (hviews _ _ _ _ _ hrender ⟨by decide, trivial⟩).mpr ?_⟩
  exact nofun

/-- But that a name is refused is not. -/
theorem not_all_told : ¬∀ (s : Session) (st : Step) (f : Fault), (s.step st).1 = .error f →
    f.OfLibrary → s.world.Warned (s.step st).2.world := by
  intro h
  exact (World.Calm.refl bareWorld).not_warned
    (h ⟨bareWorld, [], [("v", bareView "")], []⟩ (.onView "v" (.render [] [])) .emptyName rfl
      ⟨by decide, trivial⟩)

end Stencil
