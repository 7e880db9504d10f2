import Stencil.Proofs.Calls
import Stencil.Proofs.Deeds

/-!
# What a render does before its script runs

A render finds out who owns its name, merges the data of the call into that of the view and,
if a script owns the name, the helpers of the call into those of the view. Then it reads the
script. All of this happens before any helper is called, so it is the same however helpers
are called. If it ends with a script, that is run in the scene that is reached by then.

## Main definitions

* `Staged`: A script that a render has come to.
* `stage`: What a render does without running a script.
* `Staged.play`: Running the script.
* `ownedScript`: The script that is read from the files, or why it is not.

## Theorems

* `renderOwned_eq`: A render is staged, and then its script is run.
* `stage_unresolved`, `stage_compiled`, `stage_rawScript`: What is staged for whom.
* `Registry.add_perform`, `Registry.remove_perform`, `Registry.mergeDefaults_perform`: What
  becomes of the helpers of a scene.
* `View.get_made`: What a view that is made holds.
* `Staged.play_alike`: A script does the same in two ways of calling helpers that are alike.
-/

namespace Stencil

/-- A script that a render has come to, and the scene in which it starts. -/
structure Staged where
  path : Path
  program : Script.Program
  scene : Scene

namespace Staged

/-- What the script is given. -/
def setting (b : Staged) (call : Script.Caller) : Script.Setting :=
  ⟨b.path.text, b.scene.data, call⟩

/-- What the script does, in order. -/
def deeds (b : Staged) (call : Script.Caller) : List Script.Deed :=
  Script.runDeeds (b.setting call) b.program b.scene

/-- Runs the script. -/
def play (b : Staged) (call : Script.Caller) : Play String := do
  let text ← tryCatch (Script.run (b.setting call) b.program) fun f => do
    if f.isOrdinary then
      Play.log .error RawScript.source "raw_script_execution_failed"
        [("path", .text b.path.text), ("error", .text f.message), ("error_type", .text f.kind)]
    throw f
  Play.log .debug RawScript.source "raw_script_rendered"
    [("path", .text b.path.text), ("length", .int text.length)]
  return text

end Staged

/-- Reads the script in a file. -/
def stageScript (path : Path) : Play Staged := do
  let s ← get
  if ← Play.ofExcept (s.world.files.isFile path) then
    let program ← Play.ofAct (RawScript.compile path)
    Play.log .info RawScript.source "rendering_raw_script"
      [("path", .text path.text), ("context_keys", .list (s.data.keys.map Value.text))]
    return ⟨path, program, ← get⟩
  else
    Play.log .warning RawScript.source "raw_script_missing" [("path", .text path.text)]
    throw (.templateMissing path.text none)

/-- Renders the owner of a name that was found, up to the script if a script it is. -/
def stageOwner (name : Value) (engine : EngineId) (helpers : List (String × Helper))
    (resolution : Resolution) : Play (String ⊕ Staged) :=
  match resolution.kind with
  | .compiled => do
    if !helpers.isEmpty then
      Play.log .debug View.source "call_scoped_helpers_ignored_for_compiled_template"
        [("name", name), ("helpers", View.sortedNames (helpers.map (·.1)))]
    let data := (← get).data
    return .inl (← Play.ofAct (Engine.render engine name data))
  | .rawScript => do
    if !helpers.isEmpty then Registry.mergeDefaults helpers
    return .inr (← stageScript resolution.path)

/-- What a render does without running a script. It ends with the text, or with the script
    that is to give it. -/
def stage (name : Value) (config : Config) (engine : EngineId) (data : Bindings)
    (helpers : List (String × Helper)) : Play (String ⊕ Staged) := do
  let resolution ← Play.ofAct (Resolution.resolve config.templateRoot name config.extensions)
  View.setAll data
  stageOwner name engine helpers resolution

/-- What is left to do then: to run the script, if there is one. -/
def finish (call : Script.Caller) : String ⊕ Staged → Play String
  | .inl text => return text
  | .inr b => b.play call

/-- A render, given how its script calls helpers. -/
def renderCalling (call : Script.Caller) (name : Value) (config : Config) (engine : EngineId)
    (data : Bindings) (helpers : List (String × Helper)) : Play String :=
  stage name config engine data helpers >>= finish call

variable {name : Value} {config : Config} {engine : EngineId} {data : Bindings}
  {helpers : List (String × Helper)} {s : Scene} {b : Staged} {nested : Nested} {owner : Owner}
  {path : Path}

theorem renderScript_perform (nested : Nested) (owner : Owner) (path : Path) (s : Scene) :
    (renderScript nested owner path).perform s =
      (stageScript path >>= (·.play (callHelper nested owner))).perform s := by
  rw [renderScript, stageScript, bind_assoc, Stateful.perform_bind_ok (Stateful.perform_get s),
    Stateful.perform_bind_ok (Stateful.perform_get s), bind_assoc]
  cases hfile : s.world.files.isFile path with
  | error f => rfl
  | ok there =>
      have hisFile : (Play.ofExcept (Except.ok there : Except Fault Bool)).perform s =
          (.ok there, s) := rfl
      rw [Stateful.perform_bind_ok hisFile, Stateful.perform_bind_ok hisFile]
      cases there with
      | false => rfl
      | true =>
          simp only [if_true]
          cases hcompile : (Play.ofAct (RawScript.compile path)).perform s with
          | mk r s₁ =>
              -- Reading the script changes the world only, so the data are still the same.
              have hdata : s₁.data = s.data := by
                rw [Play.perform_ofAct] at hcompile
                exact (congrArg (·.2.data) hcompile).symm
              cases r with
              | error f =>
                  rw [Stateful.perform_bind_error hcompile, bind_assoc,
                    Stateful.perform_bind_error hcompile]
              | ok program =>
                  rw [Stateful.perform_bind_ok hcompile, bind_assoc,
                    Stateful.perform_bind_ok hcompile, bind_assoc,
                    Stateful.perform_bind_ok (Play.perform_log _ _ _ _ s₁),
                    Stateful.perform_bind_ok (Play.perform_log _ _ _ _ s₁),
                    bind_assoc, Stateful.perform_bind_ok (Stateful.perform_get _), pure_bind,
                    Staged.play, Staged.setting, hdata]

theorem renderScript_eq :
    renderScript nested owner path = stageScript path >>= (·.play (callHelper nested owner)) :=
  funext (renderScript_perform nested owner path)

/-- A render is staged, and then its script is run. -/
theorem renderOwned_eq :
    renderOwned nested name config engine data helpers =
      renderCalling (callHelper nested (.view name config engine)) name config engine data
        helpers := by
  rw [renderOwned, renderCalling, stage, bind_assoc]
  refine bind_congr fun resolution => ?_
  rw [bind_assoc]
  refine bind_congr fun _ => ?_
  rw [stageOwner]
  -- The helpers of the call make a step of their own, unless there are none.
  cases resolution.kind with
  | compiled => cases helpers.isEmpty <;> simp [finish]
  | rawScript => cases helpers.isEmpty <;> simp [finish, renderScript_eq]

theorem View.render_eq (v : View) (data : Bindings) (helpers : List (String × Helper)) :
    v.render data helpers =
      stage v.name v.config v.engine data helpers >>= finish (callHelper nestedRender v.owner) :=
  renderOwned_eq

/-- The script that reading a file gives. -/
def scriptAt (files : Files) (path : Path) : Except Fault Script.Program :=
  match files.contentAt path with
  | .error (.system .missing p) =>
    .error (.templateMissing path.text (some (.system .missing p)))
  | .error f => .error f
  | .ok (.script p) => .ok p
  | .ok (.brokenScript line) => .error (.brokenScript path.text (.scriptSyntax path.name line))
  | .ok content =>
    content.chars.bind fun cs => (Script.ofText? cs).elim (.error (.unknownScript path.text)) .ok

/-- The script of a file, if it is one. -/
def ownedScript (files : Files) (path : Path) : Except Fault Script.Program :=
  match files.isFile path with
  | .error f => .error f
  | .ok true => scriptAt files path
  | .ok false => .error (.templateMissing path.text none)

/-- Reading a script depends on its file only. -/
theorem compile_perform (path : Path) (w : World) :
    ∃ w', w.Logged w' ∧ (RawScript.compile path).perform w = (scriptAt w.files path, w') := by
  rw [RawScript.compile, scriptAt, Stateful.perform_bind_ok (Stateful.perform_get w)]
  cases w.files.contentAt path with
  | error f => cases f with
    | system r p => cases r <;> exact ⟨w, .refl w, rfl⟩
    | _ => exact ⟨w, .refl w, rfl⟩
  | ok content => cases content with
    | script p => exact ⟨w, .refl w, rfl⟩
    | brokenScript line => exact ⟨_, ⟨[_], rfl⟩, rfl⟩
    | _ =>
        -- Any other content is read as text, if it can be.
        refine ⟨w, .refl w, ?_⟩
        simp only
        rw [Stateful.perform_bind, Act.perform_ofExcept]
        generalize Content.chars _ = chars
        cases chars with
        | error f => rfl
        | ok cs =>
            simp only [Except.bind]
            cases Script.ofText? cs <;> rfl

/-- The script that is read starts in the scene in which it was read. -/
theorem stageScript_perform (path : Path) (s : Scene) :
    ∃ w, s.world.Logged w ∧ (stageScript path).perform s =
      ((ownedScript s.world.files path).map fun p => ⟨path, p, { s with world := w }⟩,
        { s with world := w }) := by
  rw [stageScript, ownedScript, Stateful.perform_bind_ok (Stateful.perform_get s)]
  -- Asking for the file may fail, the file may be gone, and it may be no script.
  cases hfile : s.world.files.isFile path with
  | error f => exact ⟨s.world, .refl _, rfl⟩
  | ok there =>
      have hisFile : (Play.ofExcept (Except.ok there : Except Fault Bool)).perform s =
          (.ok there, s) := rfl
      rw [Stateful.perform_bind_ok hisFile]
      cases there with
      | false => exact ⟨_, ⟨[_], rfl⟩, rfl⟩
      | true =>
          simp only [if_true]
          rcases compile_perform path s.world with ⟨w, hlog, hcompile⟩
          have hplay : (Play.ofAct (RawScript.compile path)).perform s =
              (scriptAt s.world.files path, { s with world := w }) := by
            rw [Play.perform_ofAct, hcompile]
          cases hscript : scriptAt s.world.files path with
          | error f =>
              rw [hscript] at hplay
              exact ⟨w, hlog, Stateful.perform_bind_error hplay _⟩
          | ok program =>
              rw [hscript] at hplay
              rw [Stateful.perform_bind_ok hplay]
              exact ⟨_, hlog.trans ⟨[_], rfl⟩, rfl⟩

theorem Registry.add_perform (n : String) (h : Helper) (s : Scene) :
    ∃ w, (Registry.add n h).perform s =
      if n = "" then (.error (.refused .emptyHelperName), s)
      else if s.helpers.has n then (.error (.duplicateHelper n), { s with world := w })
      else (.ok (), ⟨s.data, s.helpers.bind n ⟨h, 0⟩, w⟩) := by
  rw [Registry.add]
  by_cases hn : n = ""
  · simp only [if_pos hn]
    exact ⟨s.world, rfl⟩
  · simp only [if_neg hn]
    rw [Stateful.perform_bind_ok (Stateful.perform_get s)]
    cases s.helpers.has n <;> exact ⟨_, rfl⟩

theorem Registry.remove_perform (n : String) (s : Scene) :
    ∃ w, (Registry.remove n).perform s =
      if s.helpers.has n then (.ok (), ⟨s.data, s.helpers.unbind n, w⟩)
      else (.error (.unknownHelper n), { s with world := w }) := by
  rw [Registry.remove, Stateful.perform_bind_ok (Stateful.perform_get s)]
  cases s.helpers.has n <;> exact ⟨_, rfl⟩

/-- Merging stops at an empty name, and what was merged before stays. -/
theorem Registry.mergeDefaults_perform (helpers : List (String × Helper)) (s : Scene) :
    ∃ w, s.world.Logged w ∧ (Registry.mergeDefaults helpers).perform s =
      (if (s.helpers.overlay helpers).2 then .error (.refused .emptyHelperName) else .ok (),
        ⟨s.data, (s.helpers.overlay helpers).1, w⟩) := by
  rw [mergeDefaults, Stateful.perform_bind_ok (Stateful.perform_get s)]
  rcases s.helpers.overlay helpers with ⟨t, stopped⟩
  simp only
  rw [Stateful.perform_bind_ok (Stateful.perform_modify _ s)]
  cases stopped with
  | true => exact ⟨s.world, .refl _, rfl⟩
  | false => cases helpers with
    | nil => exact ⟨s.world, .refl _, rfl⟩
    | cons e es => exact ⟨_, ⟨[_], rfl⟩, rfl⟩

/-- The helpers that a view is given are laid over an empty table. -/
theorem mergeGiven_perform (data : Bindings) (helpers : List (String × Helper)) (w : World) :
    ∃ r w', w.Logged w' ∧
      (if helpers.isEmpty then pure () else Registry.mergeDefaults helpers : Play Unit).perform
        ⟨data, [], w⟩ = (r, ⟨data, (HelperTable.overlay [] helpers).1, w'⟩) := by
  cases helpers with
  | nil => exact ⟨.ok (), w, .refl w, rfl⟩
  | cons e es =>
      rcases Registry.mergeDefaults_perform (e :: es) ⟨data, [], w⟩ with ⟨w', hlog, hmerge⟩
      exact ⟨_, w', hlog, hmerge⟩

/-- A view is made with its name and data, with its helpers laid over none, and with the
    configuration that is given if it gets an engine of its own. -/
theorem View.get_made {name : Value} {data : Bindings} {helpers : List (String × Helper)}
    {config : Option Config} {engine : Option EngineId} {v : View} {w w' : World}
    (h : (View.get name data helpers config engine).perform w = (.ok v, w')) :
    v.name = name ∧ v.data = data ∧ v.helpers = (HelperTable.overlay [] helpers).1 ∧
      (engine = none → ∀ c, config = some c → v.config = c) := by
  rw [View.get] at h
  obtain ⟨given, w₁, hgiven, h⟩ := Stateful.exists_of_perform_bind h
  obtain ⟨c, w₂, hchoose, h⟩ := Stateful.exists_of_perform_bind h
  -- The engine is there or made, and from then on both go the same way.
  have hmade : v.name = name ∧ v.data = data ∧
      v.helpers = (HelperTable.overlay [] helpers).1 ∧ v.config = c := by
    cases engine with
    | none | some id =>
        obtain ⟨id', w₃, -, h⟩ := Stateful.exists_of_perform_bind h
        obtain ⟨-, w₄, -, h⟩ := Stateful.exists_of_perform_bind h
        obtain ⟨w₅, w₆, -, h⟩ := Stateful.exists_of_perform_bind h
        obtain ⟨r, w₇, -, hmerge⟩ := mergeGiven_perform data helpers w₅
        simp only [hmerge] at h
        obtain ⟨-, w₈, -, h⟩ := Stateful.exists_of_perform_bind h
        obtain ⟨-, w₉, -, h⟩ := Stateful.exists_of_perform_bind h
        cases h
        exact ⟨rfl, rfl, rfl, rfl⟩
  refine ⟨hmade.1, hmade.2.1, hmade.2.2.1, ?_⟩
  rintro rfl _ rfl
  -- Without an engine there is only the configuration that is given.
  cases hgiven
  cases hchoose
  exact hmade.2.2.2

section

variable {w : World} {resolution : Resolution} (engine : EngineId) (data : Bindings)
  (helpers : List (String × Helper))

/-- A name without an owner leaves the data and the helpers alone. -/
theorem stage_unresolved {f : Fault}
    (h : (Resolution.resolve config.templateRoot name config.extensions).perform s.world =
      (.error f, w)) :
    (stage name config engine data helpers).perform s = (.error f, { s with world := w }) := by
  rw [stage]
  exact Stateful.perform_bind_error (by rw [Play.perform_ofAct, h]) _

/-- So a render of such a name leaves them alone. -/
theorem View.render_unresolved (v : View) {f : Fault}
    (h : v.resolve.perform s.world = (.error f, w)) :
    (v.render data helpers).perform s = (.error f, { s with world := w }) := by
  rw [View.render_eq]
  exact Stateful.perform_bind_error (stage_unresolved v.engine data helpers h) _

theorem stage_resolved
    (h : (Resolution.resolve config.templateRoot name config.extensions).perform s.world =
      (.ok resolution, w)) :
    (stage name config engine data helpers).perform s =
      (stageOwner name engine helpers resolution).perform
        ⟨s.data.update data, s.helpers, w⟩ := by
  have hresolve : (Play.ofAct (Resolution.resolve config.templateRoot name
      config.extensions)).perform s = (.ok resolution, { s with world := w }) := by
    rw [Play.perform_ofAct, h]
  rw [stage, Stateful.perform_bind_ok hresolve]
  rfl

/-- A template gets the data, and ends with a text. -/
theorem stage_compiled
    (h : (Resolution.resolve config.templateRoot name config.extensions).perform s.world =
      (.ok resolution, w)) (hk : resolution.kind = .compiled) :
    ∃ (r : Except Fault String) (w' : World), (stage name config engine data helpers).perform s =
      (r.map Sum.inl, ⟨s.data.update data, s.helpers, w'⟩) := by
  have hrender : ∀ s : Scene, ∃ (r : Except Fault String) (w' : World), (do
      let data := (← get).data
      return .inl (← Play.ofAct (Engine.render engine name data)) :
        Play (String ⊕ Staged)).perform s = (r.map Sum.inl, ⟨s.data, s.helpers, w'⟩) := by
    intro s
    refine ⟨((Engine.render engine name s.data).perform s.world).1,
      ((Engine.render engine name s.data).perform s.world).2, ?_⟩
    rw [Stateful.perform_bind_ok (Stateful.perform_get s), Stateful.perform_bind,
      Play.perform_ofAct]
    rcases ((Engine.render engine name s.data).perform s.world).1 with f | text <;> rfl
  rw [stage_resolved engine data helpers h, stageOwner]
  simp only [hk]
  cases helpers with
  | nil => exact hrender _
  | cons e es =>
      simp only [List.isEmpty_cons, Bool.not_false, if_true]
      rw [Stateful.perform_bind_ok (Play.perform_log _ _ _ _ _)]
      exact hrender _

/-- A script gets the data and the helpers, and starts with them unless an empty name stopped
    the merge. -/
theorem stage_rawScript
    (h : (Resolution.resolve config.templateRoot name config.extensions).perform s.world =
      (.ok resolution, w)) (hk : resolution.kind = .rawScript) :
    ∃ (r : Except Fault Script.Program) (w' : World), w.Logged w' ∧
      (stage name config engine data helpers).perform s =
        (r.map fun p => .inr ⟨resolution.path, p,
            ⟨s.data.update data, (s.helpers.overlay helpers).1, w'⟩⟩,
          ⟨s.data.update data, (s.helpers.overlay helpers).1, w'⟩) ∧
      ((s.helpers.overlay helpers).2 = true → r = .error (.refused .emptyHelperName)) := by
  have hscript : ∀ s : Scene, ∃ (r : Except Fault Script.Program) (w' : World),
      s.world.Logged w' ∧ (do
        return .inr (← stageScript resolution.path) : Play (String ⊕ Staged)).perform s =
          (r.map fun p => .inr ⟨resolution.path, p, { s with world := w' }⟩,
            { s with world := w' }) := by
    intro s
    rcases stageScript_perform resolution.path s with ⟨w', hlog, hstage⟩
    refine ⟨ownedScript s.world.files resolution.path, w', hlog, ?_⟩
    rw [Stateful.perform_bind, hstage]
    cases ownedScript s.world.files resolution.path <;> rfl
  rw [stage_resolved engine data helpers h, stageOwner]
  simp only [hk]
  -- Without helpers nothing is merged, and so nothing is logged of it.
  cases helpers with
  | nil =>
      rcases hscript ⟨s.data.update data, s.helpers, w⟩ with ⟨r, w', hlog, hr⟩
      exact ⟨r, w', hlog, hr, nofun⟩
  | cons e es =>
      rcases Registry.mergeDefaults_perform (e :: es) ⟨s.data.update data, s.helpers, w⟩ with
        ⟨w₁, hlog, hmerge⟩
      cases hstopped : (s.helpers.overlay (e :: es)).2 with
      | true =>
          refine ⟨.error (.refused .emptyHelperName), w₁, hlog, ?_, fun _ => rfl⟩
          rw [hstopped] at hmerge
          exact Stateful.perform_bind_error hmerge _
      | false =>
          rw [hstopped] at hmerge
          rcases hscript ⟨s.data.update data, (s.helpers.overlay (e :: es)).1, w₁⟩ with
            ⟨r, w', hlog', hr⟩
          refine ⟨r, w', hlog.trans hlog', ?_, nofun⟩
          rw [← hr]
          exact Stateful.perform_bind_ok hmerge _

/-- Unless an empty name stopped the merge, the script is run with the data and the helpers. -/
theorem View.render_rawScript (v : View)
    (h : v.resolve.perform s.world = (.ok resolution, w)) (hk : resolution.kind = .rawScript)
    (hmerged : (s.helpers.overlay helpers).2 = false) :
    ∃ w', (v.render data helpers).perform s =
      (renderScript nestedRender v.owner resolution.path).perform
        ⟨s.data.update data, (s.helpers.overlay helpers).1, w'⟩ := by
  have hresolve : (Play.ofAct (Resolution.resolve v.config.templateRoot v.name
      v.config.extensions)).perform s = (.ok resolution, { s with world := w }) := by
    rw [Play.perform_ofAct]
    exact congrArg (fun p => (p.1, { s with world := p.2 })) h
  have hset : (View.setAll data).perform { s with world := w } =
      (.ok (), ⟨s.data.update data, s.helpers, w⟩) := rfl
  rw [View.render, renderOwned, Stateful.perform_bind_ok hresolve, Stateful.perform_bind_ok hset]
  simp only [hk]
  cases helpers with
  | nil => exact ⟨w, rfl⟩
  | cons e es =>
      rcases Registry.mergeDefaults_perform (e :: es) ⟨s.data.update data, s.helpers, w⟩ with
        ⟨w', -, hmerge⟩
      rw [hmerged] at hmerge
      exact ⟨w', Stateful.perform_bind_ok hmerge _⟩

/-- If a render comes to a script, this starts where the stage has left off. -/
theorem stage_scene {t : Scene}
    (h : (stage name config engine data helpers).perform s = (.ok (.inr b), t)) :
    b.scene = t := by
  cases hresolve : (Resolution.resolve config.templateRoot name config.extensions).perform
      s.world with
  | mk r w =>
      cases r with
      | error f =>
          rw [stage_unresolved engine data helpers hresolve] at h
          cases h
      | ok resolution =>
          cases hk : resolution.kind with
          | compiled =>
              rcases stage_compiled engine data helpers hresolve hk with ⟨r, w', hstage⟩
              rw [hstage] at h
              cases r <;> cases h
          | rawScript =>
              rcases stage_rawScript engine data helpers hresolve hk with ⟨r, w', -, hstage, -⟩
              rw [hstage] at h
              cases r with
              | error f => cases h
              | ok p =>
                  rcases Prod.mk.inj h with ⟨hb, ht⟩
                  rw [← ht, ← Sum.inr.inj (Except.ok.inj hb)]

end

namespace Staged

variable {call call' : Script.Caller}

/-- Around a script there are only reports on it. -/
theorem play_perform {r : Except Fault String} {t : Scene}
    (h : (Script.run (b.setting call) b.program).perform s = (r, t)) :
    ∃ w, t.world.Logged w ∧ (b.play call).perform s = (r, { t with world := w }) := by
  rw [play, Stateful.perform_bind, Stateful.perform_tryCatch, h]
  cases r with
  | ok text => exact ⟨_, ⟨[_], rfl⟩, rfl⟩
  | error f =>
      cases hf : f.isOrdinary with
      | true =>
          simp only [hf, if_true]
          exact ⟨_, ⟨[_], rfl⟩, rfl⟩
      | false =>
          simp only [hf, Bool.false_eq_true, if_false]
          exact ⟨t.world, .refl _, rfl⟩

/-- A script does the same in two ways of calling helpers that are alike. The scenes in which
    it does need not be the same, but their data do. -/
theorem play_alike {s' : Scene} (hdata : s'.data = b.scene.data)
    (h : Script.Alike call call' (b.deeds call) b.scene s') :
    ∃ r w w',
      (Script.doneAll call (b.deeds call) b.scene).world.Logged w ∧
      (Script.doneAll call' (b.deeds call) s').world.Logged w' ∧
      (b.play call).perform b.scene =
        (r, { Script.doneAll call (b.deeds call) b.scene with world := w }) ∧
      (({ b with scene := s' } : Staged).play call').perform s' =
        (r, { Script.doneAll call' (b.deeds call) s' with world := w' }) := by
  rcases Script.run_alike (b.setting call) call' h with ⟨r, hrun, hrun'⟩
  have hsetting : (b.setting call).calling call' = setting { b with scene := s' } call' := by
    rw [setting, setting, Script.Setting.calling, hdata]
  rw [hsetting] at hrun'
  rcases play_perform hrun with ⟨w, hlog, hplay⟩
  rcases play_perform (b := { b with scene := s' }) hrun' with ⟨w', hlog', hplay'⟩
  exact ⟨r, w, w', hlog, hlog', hplay, hplay'⟩

/-- The scene after a script is the one before with its deeds done, and reports on it. -/
theorem play_scene (b : Staged) (call : Script.Caller) :
    ∃ w, ((b.play call).perform b.scene).2 =
      { Script.doneAll call (b.deeds call) b.scene with world := w } := by
  rcases play_alike (b := b) rfl (Script.Alike.refl (c := call) (b.deeds call)) with
    ⟨r, w, -, -, -, hplay, -⟩
  exact ⟨w, by rw [hplay]⟩

end Staged

end Stencil
