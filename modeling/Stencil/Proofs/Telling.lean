import Stencil.Proofs.Announcing

/-!
# What helpers, scripts and views tell

Helpers and scripts may do much, but most of what they fail with is not the library's own. What
is comes from tables of helpers, which tell of all that they refuse, and from other templates
that helpers render. A script that fails is told of as a whole, whatever it has failed with, as
it is not for the script to tell.

So all that is left out in rendering a view is what is left out before there is something to
run: its name is refused, or the template that owns it is gone. Calls by name leave out what the
views leave out that helpers render, and the call proxy does not tell that it does not know a
name.

## Main definitions

* `View.Misses`: A view has nothing to render.

## Theorems

* `callHelper_tells`: Calls by name tell of all but what nested renders leave out.
* `Script.run_tells`: Whatever a script does only adds to the log.
* `renderScript_tells`: All faults of scripts are told of.
* `renderNested_tells`: What helpers leave out that render other templates.
* `View.render_tells`, `View.render_missed`: What a view leaves out, and nothing else.
-/

namespace Stencil

open Fault (Foreign)

variable {α β : Type} {P Q : Fault → Prop} {s : Scene} {w : World}

namespace Stateful.Tells

theorem ofAct {a : Act α} (h : Act.Tells P a s.world) : Play.Tells P (Play.ofAct a) s := h

theorem playForeign {r : Except Fault α} (h : FailsOf Foreign r) :
    Play.Tells P (Play.ofExcept r) s := by
  refine .silent (by rw [Play.perform_ofExcept]) fun f hf ho => ?_
  rw [Play.perform_ofExcept] at hf
  exact absurd ho (h f hf).not_ofLibrary

theorem playLog (level : Level) (source name : String) (fields : Bindings) :
    Play.Tells P (Play.log level source name fields) s := .ofAct (.log _ _ _ _)

theorem playReport {level : Level} (hlevel : Level.warning.rank ≤ level.rank)
    (source name : String) (fields : Bindings) (f : Fault) :
    Play.Tells P (do Play.log level source name fields; MonadExcept.throw f : Play α) s :=
  ofAct (report hlevel source name fields f)

/-- What is done in another scene of the world is told of in the world. -/
theorem within {p : Play α} (h : Play.Tells P p s) : Act.Tells P (do
    MonadStateOf.set (p.perform s).2.world
    Act.ofExcept (p.perform s).1 : Act α) s.world := by
  obtain ⟨es, hes, hf⟩ := h
  rw [Act.Tells, Tells, perform_bind_ok (perform_set _ _), Act.perform_ofExcept]
  exact ⟨es, hes, hf⟩

end Stateful.Tells

open Stateful.Tells

/-! ## Tables of helpers -/

namespace Registry

theorem add_tells (P : Fault → Prop) (name : String) (h : Helper) (s : Scene) :
    Play.Tells P (add name h) s := by
  unfold add
  simp only
  split
  · exact .foreign trivial
  · refine .get ?_
    split
    · exact .playReport (by decide) _ _ _ _
    · exact .bind (.changing rfl) fun _ _ => .playLog _ _ _ _

theorem remove_tells (P : Fault → Prop) (name : String) (s : Scene) :
    Play.Tells P (remove name) s := by
  unfold remove
  refine .get ?_
  split
  · exact .bind (.changing rfl) fun _ _ => .playLog _ _ _ _
  · exact .playReport (by decide) _ _ _ _

theorem mergeDefaults_tells (P : Fault → Prop) (hs : List (String × Helper)) (s : Scene) :
    Play.Tells P (mergeDefaults hs) s := by
  unfold mergeDefaults
  refine .get ?_
  simp only
  refine .bind (.changing rfl) fun _ _ => ?_
  split
  · exact .foreign trivial
  · split
    · exact .playLog _ _ _ _
    · exact .pure _

end Registry

namespace View

theorem setData_tells (P : Fault → Prop) (name data : Value) (value : Option Value) (s : Scene) :
    Play.Tells P (setData name data value) s := by
  unfold setData
  split
  · simp only
    split
    · exact .foreign trivial
    · exact .changing rfl
  · split
    · exact .changing rfl
    · exact .playLog _ _ _ _

end View

theorem Helper.argument_foreign (args : List Value) (n : Nat) :
    FailsOf Foreign (argument args n) := by
  rw [argument]
  split
  · exact .ok
  · exact .error trivial

theorem Helper.joinArguments_foreign (sep : Value) (args : List Value) :
    FailsOf Foreign (joinArguments sep args) := by
  rw [joinArguments]
  split
  · exact (FailsOf.mapM (fun v => (Template.str_fails v).mono fun _ => Fault.OfUse.foreign) _).bind
      fun _ => .ok
  · exact .error trivial

theorem HelperEdit.attempt_tells (P : Fault → Prop) (e : HelperEdit) (catches : Fault → Bool) (s : Scene) :
    Play.Tells P (e.attempt catches) s := by
  have hplay : Play.Tells P e.play s := by
    cases e with
    | add n v => exact Registry.add_tells P n (.const v) s
    | remove n => exact Registry.remove_tells P n s
  obtain ⟨es, hes, hf⟩ := hplay
  rw [HelperEdit.attempt, Play.Tells, Stateful.Tells, Stateful.perform_tryCatch, Stateful.perform_bind]
  rcases h : e.play.perform s with ⟨f | ⟨⟩, s'⟩ <;> rw [h] at hes hf
  · -- A fault that goes on was told of where it came up.
    cases hcatch : catches f with
    | false =>
        simp only [hcatch, Bool.false_eq_true, if_false]
        exact ⟨es, hes, fun g hg => hf g (by cases hg; rfl)⟩
    | true =>
        simp only [hcatch, if_true]
        exact ⟨es, hes, fun _ hg => by cases hg⟩
  · exact ⟨es, hes, fun _ hg => by cases hg⟩

/-- What a routine fails with it has raised by name, or it comes of an edit. -/
theorem Routine.perform_tells (P : Fault → Prop) (r : Routine) (s : Scene) :
    Play.Tells P r.perform s := by
  induction r generalizing s with
  | answer v => exact .pure _
  | fail kind args => exact .throw fun ho => ho.2.elim
  | readData next ih => exact .get (ih s.data s)
  | readNames next ih => exact .get (ih s.helpers.names s)
  | write es next ih => exact .bind (.changing rfl) fun _ s₁ => ih s₁
  | edit e next catches caught ih ihcaught =>
      rw [Routine.perform]
      refine .bind (e.attempt_tells P catches s) fun f s₁ => ?_
      cases f with
      | none => exact ih s₁
      | some f => exact ihcaught f s₁

/-- Helpers of their own tell of all that they fail with, unless it is raised by name. -/
theorem Helper.perform_tells (P : Fault → Prop) (owner : Owner) (name : String) (b : HelperBinding)
    (args : List Value) (keywords : List (String × Value)) (s : Scene) :
    Play.Tells P (perform owner name b args keywords) s := by
  have harg (n : Nat) (s : Scene) : Play.Tells P (Play.ofExcept (argument args n)) s :=
    .playForeign (argument_foreign args n)
  -- What helpers refuse by themselves is misuse, which is none of the faults of the library.
  obtain ⟨helper, calls⟩ := b
  unfold perform
  cases helper with
  | const v => exact .pure _
  | echo => exact .pure _
  | join sep => exact .playForeign (joinArguments_foreign _ _)
  | upper => exact .bind (harg 0 s) fun _ _ => .pure _
  | raise kind message => exact .throw fun ho => ho.2.elim
  | count => exact .bind (.changing rfl) fun _ _ => .pure _
  | setData =>
      cases owner with
      | registry => exact .foreign trivial
      | view viewName config engine =>
          have hset (v : Value) (w : Option Value) : Play.Tells P (do
              View.setData viewName v w
              return Value.null) s :=
            .bind (View.setData_tells P viewName v w s) fun _ _ => .pure _
          match args with
          | [] => exact .foreign trivial
          | [v] => exact hset v none
          | [v, w] => exact hset v (some w)
          | _ :: _ :: _ :: _ => exact .foreign trivial
  | getData =>
      cases owner with
      | registry => exact .foreign trivial
      | view viewName config engine =>
          refine .bind (harg 0 s) fun k s₁ => ?_
          split
          · rename_i f hf
            exact .foreign (Value.keyFault?_ofUse hf).foreign
          · exact .get (.pure _)
  | addConst =>
      exact .bind (harg 0 s) fun _ s₁ => .bind (harg 1 s₁) fun _ s₂ =>
        .bind (Registry.add_tells P _ _ s₂) fun _ _ => .pure _
  | remove =>
      exact .bind (harg 0 s) fun _ s₁ => .bind (Registry.remove_tells P _ s₁) fun _ _ => .pure _
  | notCallable => exact .foreign trivial
  | routine steps => exact (steps args keywords).perform_tells P s
  | «include» | includeShared | invoke | absent => exact .pure _

/-! ## Calls of helpers -/

theorem unknownHelper_tells (P : Fault → Prop) (name : Value) (s : Scene) :
    Play.Tells P (unknownHelper name : Play α) s := .playReport (by decide) _ _ _ _

/-- That nothing is bound to a name is told of. -/
theorem boundHelper_tells (P : Fault → Prop) (name : Value) (s : Scene) :
    Play.Tells P (boundHelper name) s := by
  unfold boundHelper
  split
  · rename_i f hf
    exact .foreign (Value.keyFault?_ofUse hf).foreign
  · refine .get ?_
    simp only
    split
    · split
      · exact unknownHelper_tells P name s
      · exact .pure _
    · exact unknownHelper_tells P name s

section

variable {nested : Nested} {owner : Owner}
  (hnested : ∀ shared name data w, Act.Tells P (nested owner shared name data) w)

include hnested

theorem callBound_tells (name : String) (b : HelperBinding) (args : List Value)
    (keywords : List (String × Value)) (s : Scene) :
    Play.Tells P (callBound nested owner name b args keywords) s := by
  have hinclude (shared : Bool) :
      Play.Tells P (includeHelper nested owner shared args keywords) s :=
    .bind (.playForeign (Helper.argument_foreign args 0)) fun name s₁ =>
      .bind (.ofAct (hnested shared name keywords s₁.world)) fun _ _ => .pure _
  unfold callBound
  split
  · exact hinclude false
  · exact hinclude true
  · exact Helper.perform_tells P owner name b args keywords s

theorem applyHelper_tells (args : List Value) (name : String) (b : HelperBinding)
    (keywords : List (String × Value)) (s : Scene) :
    Play.Tells P (applyHelper nested owner args name b keywords) s := by
  induction args generalizing name b keywords s with
  | nil =>
      unfold applyHelper
      split
      · exact .foreign trivial
      · exact callBound_tells hnested name b _ keywords s
  | cons next rest ih =>
      unfold applyHelper
      split
      · exact .bind (boundHelper_tells P next s) fun e s₁ => ih e.1 e.2 [] s₁
      · exact callBound_tells hnested name b _ keywords s

/-- A call of a helper tells of what the templates do not tell of that helpers render. -/
theorem callHelper_tells (className : String) (name : Value) (args : List Value)
    (keywords : List (String × Value)) (s : Scene) :
    Play.Tells P (callHelper nested owner className name args keywords) s := by
  unfold callHelper callNamed
  split
  · exact .foreign trivial
  · exact .bind (boundHelper_tells P name s) fun e s₁ =>
      applyHelper_tells hnested args e.1 e.2 keywords s₁

theorem callProxy_tells (name : String) (args : List Value) (keywords : List (String × Value))
    (s : Scene) :
    Play.Tells P (Script.callProxy (callHelper nested owner) name args keywords) s := by
  unfold Script.callProxy
  split
  · exact .foreign trivial
  · exact callHelper_tells hnested _ _ args keywords s

end

/-! ## Scripts -/

/-- All faults of reading a script are told of, but not that its file is gone. -/
theorem RawScript.compile_tells (path : Path) (w : World) :
    Act.Tells (fun f => f.Gone ∧ w.files.isFile path ≠ .ok true) (compile path) w := by
  unfold compile
  refine .get ?_
  split
  · rename_i hmissing
    refine .throw fun _ => ⟨trivial, fun hfile => ?_⟩
    obtain ⟨c, hc⟩ := Files.contentAt_of_isFile hfile
    rw [hc] at hmissing
    cases hmissing
  · rename_i f _ hf
    exact .foreign (Files.contentAt_foreign _ _ f hf)
  · exact .pure _
  · exact .report (by decide) _ _ _ _
  · refine .bind (.ofForeign (Content.chars_foreign _)) fun cs _ => ?_
    split
    · exact .pure _
    · exact .foreign trivial

/-- Nothing is done if the file is gone. -/
theorem RawScript.compile_silent {path : Path} {f : Fault} {w' : World}
    (h : (compile path).perform w = (.error f, w')) (hf : f.Gone) : w' = w := by
  unfold compile at h
  rw [Stateful.perform_bind_ok (Stateful.perform_get w)] at h
  split at h
  · exact (congrArg Prod.snd h).symm
  · exact (congrArg Prod.snd h).symm
  · cases h
  · cases h
    exact hf.elim
  · rename_i c _ _ _
    cases hchars : c.chars with
    | error g =>
        rw [hchars] at h
        exact (congrArg Prod.snd h).symm
    | ok cs =>
        rw [hchars, Stateful.perform_bind_ok (Act.perform_ofExcept _ w)] at h
        split at h
        · cases h
        · exact (congrArg Prod.snd h).symm

section

variable {nested : Nested} {owner : Owner}
  (hnested : ∀ shared name data w, Act.Tells (fun _ => True) (nested owner shared name data) w)

include hnested

/-- What a script does only adds to the log. -/
theorem Script.run_tells (path : String) (data : Bindings) (p : Program) (s : Scene) :
    Play.Tells (fun _ => True) (run ⟨path, data, callHelper nested owner⟩ p) s := by
  have hdeed (d : Deed) (s : Scene) :
      Play.Tells (fun _ => True) (d.play (callHelper nested owner)) s := by
    cases d with
    | call route name args keywords =>
        cases route with
        | invoke => exact callHelper_tells hnested _ _ args keywords s
        | proxy | contextProxy => exact callProxy_tells hnested name args keywords s
    | add name v => exact .bind (Registry.add_tells _ _ _ s) fun _ _ => .pure _
    | remove name => exact .bind (Registry.remove_tells _ _ s) fun _ _ => .pure _
  have hall (ds : List Deed) (s : Scene) :
      ∃ es, (doneAll (callHelper nested owner) ds s).events = es ++ s.events := by
    induction ds generalizing s with
    | nil => exact ⟨[], rfl⟩
    | cons d ds ih =>
        obtain ⟨es, hes, -⟩ := hdeed d s
        obtain ⟨es', hes'⟩ := ih (d.done (callHelper nested owner) s)
        exact ⟨es' ++ es, by rw [List.append_assoc, ← hes]; exact hes'⟩
  obtain ⟨es, hes⟩ := hall (runDeeds _ p s) s
  exact ⟨es, by rw [run_perform]; exact hes, fun _ _ _ => .inl trivial⟩

/-- All faults of rendering a script are told of. -/
theorem renderScript_tells (P : Fault → Prop) (path : Path) (s : Scene) :
    Play.Tells P (renderScript nested owner path) s := by
  unfold renderScript
  refine .get (.andThen (.playForeign (Files.asks_foreign _ _ _)) fun b s₁ hb => ?_)
  rw [Play.perform_ofExcept] at hb
  obtain ⟨hfile, rfl⟩ := Prod.mk.inj hb
  split
  · rename_i hthere
    rw [hthere] at hfile
    refine .bind (.ofAct ((RawScript.compile_tells path s.world).mono
      fun _ _ h => absurd hfile h.2)) fun p s₂ =>
      .bind (.playLog _ _ _ _) fun _ s₃ => .bind ?_ fun _ _ => .bind (.playLog _ _ _ _)
        fun _ _ => .pure _
    refine .tryCatch (Script.run_tells hnested _ _ p s₃) fun f s₄ _ => ?_
    simp only
    split
    · exact .playReport (by decide) _ _ _ _
    · rename_i hno
      exact .throw fun ho => absurd ho.ordinary hno
  · exact .playReport (by decide) _ _ _ _

end

/-! ## Views -/

/-- All faults of making a view are told of. -/
theorem View.get_tells (P : Fault → Prop) (name : Value) (data : Bindings)
    (helpers : List (String × Helper)) (config : Option Config) (engine : Option EngineId)
    (w : World) : Act.Tells P (get name data helpers config engine) w := by
  have hconfig (x y : Option Config) : FailsOf Foreign (chooseConfig x y) := by
    unfold chooseConfig
    split
    · split
      · exact .ok
      · exact .error trivial
    · exact .ok
    · exact .ok
    · exact .ok
  -- With an engine that is there or one that is made here, what is left to do is the same.
  have hmade (c : Config) (id : EngineId) (w : World) : Act.Tells P (do
      Act.log .debug source "template_view_created"
        [("name", name), ("data_keys", sortedNames data.keys),
          ("helpers", sortedNames (helpers.map (·.1)))]
      let w ← MonadState.get
      let scene : Scene := ⟨data, [], w⟩
      let r := (if helpers.isEmpty then pure () else Registry.mergeDefaults helpers :
        Play Unit).perform scene
      set r.2.world
      Act.ofExcept r.1
      return ⟨name, c, id, data, r.2.helpers⟩ : Act View) w := by
    refine .bind (.log _ _ _ _) fun _ w₁ => .get ?_
    have hmerge : Play.Tells P (if helpers.isEmpty then Pure.pure () else
        Registry.mergeDefaults helpers) ⟨data, [], w₁⟩ := by
      split
      · exact .pure _
      · exact Registry.mergeDefaults_tells P _ _
    rw [← bind_assoc]
    exact (within hmerge).bind fun _ _ => .pure _
  unfold get
  refine .bind ?_ fun given w₁ => .bind (.ofForeign (hconfig _ _)) fun config w₂ => ?_
  · cases engine with
    | none => exact .pure _
    | some id =>
        exact .bind (.bind (Engine.find_tells P id w) fun _ _ => .pure _) fun _ _ => .pure _
  · cases engine with
    | some id => exact hmade config id w₂
    | none => exact .bind (Engine.create_tells P _ _ _ w₂) fun id w₃ => hmade config id w₃

/-- Where a name has a path, engines do not refuse it. -/
theorem Fault.NoTemplate.gone {name : Value} {root : Path} {ext : Resolution.Extensions}
    {t : Files} {r : Resolution} {f : Fault} (h : f.NoTemplate name)
    (howner : Resolution.owner t root name ext = .ok r) : f.Gone := by
  refine h.resolve_left fun hrefuses => ?_
  rw [Resolution.owner, Resolution.candidates, hrefuses] at howner
  cases howner

/-- A view has nothing to render: its name is refused, or the template that owns it is gone. -/
def View.Misses (name : Value) (config : Config) (t : Files) (f : Fault) : Prop :=
  match Resolution.owner t config.templateRoot name config.extensions with
  | .error _ => Resolution.Refuses name f
  | .ok r => r.kind = .compiled ∧ f.Gone

theorem View.Misses.noTemplate {name : Value} {config : Config} {t : Files} {f : Fault}
    (h : View.Misses name config t f) : f.NoTemplate name := by
  unfold Misses at h
  split at h
  · exact .inl h
  · exact .inr h.2

/-- Rendering tells of all faults, but not that there is nothing to render. -/
theorem renderOwned_tells {nested : Nested} {name : Value} {config : Config} {engine : EngineId}
    (hnested : ∀ shared n data w, Act.Tells (fun _ => True)
      (nested (.view name config engine) shared n data) w)
    (data : Bindings) (helpers : List (String × Helper)) (s : Scene) :
    Play.Tells (View.Misses name config s.world.files)
      (renderOwned nested name config engine data helpers) s := by
  unfold renderOwned
  have hresult := Resolution.resolve_result config.templateRoot name config.extensions s.world
  have hresolve := Resolution.resolve_tells config.templateRoot name config.extensions s.world
  rcases hr : (Resolution.resolve config.templateRoot name config.extensions).perform s.world with
    ⟨g | r, w⟩
  -- Who owns the name decides what may go untold, and that is found out again when the render
  -- starts.
  all_goals rw [hr] at hresult
  · refine .andThen (.ofAct (hresolve.mono fun f _ h => ?_)) fun r s₁ hs₁ => ?_
    · rw [View.Misses, ← hresult]
      exact h
    · rw [Play.perform_ofAct, hr] at hs₁
      cases hs₁
  · refine .andThen (.ofAct (hresolve.of_ok hr)) fun r' s₁ hs₁ =>
      .bind (.changing rfl) fun _ s₂ => ?_
    rw [Play.perform_ofAct, hr] at hs₁
    cases hs₁
    have htemplate (hk : r.kind = .compiled) (s' : Scene) :
        Play.Tells (View.Misses name config s.world.files) (do
          let data := (← get).data
          Play.ofAct (Engine.render engine name data)) s' := by
      refine .get (.ofAct ((Engine.render_tells engine name s'.data s'.world).mono fun f _ h => ?_))
      rw [View.Misses, ← hresult]
      exact ⟨hk, h.gone hresult.symm⟩
    have hscript (s' : Scene) : Play.Tells (View.Misses name config s.world.files)
        (renderScript nested (.view name config engine) r.path) s' :=
      renderScript_tells hnested _ r.path s'
    split
    · rename_i hk
      split
      · exact .bind (.playLog _ _ _ _) fun _ s₃ => htemplate hk s₃
      · exact htemplate hk s₂
    · split
      · exact .bind (Registry.mergeDefaults_tells _ _ s₂) fun _ s₃ => hscript s₃
      · exact hscript s₂

/-- There is no template to read, whatever its name is. -/
def Fault.Templateless (f : Fault) : Prop := f.RefusesName ∨ f.Gone

theorem Fault.NoTemplate.templateless {name : Value} {f : Fault} (h : f.NoTemplate name)
    (ho : f.OfLibrary) : f.Templateless :=
  h.imp_left fun hrefuses =>
    (Resolution.cleanValue_fails name f hrefuses).resolve_left fun hf => hf.not_ofLibrary ho

/-- Helpers that render other templates tell of all faults, but not that there is no template to
    read. -/
theorem renderNested_tells (depth : Nat) (owner : Owner) (shared : Bool) (name : Value)
    (data : Bindings) (w : World) :
    Act.Tells Fault.Templateless (renderNested depth owner shared name data) w := by
  induction depth generalizing owner shared name data w with
  | zero => exact .foreign trivial
  | succ depth ih =>
      unfold renderNested
      split
      · exact .foreign trivial
      · rename_i config engine
        have hrender (v : View) (w : World) :
            Act.Tells Fault.Templateless (do
              let w ← get
              let scene : Scene := ⟨v.data, v.helpers, w⟩
              let r :=
                (renderOwned (renderNested depth) v.name v.config v.engine data []).perform scene
              set r.2.world
              Act.ofExcept r.1 : Act String) w := by
          refine .get ?_
          have hnested (shared : Bool) (n : Value) (data : Bindings) (w : World) :=
            (ih (.view v.name v.config v.engine) shared n data w).mono fun _ _ _ => trivial
          exact (within (renderOwned_tells hnested data [] ⟨v.data, v.helpers, w⟩)).mono
            fun _ ho h => h.noTemplate.templateless ho
        cases shared with
        | true => exact .bind (View.get_tells _ _ _ _ _ _ w) fun v w₁ => hrender v w₁
        | false => exact .bind (View.get_tells _ _ _ _ _ _ w) fun v w₁ => hrender v w₁

/-- A registry alone has no templates to render. -/
theorem renderNested_registry (P : Fault → Prop) (depth : Nat) (shared : Bool) (name : Value)
    (data : Bindings) (w : World) :
    Act.Tells P (renderNested depth .registry shared name data) w := by
  cases depth <;> exact .foreign trivial

/-- The call proxy does not tell that it does not know a name, and tells of what it calls. -/
theorem callByProxy_tells {owner : Owner}
    (hnested : ∀ shared n data w, Act.Tells P (nestedRender owner shared n data) w) (name : String)
    (args : List Value) (keywords : List (String × Value)) (s : Scene) :
    Play.Tells (fun f => P f ∨ ¬Registry.proxyHas s.helpers name)
      (callByProxy owner name args keywords) s := by
  unfold callByProxy callByProxyOf
  refine .get ?_
  split
  · exact (callProxy_tells hnested name args keywords s).mono fun _ _ => .inl
  · rename_i hno
    exact .throw fun _ => .inr hno

/-- Nothing is done if the call proxy does not know a name. -/
theorem callByProxy_unknown {name : String} (h : ¬Registry.proxyHas s.helpers name) (owner : Owner)
    (args : List Value) (keywords : List (String × Value)) :
    (callByProxy owner name args keywords).perform s = (.error (.unknownHelper name), s) := by
  rw [callByProxy, callByProxyOf, Stateful.perform_bind_ok (Stateful.perform_get s), if_neg h]
  rfl

namespace View

variable (v : View)

theorem invoke_tells (name : String) (args : List Value) (keywords : List (String × Value))
    (s : Scene) : Play.Tells Fault.Templateless (v.invoke name args keywords) s :=
  callHelper_tells (renderNested_tells _ _) _ _ args keywords s

/-- Rendering a view tells of all faults, but not that there is nothing to render. -/
theorem render_tells (data : Bindings) (helpers : List (String × Helper)) (s : Scene) :
    Play.Tells (Misses v.name v.config s.world.files) (v.render data helpers) s :=
  renderOwned_tells (fun shared n data w => (renderNested_tells _ _ shared n data w).mono
    fun _ _ _ => trivial) data helpers s

/-- If there is nothing to render, nothing grave is logged. -/
theorem render_missed {v : View} {data : Bindings} {helpers : List (String × Helper)} {f : Fault}
    {s' : Scene} (h : (v.render data helpers).perform s = (.error f, s'))
    (hf : Misses v.name v.config s.world.files f) : s.world.Calm s'.world := by
  unfold Misses at hf
  cases howner : Resolution.owner s.world.files v.config.templateRoot v.name
    v.config.extensions with
  | error g =>
      rw [howner] at hf
      rw [render_unresolved data helpers v (Resolution.resolve_refused hf _ _ _)] at h
      cases h
      exact .refl _
  | ok r =>
      rw [howner] at hf
      obtain ⟨hkind, hgone⟩ := hf
      have htemplate {s₁ : Scene} (hcalm : s.world.Calm s₁.world) (h : (do
          let data := (← MonadState.get).data
          Play.ofAct (Engine.render v.engine v.name data) : Play String).perform s₁ =
            (.error f, s')) : s.world.Calm s'.world := by
        rw [Stateful.perform_bind_ok (Stateful.perform_get s₁), Play.perform_ofAct] at h
        obtain ⟨hrender, rfl⟩ := Prod.mk.inj h
        have hsilent : ((Engine.render v.engine v.name s₁.data).perform s₁.world).2 = s₁.world :=
          Engine.render_silent (Prod.ext hrender rfl) (.inr hgone)
        exact hsilent.symm ▸ hcalm
      obtain ⟨e, he, hresolve⟩ := Resolution.resolve_found howner
      have hplay : (Play.ofAct (Resolution.resolve v.config.templateRoot v.name
          v.config.extensions)).perform s = (.ok r, { s with world := s.world.log e }) := by
        rw [Play.perform_ofAct, hresolve]
      rw [render, renderOwned, Stateful.perform_bind_ok hplay, setAll,
        Stateful.perform_bind_ok (Stateful.perform_modify _ _)] at h
      simp only [hkind] at h
      -- It may be logged that helpers are ignored, which is nothing grave either.
      split at h
      · rw [Stateful.perform_bind_ok (Play.perform_log _ _ _ _ _)] at h
        exact htemplate (((World.Calm.refl _).log he).log Event.not_grave_debug) h
      · exact htemplate ((World.Calm.refl _).log he) h

end View

end Stencil
