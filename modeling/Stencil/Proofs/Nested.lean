import Stencil.Proofs.Staging
import Stencil.Proofs.Steady

/-!
# What renders inside renders depend on

A helper that renders another template makes a view without helpers for it. A script that
such a view renders can add constants and call them, and nothing else, so what it gives
depends on its file and its data only. A template goes to an engine, to that of the outer
view or to one that is made for it, and what that has for names is steady if all engines
that share the directory of compiled templates are of one kind.

So in such a world renders inside renders do not influence each other. Each of them gives
what it would have given without the others.

## Main definitions

* `HelperTable.Constant`: There are constants only among the helpers.
* `callConstant`: Calling helpers of that kind.
* `View.Settled`: A world in which the engines of a view and of its helpers are of one kind.

## Theorems

* `constant_run`: Deeds where there are constants only do not depend on the world.
* `renderOwned_gives`: What a view without helpers renders, by what its engine renders.
* `nestedRender_gives`: What a helper that renders another template gives.
* `View.settled_of_create`: A view is settled with an engine that was made for it.
-/

namespace Stencil

open Files (Agree)
open Play (Blind)

/-- There are constants only among the helpers. -/
def HelperTable.Constant (t : HelperTable) : Prop :=
  ∀ n b, t.find? n = some b → ∃ v, b.helper = .const v

/-- The value of a helper that is a constant. -/
def HelperBinding.constant (b : HelperBinding) : Value :=
  match b.helper with
  | .const v => v
  | _ => .null

/-- Calls helpers where all of them are constants. -/
def callConstant : Script.Caller := callNamed fun _ b _ _ => return b.constant

variable {nested : Nested} {owner : Owner} {s s' : Scene} {d : Script.Deed} {w : World}

theorem boundHelper_blind (name : Value) : Blind (boundHelper name) := by
  have hunknown : Blind (unknownHelper name : Play (String × HelperBinding)) :=
    .bind (.log _ _ _ _) fun _ => .throw _
  unfold boundHelper
  split
  · exact .throw _
  · refine .get (fun s s' hs => by rw [hs.helpers]) fun s => ?_
    simp only
    split
    · split
      · exact hunknown
      · exact .pure _
    · exact hunknown

theorem callConstant_blind (className : String) (name : Value) (args : List Value)
    (keywords : List (String × Value)) : Blind (callConstant className name args keywords) := by
  unfold callConstant callNamed
  split
  · exact .throw _
  · exact .bind (boundHelper_blind name) fun e => .pure _

/-- Where there are constants only, it does not matter to whom they belong. -/
theorem callHelper_constant (h : s.helpers.Constant) (className : String) (name : Value)
    (args : List Value) (keywords : List (String × Value)) :
    (callHelper nested owner className name args keywords).perform s =
        (callConstant className name args keywords).perform s ∧
      ((callConstant className name args keywords).perform s).2.helpers = s.helpers := by
  rw [callHelper, callConstant, callNamed, callNamed]
  cases keywords.find? fun k => reservedKeywords.contains k.1 with
  | some k => exact ⟨rfl, rfl⟩
  | none =>
      simp only
      cases hbound : s.helpers.bound? name with
      | none =>
          rcases boundHelper_unbound hbound with ⟨f, hf⟩
          rcases hf s rfl with ⟨w, -, hw⟩
          rw [Stateful.perform_bind_error hw, Stateful.perform_bind_error hw]
          exact ⟨rfl, rfl⟩
      | some e =>
          rcases e with ⟨n, b⟩
          rcases HelperTable.of_bound? hbound with ⟨-, -, hfind, -⟩
          rcases h n b hfind with ⟨v, hv⟩
          have hlast : b.helper ≠ .invoke := by simp [hv]
          rw [Stateful.perform_bind_ok (boundHelper_bound hbound),
            Stateful.perform_bind_ok (boundHelper_bound hbound), ownCallee,
            applyHelper_last _ _ _ _ hlast]
          refine ⟨?_, rfl⟩
          simp only [callBound, Helper.perform, HelperBinding.constant, hv]

theorem HelperTable.Constant.bind {t : HelperTable} (h : t.Constant) (n : String) (v : Value)
    (calls : Nat) : (t.bind n ⟨.const v, calls⟩).Constant := by
  intro m b hb
  by_cases hm : m = n
  · rw [hm, find?_bind_self] at hb
    exact ⟨v, (Option.some.inj hb) ▸ rfl⟩
  · rw [find?_bind_of_ne t _ hm] at hb
    exact h m b hb

theorem HelperTable.Constant.unbind {t : HelperTable} (h : t.Constant) (n : String) :
    (t.unbind n).Constant := by
  intro m b hb
  by_cases hm : m = n
  · rw [hm, find?_unbind_self] at hb
    cases hb
  · rw [find?_unbind_of_ne t hm] at hb
    exact h m b hb

theorem callProxy_blind {call : Script.Caller}
    (h : ∀ className name args keywords, Blind (call className name args keywords))
    (name : String) (args : List Value) (keywords : List (String × Value)) :
    Blind (Script.callProxy call name args keywords) := by
  unfold Script.callProxy
  split
  · exact .throw _
  · exact h _ _ _ _

/-- A deed does not look at the world if it calls constants. -/
theorem play_constant_blind (d : Script.Deed) : Blind (d.play callConstant) := by
  cases d with
  | add n v => exact .bind (Registry.add_blind n _) fun _ => .pure _
  | remove n => exact .bind (Registry.remove_blind n) fun _ => .pure _
  | call route name args keywords =>
      cases route with
      | invoke => exact callConstant_blind _ _ _ _
      | proxy | contextProxy => exact callProxy_blind callConstant_blind _ _ _

/-- Where there are constants only, a deed calls those, and leaves constants only. -/
theorem play_constant (nested : Nested) (owner : Owner) (d : Script.Deed)
    (hc : s.helpers.Constant) :
    (d.play (callHelper nested owner)).perform s = (d.play callConstant).perform s ∧
      ((d.play callConstant).perform s).2.helpers.Constant := by
  -- Adding and removing call nothing, and a call by name finds a constant or nothing.
  cases d with
  | add n v =>
      refine ⟨rfl, ?_⟩
      rcases Registry.add_perform n (.const v) s with ⟨w, hadd⟩
      rw [Script.Deed.play, Stateful.perform_bind, hadd]
      by_cases hn : n = ""
      · rw [if_pos hn]
        exact hc
      · rw [if_neg hn]
        cases s.helpers.has n with
        | true => exact hc
        | false => exact hc.bind n v 0
  | remove n =>
      refine ⟨rfl, ?_⟩
      rcases Registry.remove_perform n s with ⟨w, hremove⟩
      rw [Script.Deed.play, Stateful.perform_bind, hremove]
      cases s.helpers.has n with
      | true => exact hc.unbind n
      | false => exact hc
  | call route name args keywords =>
      cases route with
      | invoke =>
          rcases callHelper_constant hc "ScriptContext" (.text name) args keywords with
            ⟨hcall, hkept⟩
          exact ⟨hcall, hkept ▸ hc⟩
      | proxy | contextProxy =>
          simp only [Script.Deed.play, Script.callProxy]
          split
          · exact ⟨rfl, hc⟩
          · rcases callHelper_constant hc "HelperRegistry" (.text name) args keywords with
              ⟨hcall, hkept⟩
            exact ⟨hcall, hkept ▸ hc⟩

/-- A deed where there are constants only does not depend on the world, and leaves constants
    only. -/
theorem constant_deed (nested : Nested) (owner : Owner) (d : Script.Deed) (hs : s.Same s')
    (hc : s.helpers.Constant) :
    SameOutcome ((d.play (callHelper nested owner)).perform s) ((d.play callConstant).perform s') ∧
      s.world.Logged (d.done (callHelper nested owner) s).world ∧
      (d.done (callHelper nested owner) s).helpers.Constant := by
  rcases play_constant nested owner d hc with ⟨hplay, hleft⟩
  have hblind := play_constant_blind d
  rw [Script.Deed.done, hplay]
  exact ⟨hblind.same s s' hs, hblind.logs s, hleft⟩

/-- Deeds where there are constants only do not depend on the world, and only log. -/
theorem constant_run (nested : Nested) (owner : Owner) (ds : List Script.Deed) (hs : s.Same s')
    (hc : s.helpers.Constant) :
    Script.Alike (callHelper nested owner) callConstant ds s s' ∧
      s.world.Logged (Script.doneAll (callHelper nested owner) ds s).world := by
  induction ds generalizing s s' with
  | nil => exact ⟨hs.helpers, .refl _⟩
  | cons d ds ih =>
      rcases constant_deed nested owner d hs hc with ⟨hsame, hlog, hc'⟩
      rcases ih hsame.scene hc' with ⟨halike, hlogs⟩
      exact ⟨⟨hs.helpers, hsame.result, halike⟩, hlog.trans hlogs⟩

theorem ownedScript_agree {t t' : Files} (h : Agree t t') (path : Path) :
    ownedScript t path = ownedScript t' path := by
  have hfile : t.isFile path = t'.isFile path := Files.agree_asks h path _
  have hcontent : t.contentAt path = t'.contentAt path := by
    rw [Files.contentAt, Files.contentAt, Files.agree_stat h]
  rw [ownedScript, ownedScript, hfile, scriptAt, scriptAt, hcontent]

/-- A script that starts without helpers depends on its file and data only, and only logs. -/
theorem renderScript_gives (base : World) (path : Path) (data : Bindings) :
    ∃ r, ∀ (nested : Nested) (owner : Owner) (w : World), Agree base.files w.files →
      ((renderScript nested owner path).perform ⟨data, [], w⟩).1 = r ∧
        w.Logged ((renderScript nested owner path).perform ⟨data, [], w⟩).2.world := by
  refine ⟨ownedScript base.files path >>= fun p =>
    ((⟨path, p, ⟨data, [], base⟩⟩ : Staged).play callConstant).perform ⟨data, [], base⟩ |>.1,
    fun nested owner w hw => ?_⟩
  rw [renderScript_perform, ownedScript_agree hw]
  rcases stageScript_perform path ⟨data, [], w⟩ with ⟨w₁, hlog, hstage⟩
  cases hscript : ownedScript w.files path with
  | error f =>
      rw [hscript] at hstage
      rw [Stateful.perform_bind_error hstage]
      exact ⟨rfl, hlog⟩
  | ok p =>
      rw [hscript] at hstage
      rw [Stateful.perform_bind_ok hstage]
      -- The script starts without helpers, so there are constants only, and it plays as in the
      -- scene of `base`.
      let b : Staged := ⟨path, p, ⟨data, [], w₁⟩⟩
      have hnone : b.scene.helpers.Constant := nofun
      have hsame : b.scene.Same ⟨data, [], base⟩ := ⟨rfl, rfl⟩
      rcases constant_run nested owner (b.deeds (callHelper nested owner)) hsame hnone with
        ⟨halike, hlogs⟩
      have hdata : (⟨data, [], base⟩ : Scene).data = b.scene.data := rfl
      rcases Staged.play_alike hdata halike with ⟨r, w₂, w₂', hlog₂, -, hplay, hplay'⟩
      refine ⟨?_, hlog.trans (hlogs.trans ?_)⟩
      · show ((b.play (callHelper nested owner)).perform b.scene).1 =
          ((({ b with scene := ⟨data, [], base⟩ } : Staged).play callConstant).perform
            ⟨data, [], base⟩).1
        rw [hplay, hplay']
      · show World.Logged _ ((b.play (callHelper nested owner)).perform b.scene).2.world
        rw [hplay]
        exact hlog₂

theorem owner_agree {t t' : Files} (h : Agree t t') (root : Path) (name : Value)
    (ext : Resolution.Extensions) :
    Resolution.owner t root name ext = Resolution.owner t' root name ext := by
  have hfile : ∀ p, t.isFile p = t'.isFile p := fun p => Files.agree_asks h p _
  rw [Resolution.owner, Resolution.owner]
  simp only [Resolution.owner?, hfile]

/-- A view without helpers depends on its data and on what its engine renders, and leaves
    alone what rendering leaves alone. -/
theorem renderOwned_gives (base : World) (name : Value) (c : Config) (data : Bindings)
    (r : Bindings → Except Fault String) :
    ∃ q, ∀ (nested : Nested) (id : EngineId) (I : World → Prop),
      (∀ w w' : World, w.Logged w' → I w → I w') → (∀ w, I w → Agree base.files w.files) →
      (∀ d, Engine.Gives I (fun y => y) (Engine.render id name d) (r d)) →
      ∀ w, I w → ((renderOwned nested name c id data []).perform ⟨[], [], w⟩).1 = q ∧
        I ((renderOwned nested name c id data []).perform ⟨[], [], w⟩).2.world := by
  -- Finding the owner gives the same in all these worlds, and only logs.
  have hresolve : ∀ w : World, Agree base.files w.files → ∃ w', w.Logged w' ∧
      (Play.ofAct (Resolution.resolve c.templateRoot name c.extensions)).perform ⟨[], [], w⟩ =
        (Resolution.owner base.files c.templateRoot name c.extensions, ⟨[], [], w'⟩) := by
    intro w hw
    rcases Resolution.resolve_perform c.templateRoot name c.extensions w with ⟨es, hes⟩
    refine ⟨_, ⟨es, rfl⟩, ?_⟩
    rw [Play.perform_ofAct, hes, owner_agree hw]
  have hset : ∀ w : World, (View.setAll data).perform ⟨[], [], w⟩ =
      (.ok (), ⟨Bindings.update [] data, [], w⟩) := fun _ => rfl
  cases howner : Resolution.owner base.files c.templateRoot name c.extensions with
  | error f =>
      rw [howner] at hresolve
      refine ⟨.error f, fun nested id I hlog hfiles _ w hw => ?_⟩
      rcases hresolve w (hfiles w hw) with ⟨w', hlogged, hperform⟩
      rw [renderOwned, Stateful.perform_bind_error hperform]
      exact ⟨rfl, hlog w w' hlogged hw⟩
  | ok resolution =>
      rw [howner] at hresolve
      cases hk : resolution.kind with
      | compiled =>
          refine ⟨r (Bindings.update [] data), fun nested id I hlog hfiles hrender w hw => ?_⟩
          rcases hresolve w (hfiles w hw) with ⟨w', hlogged, hperform⟩
          rw [renderOwned, Stateful.perform_bind_ok hperform, Stateful.perform_bind_ok (hset w')]
          simp only [hk]
          exact (hrender (Bindings.update [] data)).result (hlog w w' hlogged hw)
      | rawScript =>
          rcases renderScript_gives base resolution.path (Bindings.update [] data) with ⟨q, hq⟩
          refine ⟨q, fun nested id I hlog hfiles _ w hw => ?_⟩
          rcases hresolve w (hfiles w hw) with ⟨w', hlogged, hperform⟩
          rw [renderOwned, Stateful.perform_bind_ok hperform, Stateful.perform_bind_ok (hset w')]
          simp only [hk]
          have hw' := hlog w w' hlogged hw
          rcases hq nested (.view name c id) w' (hfiles w' hw') with ⟨hresult, hlogged'⟩
          exact ⟨hresult, hlog w' _ hlogged' hw'⟩

/-- A view for another template, on an engine that is there. -/
theorem View.get_shared {e : Engine} {id : EngineId} (hid : w.engine? id = some e)
    (name : Value) : ∃ w', w.Logged w' ∧ (View.get name [] [] none (some id)).perform w =
      (.ok ⟨name, e.config, id, [], []⟩, w') := by
  have hfind : (Option.mapM (fun id => do return (← Engine.find id).config) (some id) :
      Act (Option Config)).perform w = (.ok (some e.config), w) := by
    rw [Option.mapM_some, map_eq_pure_bind, bind_assoc,
      Stateful.perform_bind_ok (Engine.find_perform hid)]
    rfl
  rw [View.get, Stateful.perform_bind_ok hfind]
  exact ⟨_, ⟨[_], rfl⟩, rfl⟩

/-- The same on an engine of its own. -/
theorem View.get_own (c : Config) (name : Value) (w : World) :
    match (Engine.create c none none).perform w with
    | (.error f, w') => (View.get name [] [] (some c) none).perform w = (.error f, w')
    | (.ok id, w') => ∃ w'', w'.Logged w'' ∧
        (View.get name [] [] (some c) none).perform w = (.ok ⟨name, c, id, [], []⟩, w'') := by
  have hnone : (Option.mapM (fun id => do return (← Engine.find id).config) none :
      Act (Option Config)).perform w = (.ok none, w) := rfl
  rw [View.get, Stateful.perform_bind_ok hnone]
  rcases hcreate : (Engine.create c none none).perform w with ⟨f | id, w'⟩
  · exact Stateful.perform_bind_error hcreate _
  · refine ⟨w'.log ⟨.debug, View.source, "template_view_created", [("name", name),
      ("data_keys", View.sortedNames []), ("helpers", View.sortedNames [])]⟩, ⟨[_], rfl⟩, ?_⟩
    exact Stateful.perform_bind_ok hcreate _

/-- The view that a helper makes for another template. -/
def nestedView (c : Config) (id : EngineId) (shared : Bool) (name : Value) : Act View :=
  if shared then View.get name [] [] none (some id) else View.get name [] [] (some c) none

/-- A render inside a render makes its view first, and then renders it. -/
theorem renderNested_perform (depth : Nat) (outer : Value) (c : Config) (id : EngineId)
    (a : Asked) (w : World) :
    (renderNested (depth + 1) (.view outer c id) a.shared a.name a.data).perform w =
      match (nestedView c id a.shared a.name).perform w with
      | (.error f, w') => (.error f, w')
      | (.ok v, w') =>
        let o := (renderOwned (renderNested depth) v.name v.config v.engine a.data []).perform
          ⟨v.data, v.helpers, w'⟩
        (o.1, o.2.world) := by
  rw [renderNested, nestedView]
  cases a.shared with
  | true =>
      simp only [if_true]
      rcases hview : (View.get a.name [] [] none (some id)).perform w with ⟨f | v, w'⟩
      · exact Stateful.perform_bind_error hview _
      · rw [Stateful.perform_bind_ok hview, Stateful.perform_bind_ok (Stateful.perform_get w')]
        exact Act.perform_ofExcept _ _
  | false =>
      simp only [Bool.false_eq_true, if_false]
      rcases hview : (View.get a.name [] [] (some c) none).perform w with ⟨f | v, w'⟩
      · exact Stateful.perform_bind_error hview _
      · rw [Stateful.perform_bind_ok hview, Stateful.perform_bind_ok (Stateful.perform_get w')]
        exact Act.perform_ofExcept _ _

variable {c : Config} {tr : Translations} {id : EngineId} {base : World}

/-- On the engine of the outer view it is rendered from what that has for names. -/
theorem nestedRender_shared (outer : Value) {a : Asked} (hshared : a.shared = true) :
    ∃ r, Engine.Gives (Engine.Steady c (Engine.defaultExtensions c) tr id base) (fun y => y)
      (nestedRender (.view outer c id) a.shared a.name a.data) r := by
  rcases renderOwned_gives base a.name c a.data (Engine.renderReading c
    (Engine.defaultExtensions c) tr (Engine.readNow c _ id base) a.name) with ⟨q, hq⟩
  refine ⟨q, .of_result fun w hw => ?_⟩
  rcases hw.running.engine with ⟨e, hid, he, -⟩
  rcases View.get_shared hid a.name with ⟨w', hlog, hview⟩
  rw [nestedRender, nestingLimit, renderNested_perform]
  simp only [nestedView, hshared, if_true, hview, he.config]
  exact hq _ id _ (fun _ _ hlog hw => hw.logged hlog) (fun _ hw => hw.agree)
    (Engine.render_gives a.name) w' (hw.logged hlog)

/-- On an engine that is made for it, from the files. -/
theorem nestedRender_own (outer : Value) (hdir : base.files.isDirectory c.cacheDir = .ok true)
    {a : Asked} (hown : a.shared = false) :
    ∃ r, Engine.Gives (Engine.Steady c (Engine.defaultExtensions c) tr id base) (fun y => y)
      (nestedRender (.view outer c id) a.shared a.name a.data) r := by
  have hcreate : ∀ w, Engine.Steady c (Engine.defaultExtensions c) tr id base w → _ :=
    fun w hw => Engine.create_perform (c := c) (w := w)
      ((Files.agree_asks hw.agree _ _).symm.trans hdir)
  -- Whether an engine can be made is decided by the files, which stay the same.
  cases hmade : Engine.translationsMade base.files c (Engine.defaultExtensions c) with
  | error f =>
      refine ⟨.error f, .of_result fun w hw => ?_⟩
      have hfails := hcreate w hw
      rw [← Engine.translationsMade_agree hw.agree, hmade] at hfails
      rcases hfails with ⟨w', hlog, hfails⟩
      have hview := View.get_own c a.name w
      rw [hfails] at hview
      rw [nestedRender, nestingLimit, renderNested_perform]
      simp only [nestedView, hown, Bool.false_eq_true, if_false, hview]
      exact ⟨trivial, hw.logged hlog⟩
  | ok tr' =>
      rcases renderOwned_gives base a.name c a.data fun d => ((Engine.renderAnew c
        (Engine.defaultExtensions c) tr' base.files a.name d).perform []).1 with ⟨q, hq⟩
      refine ⟨q, .of_result fun w hw => ?_⟩
      have hnew := hcreate w hw
      rw [← Engine.translationsMade_agree hw.agree, hmade] at hnew
      rcases hnew with ⟨w', e, hnew, hcreated, hfiles, rfl⟩
      have hview := View.get_own c a.name w
      rw [hnew] at hview
      rcases hview with ⟨w'', hlog, hview⟩
      -- The new engine is another one than that at work, so what it does leaves that one steady.
      have hne : id ≠ w.engines.length := by
        rcases hw.running.engine with ⟨e', hid, -⟩
        exact Nat.ne_of_lt (List.getElem?_eq_some_iff.mp hid).1
      rw [nestedRender, nestingLimit, renderNested_perform]
      simp only [nestedView, hown, Bool.false_eq_true, if_false, hview]
      rcases hq (renderNested 1) w.engines.length _ (fun _ _ hlog hw => hw.logged hlog)
        (fun _ hw => hw.steady.agree) (fun d => Engine.Beside.render_gives hne a.name d) w''
        ((hw.created hcreated hfiles).logged hlog) with ⟨hresult, hbeside⟩
      exact ⟨hresult, hbeside.steady⟩

/-- What a helper that renders another template gives is the same in all worlds in which the
    engine has the same for all names, and it leaves such a world. -/
theorem nestedRender_gives (outer : Value) (hdir : base.files.isDirectory c.cacheDir = .ok true)
    (a : Asked) :
    ∃ r, Engine.Gives (Engine.Steady c (Engine.defaultExtensions c) tr id base) (fun y => y)
      (nestedRender (.view outer c id) a.shared a.name a.data) r := by
  cases hshared : a.shared with
  | true => exact hshared ▸ nestedRender_shared outer hshared
  | false => exact hshared ▸ nestedRender_own outer hdir hshared

/-- The engine of a view is of the kind that its helpers make, and the directory of compiled
    templates is in place and keeps what such engines compiled. -/
structure View.Settled (v : View) (w : World) : Prop where
  running : ∃ tr,
    Engine.Running v.config (Engine.defaultExtensions v.config) tr v.engine w
  directory : w.files.isDirectory v.config.cacheDir = .ok true

/-- So it is if the engine was made like that in a world where nothing else is kept. -/
theorem View.settled_of_create {v : View} {w w' : World} {e : Engine}
    (hsound : Engine.Sound v.config (Engine.defaultExtensions v.config) w.files)
    (hmade : (Engine.create v.config none none).perform w = (.ok v.engine, w'))
    (he : w'.engine? v.engine = some e) (hstore : e.store ≠ none) : v.Settled w' := by
  rcases Engine.create_cases hmade with ⟨e', hcreated, -⟩
  obtain rfl := Option.some.inj (hcreated.engine?.symm.trans he)
  refine ⟨⟨_, hcreated.running hsound⟩, ?_⟩
  rcases hcreated.store with ⟨hnone, -⟩ | ⟨-, -, hmake⟩
  · exact absurd hnone hstore
  · exact Files.isDirectory_makeDirectories hsound.tidy hmake

end Stencil
