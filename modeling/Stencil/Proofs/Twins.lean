import Stencil.Proofs.Bringing
import Stencil.Proofs.Isolation

/-!
# Two runs of a view side by side

The same is done with a view in two worlds, and in one of them the view may have another
engine. What it answers and what becomes of its data and its helpers depends on the world in
three ways only: on the owner of a name and the script in a file, which are read off the
files, on what the engine renders, and on what helpers render that ask for a render. So if
two worlds have something in common by which these are the same, and which lasts while the
same is done in both, the view cannot tell one from the other.

What they have in common is a relation of worlds, and it is a parameter here. It says that
the files are the same as far as paths can tell, and it does not look at the log.

A render that a helper asks for may be on an engine that is made for it. Some relations do
not stand that. So there is a second parameter, a condition under which there may be helpers
of this kind.

## Main definitions

* `Helper.Fits`, `HelperTable.Fits`, `ViewStep.Fits`: Where helpers may make engines.
* `Bond`: A relation of worlds of that kind.
* `Act.Twin`, `Play.Twin`: Two actions have the same result and keep what is in common.
* `View.Twinned`: Two engines do the same for a view.

## Theorems

* `Changed.fits`: Helpers that fit stay when only such are brought.
* `callHelper_twin`, `doneAll_twin`: Calls by name, and the deeds of scripts.
* `View.render_twin`: Renders.
* `viewStep_twin`: All that is done with a view.
-/

namespace Stencil

open Files (Agree)
open Play (Blind)

/-- A helper makes an engine of its own only under a condition. -/
def Helper.Fits (own : Prop) (h : Helper) : Prop := h = .include → own

/-- All the helpers of a table do. -/
def HelperTable.Fits (own : Prop) (t : HelperTable) : Prop :=
  ∀ n h, t.toMap n = some h → h.Fits own

/-- All the helpers that a step brings do. -/
def ViewStep.Fits (own : Prop) : ViewStep → Prop
  | .setHelper _ h => h.Fits own
  | .render _ helpers => ∀ e ∈ helpers, e.2.Fits own
  | _ => True

/-- Helpers that a change brings make engines of their own only under a condition. -/
def Change.Fits (own : Prop) (c : Change) : Prop := c.Brings fun _ h => h.Fits own

variable {own : Prop} {s s' t : Scene} {cs : List Change} {v : View} {id' : EngineId}

theorem Helper.fits_const (x : Value) : (Helper.const x).Fits own := nofun

/-- Changes that fit leave helpers that fit. -/
theorem Changed.fits (h : Changed s cs t) (hs : s.helpers.Fits own) (hcs : ∀ c ∈ cs, c.Fits own) :
    t.helpers.Fits own :=
  h.all hs hcs

theorem changesOf?_fit (q : Option Reached) (s : Scene) : ∀ c ∈ changesOf? s q, c.Fits own :=
  changesOf?_brings (fun _ => Helper.fits_const) q s

theorem Script.Deed.changes_fit (d : Script.Deed) (s : Scene) : ∀ c ∈ d.changes s, c.Fits own :=
  d.changes_brings (fun _ => Helper.fits_const) s

/-- A step changes no more than what it brings and what scripts do. -/
theorem ViewStep.changes_fit {st : ViewStep} (hst : st.Fits own) (v : View) (s : Scene) :
    ∀ c ∈ st.changes v s, c.Fits own := by
  refine ViewStep.changes_brings (fun _ => Helper.fits_const) ?_ v s
  cases st with
  | setHelper n h => exact fun _ => hst
  | render data helpers => exact fun e he _ => hst e he
  | _ => trivial

theorem ViewStep.keeps_fits {st : ViewStep} (hst : st.Fits own) (v : View) (s : Scene)
    (hs : s.helpers.Fits own) : ((Session.viewStep v st).perform s).2.helpers.Fits own :=
  (changed_step v st s).fits hs (ViewStep.changes_fit hst v s)

/-- Something that two worlds have in common. The files are the same as far as paths can tell,
and the log does not matter. -/
structure Bond (R : World → World → Prop) : Prop where
  agree : ∀ {w w'}, R w w' → Agree w.files w'.files
  logged : ∀ {w w' u u'}, R w w' → w.Logged u → w'.Logged u' → R u u'

/-- Two actions have the same result in worlds that have something in common, and keep that. -/
def Act.Twin {α : Type} (R : World → World → Prop) (a a' : Act α) : Prop :=
  ∀ w w', R w w' → (a.perform w).1 = (a'.perform w').1 ∧ R (a.perform w).2 (a'.perform w').2

/-- Two scenes with the same data and helpers, in worlds that have something in common. -/
structure Paired (R : World → World → Prop) (own : Prop) (s s' : Scene) : Prop where
  same : s.Same s'
  bond : R s.world s'.world
  fits : s.helpers.Fits own

/-- Two actions have the same result in such scenes, and leave such scenes. -/
def Play.Twin {α : Type} (R : World → World → Prop) (own : Prop) (p p' : Play α) : Prop :=
  ∀ s s', Paired R own s s' →
    (p.perform s).1 = (p'.perform s').1 ∧ Paired R own (p.perform s).2 (p'.perform s').2

variable {R : World → World → Prop}

theorem Paired.logged (h : Paired R own s s') (hR : Bond R) {u u' : World}
    (hlog : s.world.Logged u) (hlog' : s'.world.Logged u') :
    Paired R own { s with world := u } { s' with world := u' } :=
  ⟨⟨h.same.data, h.same.helpers⟩, hR.logged h.bond hlog hlog', h.fits⟩

namespace Play.Twin

variable {α β : Type} {p p' : Play α}

theorem pure (x : α) : Twin R own (Pure.pure x) (Pure.pure x) := fun _ _ h => ⟨rfl, h⟩

theorem throw (f : Fault) : Twin R own (MonadExcept.throw f : Play α) (MonadExcept.throw f) :=
  fun _ _ h => ⟨rfl, h⟩

theorem bind {k k' : α → Play β} (hp : Twin R own p p') (hk : ∀ x, Twin R own (k x) (k' x)) :
    Twin R own (p >>= k) (p' >>= k') := by
  intro s s' h
  have hpart := hp s s' h
  rw [Stateful.perform_bind, Stateful.perform_bind]
  rcases hr : p.perform s with ⟨r, t⟩
  rcases hr' : p'.perform s' with ⟨r', t'⟩
  rw [hr, hr'] at hpart
  rcases hpart with ⟨rfl, hnext⟩
  cases r with
  | error e => exact ⟨rfl, hnext⟩
  | ok x => exact hk x t t' hnext

/-- Looking at the data is the same in both scenes. -/
theorem get {k k' : Scene → Play α}
    (hk : ∀ s s', Paired R own s s' → Twin R own (k s) (k' s')) :
    Twin R own (MonadState.get >>= k) (MonadState.get >>= k') := by
  intro s s' h
  rw [Stateful.perform_bind_ok (Stateful.perform_get s),
    Stateful.perform_bind_ok (Stateful.perform_get s')]
  exact hk s s' h s s' h

theorem ofAct {a a' : Act α} (h : Act.Twin R a a') :
    Twin R own (Play.ofAct a) (Play.ofAct a') := by
  intro s s' hs
  rcases h s.world s'.world hs.bond with ⟨hresult, hbond⟩
  rw [perform_ofAct, perform_ofAct]
  exact ⟨hresult, ⟨hs.same.data, hs.same.helpers⟩, hbond, hs.fits⟩

/-- What does not look at the world is the same in both. -/
theorem of_blind (hR : Bond R) (hp : Blind p)
    (hfits : ∀ s : Scene, s.helpers.Fits own → (p.perform s).2.helpers.Fits own) :
    Twin R own p p := by
  intro s s' h
  have hsame := hp.same s s' h.same
  exact ⟨hsame.result, hsame.scene, hR.logged h.bond (hp.logs s) (hp.logs s'), hfits s h.fits⟩

theorem log (hR : Bond R) (level : Level) (source name : String) (fields : Bindings) :
    Twin R own (Play.log level source name fields) (Play.log level source name fields) :=
  of_blind hR (.log _ _ _ _) fun _ h => h

end Play.Twin

theorem callBound_unasked {q : Reached} (h : q.asked? = none) (nested nested' : Nested)
    (owner : Owner) : callBound nested owner q.name q.binding q.args q.keywords =
      callBound nested' owner q.name q.binding q.args q.keywords := by
  rcases q with ⟨n, ⟨helper, calls⟩, args, keywords⟩
  cases helper with
  | «include» | includeShared =>
      cases args with
      | nil => rfl
      | cons name rest => cases h
  | _ => rfl

/-- A helper that is there and asks for a render on an engine of its own may do so. -/
theorem Reached.own_of_asked {q : Reached} {a : Asked} (hq : s.helpers.Reaches q)
    (hs : s.helpers.Fits own) (ha : q.asked? = some a) (hshared : a.shared = false) : own := by
  have hmap : s.helpers.toMap q.name = some q.binding.helper := by
    rw [HelperTable.toMap, hq.found]
    rfl
  refine hs _ _ hmap ?_
  rcases q with ⟨n, ⟨helper, calls⟩, args, keywords⟩
  cases helper with
  | «include» => rfl
  | includeShared =>
      rcases Option.map_eq_some_iff.mp ha with ⟨name, -, rfl⟩
      cases hshared
  | _ => cases ha

/-- On another engine a view calls its helpers as with other renders inside renders. -/
def View.on (v : View) (id : EngineId) : View := { v with engine := id }

theorem callBound_on (nested : Nested) (v : View) (id : EngineId) (n : String)
    (b : HelperBinding) (args : List Value) (keywords : List (String × Value)) :
    callBound nested (v.on id).owner n b args keywords =
      callBound (fun _ => nested (v.on id).owner) v.owner n b args keywords := by
  rcases b with ⟨helper, calls⟩
  cases helper <;> rfl

theorem applyHelper_on (nested : Nested) (v : View) (id : EngineId) (n : String)
    (b : HelperBinding) (args : List Value) (keywords : List (String × Value)) :
    applyHelper nested (v.on id).owner args n b keywords =
      applyHelper (fun _ => nested (v.on id).owner) v.owner args n b keywords := by
  induction args generalizing n b keywords with
  | nil =>
      rw [applyHelper, applyHelper, callBound_on]
      rfl
  | cons next rest ih =>
      rw [applyHelper, applyHelper, callBound_on]
      simp only [ih]

theorem callHelper_on (nested : Nested) (v : View) (id : EngineId) :
    callHelper nested (v.on id).owner = callHelper (fun _ => nested (v.on id).owner) v.owner := by
  have hcallee : ownCallee nested (v.on id).owner =
      ownCallee (fun _ => nested (v.on id).owner) v.owner := by
    funext n b args keywords
    exact applyHelper_on nested v id n b args keywords
  rw [callHelper, callHelper, hcallee]

section

variable {nested nested' : Nested} (hR : Bond R)
  (hnested : ∀ a : Asked, (a.shared = false → own) →
    Act.Twin R (nested v.owner a.shared a.name a.data) (nested' v.owner a.shared a.name a.data))

include hR hnested

/-- Calls by name are twins if what helpers render is. -/
theorem callHelper_twin (className : String) (name : Value) (args : List Value)
    (keywords : List (String × Value)) :
    Play.Twin R own (callHelper nested v.owner className name args keywords)
      (callHelper nested' v.owner className name args keywords) := by
  intro s s' h
  have hfits := (changed_call nested v className name args keywords s).fits h.fits
    (changesOf?_fit _ s)
  cases hq : s.helpers.reached? name args keywords with
  | none =>
      rcases callHelper_unreached v.owner className hq with ⟨f, hf⟩
      rcases hf nested s rfl with ⟨w, hlog, hw⟩
      rcases hf nested' s' h.same.helpers.symm with ⟨w', hlog', hw'⟩
      rw [hw, hw']
      exact ⟨rfl, h.logged hR hlog hlog'⟩
  | some q =>
      rcases callHelper_reached nested v.owner className hq with ⟨hcall, hreaches⟩
      have hq' : s'.helpers.reached? name args keywords = some q := h.same.helpers ▸ hq
      rw [hcall] at hfits ⊢
      rw [(callHelper_reached nested' v.owner className hq').1]
      cases ha : q.asked? with
      | none =>
          rw [callBound_unasked ha nested' nested]
          have hblind : Blind (callBound nested v.owner q.name q.binding q.args q.keywords) :=
            callBound_blind ha
          have hsame := hblind.same s s' h.same
          exact ⟨hsame.result, hsame.scene, hR.logged h.bond (hblind.logs s) (hblind.logs s'),
            hfits⟩
      | some a =>
          -- The text that is rendered is passed on, and only the worlds change.
          rw [callBound_asked ha, callBound_asked ha, perform_answer, perform_answer]
          rcases hnested a (Reached.own_of_asked hreaches h.fits ha) s.world s'.world h.bond with
            ⟨hresult, hbond⟩
          rw [hresult]
          exact ⟨rfl, ⟨h.same.data, h.same.helpers⟩, hbond, h.fits⟩

theorem callProxy_twin (name : String) (args : List Value) (keywords : List (String × Value)) :
    Play.Twin R own (Script.callProxy (callHelper nested v.owner) name args keywords)
      (Script.callProxy (callHelper nested' v.owner) name args keywords) := by
  unfold Script.callProxy
  split
  · exact .throw _
  · exact callHelper_twin hR hnested _ _ _ _

theorem play_twin (d : Script.Deed) :
    Play.Twin R own (d.play (callHelper nested v.owner)) (d.play (callHelper nested' v.owner)) := by
  have hfits : ∀ s : Scene, s.helpers.Fits own →
      ((d.play (callHelper nested v.owner)).perform s).2.helpers.Fits own := fun s hs =>
    (changed_deed nested v d s).fits hs (d.changes_fit s)
  cases d with
  | add n x => exact .of_blind hR (.bind (Registry.add_blind n _) fun _ => .pure _) hfits
  | remove n => exact .of_blind hR (.bind (Registry.remove_blind n) fun _ => .pure _) hfits
  | call route name args keywords =>
      cases route with
      | invoke => exact callHelper_twin hR hnested _ _ _ _
      | proxy | contextProxy => exact callProxy_twin hR hnested _ _ _

/-- So are the deeds of scripts, one after the other. -/
theorem doneAll_twin (ds : List Script.Deed) (h : Paired R own s s') :
    Script.Alike (callHelper nested v.owner) (callHelper nested' v.owner) ds s s' ∧
      Paired R own (Script.doneAll (callHelper nested v.owner) ds s)
        (Script.doneAll (callHelper nested' v.owner) ds s') := by
  induction ds generalizing s s' with
  | nil => exact ⟨h.same.helpers, h⟩
  | cons d ds ih =>
      rcases play_twin hR hnested d s s' h with ⟨hresult, hnext⟩
      rcases ih hnext with ⟨halike, hlast⟩
      exact ⟨⟨h.same.helpers, hresult, halike⟩, hlast⟩

/-- A script does the same in both scenes. -/
theorem renderScript_twin (path : Path) :
    Play.Twin R own (renderScript nested v.owner path) (renderScript nested' v.owner path) := by
  intro s s' h
  rw [renderScript_perform, renderScript_perform]
  rcases stageScript_perform path s with ⟨w, hlog, hstage⟩
  rcases stageScript_perform path s' with ⟨w', hlog', hstage'⟩
  rw [← ownedScript_agree (hR.agree h.bond)] at hstage'
  have hstart := h.logged hR hlog hlog'
  cases hscript : ownedScript s.world.files path with
  | error f =>
      rw [hscript] at hstage hstage'
      rw [Stateful.perform_bind_error hstage, Stateful.perform_bind_error hstage']
      exact ⟨rfl, hstart⟩
  | ok p =>
      rw [hscript] at hstage hstage'
      rw [Stateful.perform_bind_ok hstage, Stateful.perform_bind_ok hstage']
      let b : Staged := ⟨path, p, { s with world := w }⟩
      rcases doneAll_twin hR hnested (b.deeds (callHelper nested v.owner)) hstart with
        ⟨halike, hlast⟩
      have hdata : (⟨s'.data, s'.helpers, w'⟩ : Scene).data = b.scene.data := h.same.data.symm
      rcases Staged.play_alike hdata halike with ⟨r, u, u', hu, hu', hplay, hplay'⟩
      have hend := hlast.logged hR hu hu'
      show ((b.play (callHelper nested v.owner)).perform b.scene).1 =
          ((({ b with scene := { s' with world := w' } } : Staged).play
            (callHelper nested' v.owner)).perform { s' with world := w' }).1 ∧
        Paired R own ((b.play (callHelper nested v.owner)).perform b.scene).2
          ((({ b with scene := { s' with world := w' } } : Staged).play
            (callHelper nested' v.owner)).perform { s' with world := w' }).2
      rw [hplay, hplay']
      exact ⟨rfl, hend⟩

end

/-- Two engines do the same for a view, in worlds that have something in common, and so do the
engines that its helpers make. -/
structure View.Twinned (R : World → World → Prop) (own : Prop) (v : View) (id' : EngineId) :
    Prop where
  bond : Bond R
  render : ∀ data, Act.Twin R (Engine.render v.engine v.name data)
    (Engine.render id' v.name data)
  nested : ∀ a : Asked, (a.shared = false → own) →
    Act.Twin R (nestedRender v.owner a.shared a.name a.data)
      (nestedRender (v.on id').owner a.shared a.name a.data)

theorem resolve_twin (hR : Bond R) (v : View) : Act.Twin R v.resolve v.resolve := by
  intro w w' h
  rcases Resolution.resolve_perform v.config.templateRoot v.name v.config.extensions w with
    ⟨es, hes⟩
  rcases Resolution.resolve_perform v.config.templateRoot v.name v.config.extensions w' with
    ⟨es', hes'⟩
  rw [View.resolve, hes, hes', owner_agree (hR.agree h)]
  exact ⟨rfl, hR.logged h ⟨es, rfl⟩ ⟨es', rfl⟩⟩

theorem setAll_blind (data : Bindings) : Blind (View.setAll data) :=
  .modify (fun _ _ hs => ⟨by rw [hs.data], hs.helpers⟩) fun _ => rfl

theorem mergeDefaults_twin (hR : Bond R) {helpers : List (String × Helper)}
    (hfits : ∀ e ∈ helpers, e.2.Fits own) :
    Play.Twin R own (Registry.mergeDefaults helpers) (Registry.mergeDefaults helpers) := by
  intro s s' h
  rcases Registry.mergeDefaults_perform helpers s with ⟨w, hlog, hmerge⟩
  rcases Registry.mergeDefaults_perform helpers s' with ⟨w', hlog', hmerge'⟩
  rw [hmerge, hmerge', h.same.helpers]
  refine ⟨rfl, ⟨h.same.data, rfl⟩, hR.logged h.bond hlog hlog', fun n g hn => ?_⟩
  rw [HelperTable.toMap_overlay, ← h.same.helpers] at hn
  exact HelperMap.overlay_all h.fits (fun e he _ => hfits e he) n g hn

/-- A render is the same on both engines. -/
theorem View.render_twin (h : v.Twinned R own id') (data : Bindings)
    {helpers : List (String × Helper)} (hfits : ∀ e ∈ helpers, e.2.Fits own) :
    Play.Twin R own (v.render data helpers) ((v.on id').render data helpers) := by
  have hscript : ∀ path, Play.Twin R own (renderScript nestedRender v.owner path)
      (renderScript nestedRender (v.on id').owner path) := by
    intro path
    have hon : renderScript nestedRender (v.on id').owner path =
        renderScript (fun _ => nestedRender (v.on id').owner) v.owner path := by
      rw [renderScript_eq, renderScript_eq, callHelper_on]
    rw [hon]
    exact renderScript_twin h.bond h.nested path
  unfold View.render renderOwned
  refine .bind (.ofAct (resolve_twin h.bond v)) fun resolution => ?_
  refine .bind (.of_blind h.bond (setAll_blind data) fun _ hs => hs) fun _ => ?_
  cases resolution.kind with
  | compiled =>
      have hrender : Play.Twin R own
          (MonadState.get >>= fun s => Play.ofAct (Engine.render v.engine v.name s.data))
          (MonadState.get >>= fun s => Play.ofAct (Engine.render id' v.name s.data)) :=
        .get fun s s' hs => hs.same.data ▸ .ofAct (h.render s.data)
      cases helpers with
      | nil => exact hrender
      | cons e es => exact .bind (.log h.bond _ _ _ _) fun _ => hrender
  | rawScript =>
      cases helpers with
      | nil => exact hscript resolution.path
      | cons e es =>
          exact .bind (mergeDefaults_twin h.bond hfits) fun _ => hscript resolution.path

/-- Setting the items of a value one by one does not look at the world. -/
theorem forM_blind {α : Type} {f : α → Play Unit} (h : ∀ x, Blind (f x)) (xs : List α) :
    Blind (xs.forM f) := by
  induction xs with
  | nil => exact .pure ()
  | cons x xs ih => exact .bind (h x) fun _ => ih

theorem setAllOf_blind (x : Value) : Blind (Session.setAllOf x) := by
  have hset : ∀ key x, Blind (View.setOne key x) := fun key x =>
    .modify (fun _ _ hs => ⟨by rw [hs.data], hs.helpers⟩) fun _ => rfl
  unfold Session.setAllOf
  split
  · split
    · exact setAll_blind _
    · refine .bind (.ofExcept _) fun items => ?_
      split
      · exact .throw _
      · refine .bind (hset _ _) fun _ => forM_blind (fun p => ?_) _
        split
        · exact hset _ _
        · exact .throw _
      · exact .throw _
      · exact .throw _
  · exact .pure ()

/-- All that is done with a view is the same on both engines. -/
theorem viewStep_twin (h : v.Twinned R own id') {st : ViewStep} (hst : st.Fits own) :
    Play.Twin R own (Session.viewStep v st) (Session.viewStep (v.on id') st) := by
  -- Most steps look neither at the engine nor at the world.
  have hblind : Session.viewStep (v.on id') st = Session.viewStep v st →
      Blind (Session.viewStep v st) →
      Play.Twin R own (Session.viewStep v st) (Session.viewStep (v.on id') st) :=
    fun heq hb => by
      rw [heq]
      exact .of_blind h.bond hb fun s hs => ViewStep.keeps_fits hst v s hs
  cases st with
  | set data value => exact hblind rfl (.bind (View.setData_blind _ _ _) fun _ => .pure _)
  | setAll data => exact hblind rfl (.bind (setAllOf_blind _) fun _ => .pure _)
  | setOne key x =>
      exact hblind rfl (.bind (.modify (fun _ _ hs => ⟨by rw [hs.data], hs.helpers⟩) fun _ => rfl)
        fun _ => .pure _)
  | setHelper n g => exact hblind rfl (.bind (Registry.add_blind _ _) fun _ => .pure _)
  | removeHelper n => exact hblind rfl (.bind (Registry.remove_blind _) fun _ => .pure _)
  | name | config => exact hblind rfl (.pure _)
  | shown => exact hblind rfl (.get (fun s s' hs => by rw [hs.data, hs.helpers]) fun _ => .pure _)
  | resolve => exact .bind (.ofAct (resolve_twin h.bond v)) fun _ => .pure _
  | render data helpers => exact .bind (View.render_twin h data hst) fun _ => .pure _
  | invoke n args keywords =>
      refine .bind ?_ fun _ => .pure _
      rw [View.invoke, View.invoke, callHelper_on]
      exact callHelper_twin h.bond h.nested _ _ _ _
  | call n args keywords =>
      refine .bind ?_ fun _ => .pure _
      rw [callByProxy, callByProxy, callByProxyOf, callByProxyOf, callHelper_on]
      refine .get fun s s' hs => ?_
      rw [hs.same.helpers]
      split
      · exact callProxy_twin h.bond h.nested _ _ _
      · exact .throw _

end Stencil
