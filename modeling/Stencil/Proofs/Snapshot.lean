import Stencil.Proofs.Changes
import Stencil.Proofs.Course

/-!
# The data that scripts and helpers see

A render merges the data of the call into those of its view, and the script gets a copy of
what has come of it. From there on there are two mappings. The script asks its copy, which
stays as it is. The helpers that the script calls read and write the data of the view.

At any moment these are the copy with everything written that the helpers have written so
far, in order. So a helper that reads sees what was written before, and a script never does,
and once the render is over the view has all of it, whether or not the script has failed.

## Main definitions

* `writesIn`: What is written at moments, in order.
* `Snapshot`: What a script and its helpers see of the data.

## Theorems

* `data_step`: What an event writes into the data.
* `Leads.data`: The data that a run has come to are those before it with all its writes.
* `getData_perform`, `routine_perform`: A helper that reads sees the data of the view, and so does
  any callable.
* `snapshot`: Scripts read a copy of the data that their helpers write.
-/

namespace Stencil

theorem Bindings.update_append (b ws ws' : Bindings) :
    b.update (ws ++ ws') = (b.update ws).update ws' := List.foldl_append

namespace Script

/-- What is written into the data of the view at a moment. -/
def Moment.writes (m : Moment) : Bindings :=
  match m.event with
  | .did d => writesOf (d.changes m.state.scene)
  | _ => []

/-- What is written at moments, in order. -/
def writesIn (ms : List Moment) : Bindings := ms.flatMap Moment.writes

variable {nested : Nested} {v : View} {ms : List Moment} {t t' : State}

/-- An event leaves the data with its writes. -/
theorem data_step (nested : Nested) (v : View) (m : Moment) :
    (m.event.after (callHelper nested v.owner) m.state).scene.data =
      m.state.scene.data.update m.writes := by
  obtain ⟨t, e⟩ := m
  cases e with
  | did d => exact (changed_deed nested v d t.scene).data
  | looked | asked | wrote | assigned => rfl

/-- The data that a run has come to are those before it with all its writes. -/
theorem Leads.data (h : Leads (callHelper nested v.owner) ms t t') :
    t'.scene.data = t.scene.data.update (writesIn ms) := by
  induction ms generalizing t with
  | nil =>
      obtain rfl : t = t' := h
      rfl
  | cons m ms ih =>
      obtain ⟨rfl, hms⟩ := h
      rw [ih hms, data_step, writesIn, writesIn, List.flatMap_cons, Bindings.update_append]

/-- A helper that reads answers from the data of the view, and leaves them alone. -/
theorem getData_perform (nested : Nested) (v : View) {d : Deed} {s : Scene} {q : Reached}
    {k : Value} {rest : List Value} (hq : d.reached? s.helpers = some q)
    (hhelper : q.binding.helper = .getData) (hargs : q.args = k :: rest) :
    (d.play (callHelper nested v.owner)).perform s = ((Question.get k).answer s.data, s) := by
  rw [(Deed.play_reached nested v.owner hq).1, hargs, callBound, hhelper]
  have hargument : (Play.ofExcept (Helper.argument (k :: rest) 0)).perform s = (.ok k, s) := rfl
  simp only [Helper.perform, hhelper, View.owner]
  rw [Stateful.perform_bind_ok hargument, Question.answer, Question.entry]
  cases Value.keyFault? k <;> rfl

/-- A callable goes through its routine in the scene in which it is called. -/
theorem routine_perform (nested : Nested) (v : View) {d : Deed} {s : Scene} {q : Reached}
    {steps : List Value → List (String × Value) → Routine}
    (hq : d.reached? s.helpers = some q) (hhelper : q.binding.helper = .routine steps) :
    (d.play (callHelper nested v.owner)).perform s = (steps q.args q.keywords).perform.perform s := by
  rw [(Deed.play_reached nested v.owner hq).1, callBound, hhelper]
  simp only [Helper.perform, hhelper]

end Script

/-- What a script and its helpers see of the data, in a render that comes to the script. -/
structure Snapshot (v : View) (data : Bindings) (helpers : List (String × Helper)) (s : Scene)
    (b : Staged) : Prop where
  /-- Whatever the script asks is answered from the data as they were merged. -/
  reads : ∀ m ∈ b.course (callHelper nestedRender v.owner), ∀ q, m.event = .asked q →
    (Script.evaluate (b.setting (callHelper nestedRender v.owner)) q.expr).perform m.state =
      (q.answer (s.data.update data), m.state)
  /-- At any moment the data of the view are those with what was written by then. -/
  live : ∀ past m future,
    b.course (callHelper nestedRender v.owner) = past ++ m :: future →
    m.state.scene.data = (s.data.update data).update (Script.writesIn past)
  /-- So a helper that reads sees what was written by then. -/
  sees : ∀ past m future d q k rest,
    b.course (callHelper nestedRender v.owner) = past ++ m :: future → m.event = .did d →
    d.reached? m.state.scene.helpers = some q → q.binding.helper = .getData →
    q.args = k :: rest →
    ((d.play (callHelper nestedRender v.owner)).perform m.state.scene).1 =
      (Script.Question.get k).answer ((s.data.update data).update (Script.writesIn past))
  /-- And so does every other callable that keeps to the view. -/
  runs : ∀ past m future d q steps,
    b.course (callHelper nestedRender v.owner) = past ++ m :: future → m.event = .did d →
    d.reached? m.state.scene.helpers = some q → q.binding.helper = .routine steps →
    (d.play (callHelper nestedRender v.owner)).perform m.state.scene =
      (steps q.args q.keywords).perform.perform { m.state.scene with
        data := (s.data.update data).update (Script.writesIn past) }
  /-- After the render the view has everything that was written. -/
  after : ((v.render data helpers).perform s).2.data = (s.data.update data).update
    (Script.writesIn (b.course (callHelper nestedRender v.owner)))

variable {v : View} {data : Bindings} {helpers : List (String × Helper)} {s : Scene} {b : Staged}

/-- A script starts with the data of the call merged into those of the view. -/
theorem View.staged?_data (h : v.staged? data helpers s = some b) :
    b.scene.data = s.data.update data := by
  have hstage := stage_of_staged? h
  rcases hresolve : (Resolution.resolve v.config.templateRoot v.name v.config.extensions).perform
      s.world with ⟨f | resolution, w⟩
  · rw [stage_unresolved v.engine data helpers hresolve] at hstage
    cases hstage
  · cases hk : resolution.kind with
    | compiled =>
        rcases stage_compiled v.engine data helpers hresolve hk with ⟨r, w', hr⟩
        rw [hr] at hstage
        exact (congrArg (·.2.data) hstage).symm
    | rawScript =>
        rcases stage_rawScript v.engine data helpers hresolve hk with ⟨r, w', -, hr, -⟩
        rw [hr] at hstage
        exact (congrArg (·.2.data) hstage).symm

/-- Scripts read a copy of the data that their helpers write. -/
theorem snapshot (h : v.staged? data helpers s = some b) : Snapshot v data helpers s b := by
  have hdata : b.scene.data = s.data.update data := View.staged?_data h
  have hleads := b.course_leads (callHelper nestedRender v.owner)
  have hlive : ∀ past m future,
      b.course (callHelper nestedRender v.owner) = past ++ m :: future →
      m.state.scene.data = (s.data.update data).update (Script.writesIn past) := by
    intro past m future hcourse
    rw [hcourse] at hleads
    rw [hleads.upTo.data, Staged.start, hdata]
  refine ⟨fun m _ q _ => ?_, hlive, ?_, ?_, ?_⟩
  · -- The copy is part of what the script is given, so it does not matter what was done.
    have hsetting : (b.setting (callHelper nestedRender v.owner)).data = s.data.update data :=
      hdata
    rw [← hsetting, Script.evaluate_question]
    exact Script.Run.perform_ofExcept _ _
  · intro past m future d q k rest hcourse hevent hq hhelper hargs
    rw [Script.getData_perform nestedRender v hq hhelper hargs, hlive past m future hcourse]
  · intro past m future d q steps hcourse hevent hq hhelper
    rw [Script.routine_perform nestedRender v hq hhelper, ← hlive past m future hcourse]
  · rcases b.play_ending (callHelper nestedRender v.owner) with ⟨w, -, hplay⟩
    rw [View.render_staged h, hplay, ← hdata]
    exact hleads.data

/-- A script that reads a key before and after its helpers have written and read it. -/
def overwritingBody : Script.Program :=
  [.write [.get (.lit (.text "k")),
    .call .proxy "set" [.lit (.text "k"), .lit (.int 2)] [] [],
    .call .proxy "read" [.lit (.text "k")] [] [], .get (.lit (.text "k"))]]

/-- A view of that script. -/
def overwritingView : View := ⟨.text "overwrite", .default, 0, [], []⟩

/-- A scene with the helpers that it calls. -/
def overwritingScene : Scene :=
  ⟨[], [("set", ⟨.setData, 0⟩), ("read", ⟨.getData, 0⟩)],
    .ofFiles ⟨[(["templates"], .directory),
      (["templates", "overwrite.pyt"], .file (.script overwritingBody) 10)]⟩ 0 "" ⟨.here, []⟩⟩

/-- The script has the value of the call twice, and the helper the one that was written. -/
theorem snapshot_overwriting :
    ∃ b, overwritingView.staged? [("k", .int 1)] [] overwritingScene = some b ∧
      Snapshot overwritingView [("k", .int 1)] [] overwritingScene b ∧
      ((overwritingView.render [("k", .int 1)] []).perform overwritingScene).1 =
        .ok "1None21" := by
  have hstaged : (overwritingView.staged? [("k", .int 1)] [] overwritingScene).isSome = true := by
    decide +kernel
  rcases Option.isSome_iff_exists.mp hstaged with ⟨b, hb⟩
  exact ⟨b, hb, snapshot hb, by decide +kernel⟩

end Stencil
