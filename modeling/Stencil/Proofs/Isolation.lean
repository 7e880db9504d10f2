import Stencil.Proofs.Coherence
import Stencil.Proofs.Nested

/-!
# Renders inside renders

A helper may render another template while a script runs. It does so in a view of its own,
and all that comes back is a text or a fault. To show it the helper is replaced by a
stand-in, which gives an answer without rendering anything: the script does the same, and
leaves the same data and the same helpers, as long as the stand-ins answer what the renders
would have given.

What a render inside a render leaves behind is in the world: the files of the cache and the
templates in memory. Other such renders may find it there. If all the helpers that render are
replaced, that is of no account. If only some are, the others must not care for it. They do
not if all engines at work are of one kind, but an engine may be given to a view that is of
another kind than those that helpers make, and then a stand-in may let the render of another
helper fail.

## Main definitions

* `StandIns`: What answers in place of helpers that render other templates.
* `View.renderStanding`: A render with stand-ins.
* `Query`, `View.queries`: The renders that a render asks for.
* `replacing`: Stand-ins that give a text or a fault, and leave the world alone.
* `Isolated`: What can be replaced without a change.

## Theorems

* `standing_step`: A deed does the same with stand-ins if it is answered alike.
* `standing_run`: So do the deeds of a script.
* `answers_replacing`: When they are answered alike with some of the helpers replaced.
* `nested_isolated`: Replacing the helpers that render other templates changes nothing.
* `not_isolated_alone`: Not so for one helper next to engines of several kinds.
-/

namespace Stencil

/-- What answers in place of the helpers that render other templates, by the names to which
    these are bound. -/
abbrev StandIns := String → Option (Asked → Act String)

/-- Nothing stands in for any helper. -/
def noStandIns : StandIns := fun _ => none

/-- Stand-ins for some helpers, which return a text or raise a fault. -/
def replacing (some? : String → Bool) (g : String → Asked → Except Fault String) : StandIns :=
  fun n => if some? n then some fun a => Act.ofExcept (g n a) else none

/-- A render that a helper asked for: the name of the helper, what was asked for, and the
    world in which it was. -/
structure Query where
  helper : String
  asked : Asked
  world : World

/-- How a render that is asked for is answered, with some stand-ins. -/
def StandIns.answer (stand : StandIns) (owner : Owner) (x : Query) : Except Fault String :=
  match stand x.helper with
  | some answer => ((answer x.asked).perform x.world).1
  | none => ((nestedRender owner x.asked.shared x.asked.name x.asked.data).perform x.world).1

/-- What stands in for a helper that was reached, if it asks for a render. -/
def StandIns.for? (stand : StandIns) (q : Reached) : Option (Act String) :=
  (stand q.name).bind fun answer => q.asked?.map answer

/-- Calls helpers by name, with some stand-ins. -/
def callStanding (stand : StandIns) (owner : Owner) : Script.Caller :=
  fun className name args keywords => do
    match ((← get).helpers.reached? name args keywords).bind stand.for? with
    | some answer => return .text (← Play.ofAct answer)
    | none => callHelper nestedRender owner className name args keywords

/-- Renders a view, with some stand-ins. -/
def View.renderStanding (v : View) (stand : StandIns) (data : Bindings)
    (helpers : List (String × Helper)) : Play String :=
  renderCalling (callStanding stand v.owner) v.name v.config v.engine data helpers

/-- The render that a deed asks for. -/
def Script.Deed.query? (s : Scene) (d : Script.Deed) : Option Query :=
  (d.reached? s.helpers).bind fun q => q.asked?.map fun a => ⟨q.name, a, s.world⟩

/-- The renders that deeds ask for, in order. -/
def Script.queries (call : Script.Caller) : List Script.Deed → Scene → List Query
  | [], _ => []
  | d :: ds, s =>
    match d.query? s with
    | some x => x :: queries call ds (d.done call s)
    | none => queries call ds (d.done call s)

/-- How the renders are answered that deeds ask for, with some stand-ins. -/
def StandIns.answers (stand : StandIns) (owner : Owner) (ds : List Script.Deed) (s : Scene) :
    List (Except Fault String) :=
  (Script.queries (callStanding stand owner) ds s).map (stand.answer owner)

variable {stand : StandIns} {owner : Owner} {s s' : Scene} {d : Script.Deed}

theorem callStanding_answered {className : String} {name : Value} {args : List Value}
    {keywords : List (String × Value)} {answer : Act String}
    (h : (s.helpers.reached? name args keywords).bind stand.for? = some answer) :
    (callStanding stand owner className name args keywords).perform s =
      (do return .text (← Play.ofAct answer) : Play Value).perform s := by
  rw [callStanding, Stateful.perform_bind_ok (Stateful.perform_get s), h]

theorem callStanding_unanswered {className : String} {name : Value} {args : List Value}
    {keywords : List (String × Value)}
    (h : (s.helpers.reached? name args keywords).bind stand.for? = none) :
    (callStanding stand owner className name args keywords).perform s =
      (callHelper nestedRender owner className name args keywords).perform s := by
  rw [callStanding, Stateful.perform_bind_ok (Stateful.perform_get s), h]

/-- A deed is done by its stand-in if it has one, and as ever if not. -/
theorem play_standing (d : Script.Deed) (s : Scene) :
    (d.play (callStanding stand owner)).perform s =
      match (d.reached? s.helpers).bind stand.for? with
      | some answer => (do return .text (← Play.ofAct answer) : Play Value).perform s
      | none => (d.play (callHelper nestedRender owner)).perform s := by
  cases d with
  | add n v => rfl
  | remove n => rfl
  | call route name args keywords =>
      cases route with
      | invoke =>
          simp only [Script.Deed.play, Script.Deed.reached?]
          split
          · rename_i answer h
            exact callStanding_answered h
          · rename_i h
            exact callStanding_unanswered h
      | proxy | contextProxy =>
          simp only [Script.Deed.play, Script.Deed.reached?, Script.callProxy]
          -- What the proxy itself has is refused either way.
          by_cases hown : Registry.proxyOwn.contains name = true
          · simp only [if_pos hown, Option.bind_none]
          · simp only [if_neg hown]
            split
            · rename_i answer h
              exact callStanding_answered h
            · rename_i h
              exact callStanding_unanswered h

theorem callStanding_noStandIns (owner : Owner) :
    callStanding noStandIns owner = callHelper nestedRender owner := by
  funext className name args keywords s
  have hnone : (s.helpers.reached? name args keywords).bind noStandIns.for? = none := by
    cases s.helpers.reached? name args keywords <;> rfl
  exact callStanding_unanswered hnone

/-- The text of an answer is passed on, and the world is the only thing that changes. -/
theorem perform_answer (answer : Act String) (s : Scene) :
    (do return .text (← Play.ofAct answer) : Play Value).perform s =
      ((answer.perform s.world).1.map .text, { s with world := (answer.perform s.world).2 }) := by
  rw [Stateful.perform_bind, Play.perform_ofAct]
  rcases (answer.perform s.world).1 with f | text <;> rfl

/-- In scenes that are the same a deed asks for the same. -/
theorem query?_same (hs : s.Same s') :
    d.query? s' = (d.query? s).map fun x => { x with world := s'.world } := by
  rw [Script.Deed.query?, Script.Deed.query?, hs.helpers]
  cases d.reached? s'.helpers with
  | none => rfl
  | some q =>
      rw [Option.bind_some, Option.bind_some]
      cases q.asked? <;> rfl

/-- What a deed asks for is asked for in the world in which the deed is done. -/
theorem query?_world {x : Query} (h : d.query? s = some x) : x.world = s.world := by
  rcases Option.bind_eq_some_iff.mp h with ⟨q, -, hq⟩
  rcases Option.map_eq_some_iff.mp hq with ⟨a, -, rfl⟩
  rfl

/-- A deed that asks for a render gives the text of the answer, and does no more than that to
    its scene. -/
theorem play_asking (stand : StandIns) (owner : Owner) {x : Query} (h : d.query? s = some x) :
    ∃ w, (d.play (callStanding stand owner)).perform s =
      ((stand.answer owner x).map .text, { s with world := w }) := by
  rcases Option.bind_eq_some_iff.mp h with ⟨q, hq, hx⟩
  rcases Option.map_eq_some_iff.mp hx with ⟨a, ha, rfl⟩
  rw [play_standing, hq, Option.bind_some, StandIns.for?, ha, StandIns.answer]
  cases hstand : stand q.name with
  | none =>
      simp only [Option.bind_none]
      rw [(Script.Deed.play_reached nestedRender owner hq).1, callBound_asked ha, perform_answer]
      exact ⟨_, rfl⟩
  | some answer =>
      simp only [Option.bind_some, Option.map_some]
      rw [perform_answer]
      exact ⟨_, rfl⟩

/-- A deed that asks for none has no stand-in, and does not look at the world. -/
theorem play_unasking (hs : s.Same s') (h : d.query? s = none) :
    SameOutcome ((d.play (callHelper nestedRender owner)).perform s)
      ((d.play (callStanding stand owner)).perform s') := by
  rw [play_standing]
  cases hq : d.reached? s.helpers with
  | none =>
      have hq' : d.reached? s'.helpers = none := hs.helpers ▸ hq
      rw [hq']
      cases d with
      | add n v => exact ((Registry.add_blind n _).bind fun _ => .pure _).same s s' hs
      | remove n => exact ((Registry.remove_blind n).bind fun _ => .pure _).same s s' hs
      | call route name args keywords =>
          rcases Script.Deed.play_unreached owner hq with ⟨f, hf⟩
          rcases hf nestedRender s rfl with ⟨w, -, hw⟩
          rcases hf nestedRender s' hs.helpers.symm with ⟨w', -, hw'⟩
          simp only [Option.bind_none]
          rw [hw, hw']
          exact ⟨rfl, hs.data, hs.helpers⟩
  -- The helper that is reached asks for no other template, so nothing stands in for it.
  | some q =>
      have hq' : d.reached? s'.helpers = some q := hs.helpers ▸ hq
      rw [Script.Deed.query?, hq, Option.bind_some, Option.map_eq_none_iff] at h
      have hfor : stand.for? q = none := by
        rw [StandIns.for?, h]
        cases stand q.name <;> rfl
      rw [hq', Option.bind_some, hfor]
      simp only
      rw [(Script.Deed.play_reached nestedRender owner hq).1,
        (Script.Deed.play_reached nestedRender owner hq').1]
      exact (callBound_blind h).same s s' hs

/-- A deed does the same with stand-ins, if what it asks for is answered alike. -/
theorem standing_step (hs : s.Same s')
    (h : (d.query? s).map (noStandIns.answer owner) = (d.query? s').map (stand.answer owner)) :
    SameOutcome ((d.play (callHelper nestedRender owner)).perform s)
      ((d.play (callStanding stand owner)).perform s') := by
  cases hx : d.query? s with
  | none => exact play_unasking hs hx
  | some x =>
      have hx' : d.query? s' = some { x with world := s'.world } := by rw [query?_same hs, hx]; rfl
      rw [hx, hx', Option.map_some, Option.map_some, Option.some.injEq] at h
      rcases play_asking noStandIns owner hx with ⟨w, hw⟩
      rcases play_asking stand owner hx' with ⟨w', hw'⟩
      rw [callStanding_noStandIns] at hw
      rw [hw, hw', h]
      exact ⟨rfl, hs.data, hs.helpers⟩

theorem answers_cons (ds : List Script.Deed) :
    stand.answers owner (d :: ds) s = ((d.query? s).map (stand.answer owner)).toList ++
      stand.answers owner ds (d.done (callStanding stand owner) s) := by
  rw [StandIns.answers, StandIns.answers, Script.queries]
  cases d.query? s <;> rfl

/-- Deeds do the same with stand-ins, if everything that they ask for is answered alike. -/
theorem standing_run {ds : List Script.Deed} (hs : s.Same s')
    (h : noStandIns.answers owner ds s = stand.answers owner ds s') :
    Script.Alike (callHelper nestedRender owner) (callStanding stand owner) ds s s' ∧
      (Script.doneAll (callHelper nestedRender owner) ds s).Same
        (Script.doneAll (callStanding stand owner) ds s') := by
  induction ds generalizing s s' with
  | nil => exact ⟨hs.helpers, hs⟩
  | cons d ds ih =>
      rw [answers_cons, answers_cons, callStanding_noStandIns] at h
      -- Both runs ask for something with this deed or neither does.
      have hlength : ((d.query? s).map (noStandIns.answer owner)).toList.length =
          ((d.query? s').map (stand.answer owner)).toList.length := by
        rw [query?_same hs]
        cases d.query? s <;> rfl
      rcases List.append_inj h hlength with ⟨hnow, hrest⟩
      have hstep := standing_step hs (by
        simpa only [Option.head?_toList] using congrArg List.head? hnow)
      rcases ih hstep.scene hrest with ⟨halike, hsame⟩
      exact ⟨⟨hs.helpers, hstep.result, halike⟩, hsame⟩

section

variable {some? : String → Bool} {g : String → Asked → Except Fault String} {I : World → Prop}

/-- A stand-in gives what the helper gave that it replaces, and another helper gives the same
    as long as something holds that nothing disturbs. So a deed is answered alike. -/
theorem answer_replacing (hfixed : ∀ n, some? n = false → ∀ a : Asked, ∃ r, ∀ w, I w →
      ((nestedRender owner a.shared a.name a.data).perform w).1 = r)
    (hs : s.Same s') (hI : I s.world) (hI' : I s'.world)
    (h : ∀ x ∈ d.query? s, some? x.helper = true →
      noStandIns.answer owner x = g x.helper x.asked) :
    (d.query? s).map (noStandIns.answer owner) =
      (d.query? s').map ((replacing some? g).answer owner) := by
  rw [query?_same hs]
  cases hx : d.query? s with
  | none => rfl
  | some x =>
      rw [Option.map_some, Option.map_some, Option.map_some]
      refine congrArg some ?_
      cases hsome : some? x.helper with
      | true =>
          have hgiven : (replacing some? g).answer owner { x with world := s'.world } =
              g x.helper x.asked := by
            rw [StandIns.answer, replacing, if_pos hsome]
            exact congrArg Prod.fst (Act.perform_ofExcept _ _)
          rw [hgiven]
          exact h x hx hsome
      | false =>
          rcases hfixed x.helper hsome x.asked with ⟨r, hr⟩
          have hgiven : (replacing some? g).answer owner { x with world := s'.world } = r := by
            rw [StandIns.answer, replacing, hsome]
            exact hr _ hI'
          rw [hgiven]
          exact hr _ (query?_world hx ▸ hI)

variable (hlog : ∀ w w' : World, w.Logged w' → I w → I w')
  (hkeep : ∀ (a : Asked) (w : World), I w →
    I ((nestedRender owner a.shared a.name a.data).perform w).2)

include hlog hkeep

/-- What logging and renders inside renders do not disturb, no deed disturbs. -/
theorem done_keeps (d : Script.Deed) {s : Scene} (h : I s.world) :
    I (d.done (callHelper nestedRender owner) s).world := by
  cases hq : d.reached? s.helpers with
  | some q =>
      rw [Script.Deed.done, (Script.Deed.play_reached nestedRender owner hq).1]
      cases ha : q.asked? with
      | none => exact hlog _ _ ((callBound_blind ha).logs s) h
      | some a =>
          rw [callBound_asked ha, perform_answer]
          exact hkeep a s.world h
  | none =>
      cases d with
      | add n v => exact hlog _ _ (((Registry.add_blind n _).bind fun _ => .pure _).logs s) h
      | remove n => exact hlog _ _ (((Registry.remove_blind n).bind fun _ => .pure _).logs s) h
      | call route name args keywords =>
          rcases Script.Deed.play_unreached owner hq with ⟨f, hf⟩
          rcases hf nestedRender s rfl with ⟨w, hlogged, hw⟩
          rw [Script.Deed.done, hw]
          exact hlog _ _ hlogged h

/-- Nor with stand-ins. -/
theorem standing_keeps (d : Script.Deed) {s : Scene} (h : I s.world) :
    I (d.done (callStanding (replacing some? g) owner) s).world := by
  rw [Script.Deed.done, play_standing]
  cases hq : (d.reached? s.helpers).bind (replacing some? g).for? with
  | none => exact done_keeps hlog hkeep d h
  | some answer =>
      -- A stand-in leaves the world alone.
      rcases Option.bind_eq_some_iff.mp hq with ⟨q, -, hq⟩
      rcases Option.bind_eq_some_iff.mp hq with ⟨k, hk, hq⟩
      rcases Option.map_eq_some_iff.mp hq with ⟨a, -, rfl⟩
      rw [replacing] at hk
      split at hk
      · cases hk
        simp only
        rw [perform_answer, Act.perform_ofExcept]
        exact h
      · cases hk

/-- So are all deeds, if that is so for everything that they ask for. -/
theorem answers_replacing {ds : List Script.Deed}
    (hfixed : ∀ n, some? n = false → ∀ a : Asked, ∃ r, ∀ w, I w →
      ((nestedRender owner a.shared a.name a.data).perform w).1 = r)
    (hs : s.Same s') (hI : I s.world)
    (hI' : I s'.world)
    (h : ∀ x ∈ Script.queries (callHelper nestedRender owner) ds s, some? x.helper = true →
      noStandIns.answer owner x = g x.helper x.asked) :
    noStandIns.answers owner ds s = (replacing some? g).answers owner ds s' := by
  -- The answer to the first deed is the same, and so the scenes stay the same for those after it.
  induction ds generalizing s s' with
  | nil => rfl
  | cons d ds ih =>
      rw [Script.queries] at h
      have hfirst : ∀ x ∈ d.query? s, some? x.helper = true →
          noStandIns.answer owner x = g x.helper x.asked := by
        intro x hx
        rw [Option.mem_def] at hx
        rw [hx] at h
        exact h x List.mem_cons_self
      have hlater : ∀ x ∈ Script.queries (callHelper nestedRender owner) ds
          (d.done (callHelper nestedRender owner) s), some? x.helper = true →
          noStandIns.answer owner x = g x.helper x.asked := by
        intro x hx
        refine h x ?_
        cases d.query? s with
        | none => exact hx
        | some y => exact List.mem_cons_of_mem y hx
      have hnow := answer_replacing hfixed hs hI hI' hfirst
      have hrest := ih (standing_step hs hnow).scene (done_keeps hlog hkeep d hI)
        (standing_keeps hlog hkeep d hI') hlater
      rw [answers_cons, answers_cons, hnow, callStanding_noStandIns]
      exact congrArg _ hrest

end

/-- The script that a render of a view comes to. -/
def View.staged? (v : View) (data : Bindings) (helpers : List (String × Helper)) (s : Scene) :
    Option Staged :=
  match ((stage v.name v.config v.engine data helpers).perform s).1 with
  | .ok (.inr b) => some b
  | _ => none

/-- The renders that a render of a view asks for, in order. -/
def View.queries (v : View) (data : Bindings) (helpers : List (String × Helper)) (s : Scene) :
    List Query :=
  match v.staged? data helpers s with
  | some b =>
    Script.queries (callHelper nestedRender v.owner)
      (b.deeds (callHelper nestedRender v.owner)) b.scene
  | none => []

/-- How what a render of a view asks for is answered, with some stand-ins. -/
def View.nestedAnswers (v : View) (stand : StandIns) (data : Bindings)
    (helpers : List (String × Helper)) (s : Scene) : List (Except Fault String) :=
  match v.staged? data helpers s with
  | some b => stand.answers v.owner (b.deeds (callHelper nestedRender v.owner)) b.scene
  | none => []

/-- A render with stand-ins is like one without, if what is asked for is answered alike. -/
theorem render_standing {v : View} {data : Bindings} {helpers : List (String × Helper)}
    (h : v.nestedAnswers noStandIns data helpers s = v.nestedAnswers stand data helpers s) :
    SameOutcome ((v.render data helpers).perform s)
      ((v.renderStanding stand data helpers).perform s) := by
  rw [View.render_eq, View.renderStanding, renderCalling, Stateful.perform_bind,
    Stateful.perform_bind]
  rw [View.nestedAnswers, View.nestedAnswers, View.staged?] at h
  rcases hstage : (stage v.name v.config v.engine data helpers).perform s with ⟨f | text | b, s₁⟩
  · exact ⟨rfl, rfl, rfl⟩
  · exact ⟨rfl, rfl, rfl⟩
  · rw [hstage] at h
    have hscene : b.scene = s₁ := stage_scene _ _ _ hstage
    rcases standing_run ⟨rfl, rfl⟩ h with ⟨halike, hsame⟩
    rcases Staged.play_alike rfl halike with ⟨r, w, w', -, -, hplay, hplay'⟩
    rw [← hscene]
    simp only [finish]
    rw [hplay, hplay']
    exact ⟨rfl, hsame.data, hsame.helpers⟩

/-- Up to the start of its script a render only logs. -/
theorem View.staged?_logged {v : View} {data : Bindings} {helpers : List (String × Helper)}
    {b : Staged} (h : v.staged? data helpers s = some b) : s.world.Logged b.scene.world := by
  rw [View.staged?] at h
  rcases Resolution.resolve_perform v.config.templateRoot v.name v.config.extensions s.world with
    ⟨es, hes⟩
  cases howner : Resolution.owner s.world.files v.config.templateRoot v.name
      v.config.extensions with
  | error f =>
      rw [howner] at hes
      rw [stage_unresolved v.engine data helpers hes] at h
      cases h
  | ok resolution =>
      rw [howner] at hes
      cases hk : resolution.kind with
      | compiled =>
          rcases stage_compiled v.engine data helpers hes hk with ⟨r, w', hstage⟩
          rw [hstage] at h
          cases r <;> cases h
      | rawScript =>
          rcases stage_rawScript v.engine data helpers hes hk with ⟨r, w', hlog, hstage, -⟩
          rw [hstage] at h
          cases r with
          | error f => cases h
          | ok p =>
              cases h
              exact .trans ⟨es, rfl⟩ hlog

/-- What a render asks for is answered alike, if stand-ins give what they gave that they
    replace and something holds from the start of the script on by which the others give the
    same. -/
theorem View.nestedAnswers_replacing {v : View} {data : Bindings}
    {helpers : List (String × Helper)} {some? : String → Bool}
    {g : String → Asked → Except Fault String} {I : World → Prop}
    (hlog : ∀ w w' : World, w.Logged w' → I w → I w')
    (hkeep : ∀ (a : Asked) (w : World), I w →
      I ((nestedRender v.owner a.shared a.name a.data).perform w).2)
    (hfixed : ∀ n, some? n = false → ∀ a : Asked, ∃ r, ∀ w, I w →
      ((nestedRender v.owner a.shared a.name a.data).perform w).1 = r)
    (hI : I s.world)
    (h : ∀ x ∈ v.queries data helpers s, some? x.helper = true →
      noStandIns.answer v.owner x = g x.helper x.asked) :
    v.nestedAnswers noStandIns data helpers s =
      v.nestedAnswers (replacing some? g) data helpers s := by
  rw [View.nestedAnswers, View.nestedAnswers]
  rw [View.queries] at h
  cases hstaged : v.staged? data helpers s with
  | none => rfl
  | some b =>
      rw [hstaged] at h
      have hstart : I b.scene.world := hlog _ _ (View.staged?_logged hstaged) hI
      exact answers_replacing hlog hkeep hfixed ⟨rfl, rfl⟩ hstart hstart h

/-- A render does not depend on how the helpers that render other templates come by what they
    give. -/
structure Isolated (v : View) (data : Bindings) (helpers : List (String × Helper)) (s : Scene) :
    Prop where
  /-- Stand-ins change nothing if everything that is asked for is answered as before. -/
  alike : ∀ stand,
    v.nestedAnswers noStandIns data helpers s = v.nestedAnswers stand data helpers s →
    SameOutcome ((v.render data helpers).perform s)
      ((v.renderStanding stand data helpers).perform s)
  /-- So it is if all the helpers are replaced by what they give for their arguments. -/
  all : ∀ g, (∀ x ∈ v.queries data helpers s, noStandIns.answer v.owner x = g x.helper x.asked) →
    SameOutcome ((v.render data helpers).perform s)
      ((v.renderStanding (replacing (fun _ => true) g) data helpers).perform s)
  /-- And if any of them are, where all engines that are at work are of one kind. -/
  any : v.Settled s.world → ∀ some? g, (∀ x ∈ v.queries data helpers s, some? x.helper = true →
      noStandIns.answer v.owner x = g x.helper x.asked) →
    SameOutcome ((v.render data helpers).perform s)
      ((v.renderStanding (replacing some? g) data helpers).perform s)

/-- Replacing helpers that render other templates by stand-ins changes neither the result of
    a render nor the data and the helpers that it leaves. -/
theorem nested_isolated (v : View) (data : Bindings) (helpers : List (String × Helper))
    (s : Scene) : Isolated v data helpers s := by
  refine ⟨fun stand h => render_standing h, fun g h => render_standing ?_,
    fun hsettled some? g h => render_standing ?_⟩
  · exact View.nestedAnswers_replacing (I := fun _ => True) (fun _ _ _ _ => trivial)
      (fun _ _ _ => trivial) (fun _ h => nomatch h) trivial fun x hx _ => h x hx
  · rcases hsettled.running with ⟨tr, hrunning⟩
    -- What the engine has for names at first is what it has all along.
    have hgives : ∀ a : Asked, ∃ r, Engine.Gives (Engine.Steady v.config
        (Engine.defaultExtensions v.config) tr v.engine s.world) (fun y => y)
        (nestedRender v.owner a.shared a.name a.data) r :=
      nestedRender_gives v.name hsettled.directory
    have hfixed : ∀ a : Asked, ∃ r, ∀ w, Engine.Steady v.config
        (Engine.defaultExtensions v.config) tr v.engine s.world w →
        ((nestedRender v.owner a.shared a.name a.data).perform w).1 = r := by
      intro a
      rcases hgives a with ⟨r, hr⟩
      exact ⟨r, fun w hw => (hr.result hw).1⟩
    refine View.nestedAnswers_replacing (fun _ _ hlog hw => hw.logged hlog) ?_
      (fun _ _ => hfixed) (.refl hrunning) h
    intro a w hw
    rcases hgives a with ⟨r, hr⟩
    exact (hr.result hw).2

/-- A script that renders one template twice, by two helpers. -/
def twiceBody : Script.Program :=
  [.write [.call .proxy "A" [.lit (.text "t")] [] [], .call .proxy "B" [.lit (.text "t")] [] []]]

/-- Files with that script, and with a template that only engines with translations can
    compile. -/
def twiceFiles : Files :=
  (Engine.textFiles [("templates/t.j2", "one\x7b% if false %\x7d\x7b% trans %\x7dtwo" ++
    "\x7b% endtrans %\x7d\x7b% endif %\x7d")] 10).writeDeep (Path.ofString "templates/outer.pyt")
    (.file (.script twiceBody) 10)

/-- A view of the script. One of its helpers renders on an engine of its own, and the other on
    that of the view. -/
def twiceView : View :=
  ⟨.text "outer", .default, 0, [], [("A", ⟨.include, 0⟩), ("B", ⟨.includeShared, 0⟩)]⟩

/-- A world with those files only. -/
def twiceWorld : World := .ofFiles twiceFiles 0 "" ⟨.here, []⟩

/-- The view after its engine was made. -/
def twiceScene (x : Option Extensions) : Scene :=
  ⟨twiceView.data, twiceView.helpers,
    ((Engine.create .default x none).perform twiceWorld).2⟩

/-- With the extensions of its configuration the engine is of the kind that helpers make. -/
theorem twice_settled : twiceView.Settled (twiceScene none).world := by
  have hedit : Files.Edit .empty twiceFiles :=
    (Engine.textFiles_edit _ _).trans (Files.writeDeep_edit (Engine.textFiles_edit _ _).tidy _ rfl)
  have hkept : Engine.NothingKept .default twiceFiles := (Engine.nothingKept_empty _).edit hedit
  have hmade : (Engine.create .default none none).perform twiceWorld =
      (.ok 0, (twiceScene none).world) := Prod.ext (by decide +kernel) rfl
  have hsound : Engine.Sound .default (Engine.defaultExtensions .default) twiceWorld.files :=
    hkept.sound hedit.tidy _
  exact View.settled_of_create hsound hmade rfl nofun

/-- Stand-ins for one or both helpers write the same text. -/
theorem nested_isolated_twice :
    twiceView.Settled (twiceScene none).world ∧
    (∀ x ∈ twiceView.queries [] [] (twiceScene none),
      noStandIns.answer twiceView.owner x = .ok "one") ∧
    ∀ some? : String → Bool,
      ((twiceView.renderStanding (replacing some? fun _ _ => .ok "one") [] []).perform
        (twiceScene none)).1 = .ok "oneone" := by
  have hanswers : ∀ x ∈ twiceView.queries [] [] (twiceScene none),
      noStandIns.answer twiceView.owner x = .ok "one" := by decide +kernel
  have hrender : ((twiceView.render [] []).perform (twiceScene none)).1 = .ok "oneone" := by
    decide +kernel
  refine ⟨twice_settled, hanswers, fun some? => ?_⟩
  have hsame := (nested_isolated twiceView [] [] (twiceScene none)).any twice_settled some?
    (fun _ _ => .ok "one") fun x hx _ => hanswers x hx
  exact hsame.result.symm.trans hrender

/-- It is not enough to look at the helper that is replaced. What its render leaves in the
    cache may be what lets that of another helper succeed. -/
theorem not_isolated_alone :
    ¬∀ (v : View) (n : String) (g : Asked → Except Fault String) (data : Bindings)
      (helpers : List (String × Helper)) (s : Scene),
      (∀ x ∈ v.queries data helpers s, x.helper = n →
        noStandIns.answer v.owner x = g x.asked) →
      SameOutcome ((v.render data helpers).perform s)
        ((v.renderStanding (replacing (· == n) fun _ => g) data helpers).perform s) := by
  intro h
  -- The engine of the view has no translations, other than those that helpers make.
  let s := twiceScene (some ⟨false, false⟩)
  have hanswers : ∀ x ∈ twiceView.queries [] [] s, x.helper = "A" →
      noStandIns.answer twiceView.owner x = .ok "one" := by decide +kernel
  have hsame := (h twiceView "A" (fun _ => .ok "one") [] [] s hanswers).result
  have hrender : ((twiceView.render [] []).perform s).1 = .ok "oneone" := by decide +kernel
  -- Without the first render the second cannot compile the template.
  have hstanding : ¬((twiceView.renderStanding (replacing (· == "A") fun _ _ => .ok "one") []
      []).perform s).1 = .ok "oneone" := by decide +kernel
  exact hstanding (hsame.symm.trans hrender)

end Stencil
