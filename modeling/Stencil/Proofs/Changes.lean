import Stencil.Proofs.HelperMap
import Stencil.Proofs.Staging
import Stencil.Session

/-!
# What a view goes through

Whatever is done with a view, only four kinds of changes of its data and helpers come of it:
entries are written, a helper is added or removed, or a table of helpers is laid over the
one that is there. Which changes these are is read off what is done: off the arguments for
most operations, off the steps of a routine for the call of one, and off the deeds of the script
for a render.

The data after a run are the data before it with all that was written, in order. The helpers
after a run, as a map, are the map before it with all that was asked for, where adding a
helper asks for it only if its name is free.

## Main definitions

* `Change`: A change of the data or the helpers of a view, as it is asked for.
* `Change.entries`, `Change.after`: What it writes, and what becomes of a map of helpers.
* `Routine.changes`, `Reached.changes`: The changes that come of routines and helpers.
* `Operation`: Something done with a view, or elsewhere in the world meanwhile.
* `Operation.changes`, `changesOf`: The changes that come of operations.
* `Changed`: One scene comes from another by changes.

## Theorems

* `changed_routine`, `changed_helper`, `changed_deeds`: What routines and helpers change, and what
  scripts do.
* `changed_render`: What a render changes.
* `changed_run`: What a run changes.
-/

namespace Stencil

/-- A change of the data or the helpers of a view, as it is asked for. -/
inductive Change where
  | write (entries : Bindings)
  | add (name : String) (h : Helper)
  | remove (name : String)
  | overlay (helpers : List (String × Helper))

namespace Change

/-- What a change writes into the data. -/
def entries : Change → Bindings
  | .write es => es
  | .add _ _ | .remove _ | .overlay _ => []

/-- The helpers after a change. A helper is added only under a free name. -/
def after (m : HelperMap) : Change → HelperMap
  | .write _ => m
  | .add n h => if n = "" ∨ (m n).isSome then m else Function.update m n (some h)
  | .remove n => Function.update m n none
  | .overlay hs => m.overlay hs

end Change

/-- What changes write into the data, in order. -/
def writesOf (cs : List Change) : Bindings := cs.flatMap Change.entries

/-- The helpers after changes. -/
def HelperMap.afterAll (cs : List Change) (m : HelperMap) : HelperMap := cs.foldl Change.after m

/-- One scene comes from another by changes of its data and helpers. -/
structure Changed (s : Scene) (cs : List Change) (s' : Scene) : Prop where
  data : s'.data = s.data.update (writesOf cs)
  helpers : s'.helpers.toMap = s.helpers.toMap.afterAll cs
  distinct : s.helpers.Distinct → s'.helpers.Distinct

/-- The entries that are set by a key and a value, or by a mapping without a value. -/
def View.entriesOf (data : Value) (value : Option Value) : Bindings :=
  match data with
  | .dict es => if value.isSome then [] else Bindings.ofEntries es
  | data =>
    match data.text? with
    | some key => [(key, value.getD .null)]
    | none => []

/-- A key and a value given as a list of two. -/
def pair? : Value → Option (String × Value)
  | .list [.text k, x] => some (k, x)
  | _ => none

/-- The pairs in front of a list. -/
def leadingPairs : List Value → Bindings
  | [] => []
  | p :: rest =>
    match pair? p with
    | some e => e :: leadingPairs rest
    | none => []

/-- The entries that are set by a mapping, or by a list of pairs up to the first that is
    none. What counts as false sets nothing. -/
def Session.entriesOf (v : Value) : Bindings :=
  if Config.isSet v then
    match v with
    | .dict es => Bindings.ofEntries es
    | v =>
      match v.items with
      | .ok items => leadingPairs items
      | .error _ => []
  else []

/-- The change that a callable makes of the table. -/
def HelperEdit.change : HelperEdit → Change
  | .add n v => .add n (.const v)
  | .remove n => .remove n

/-- What a routine changes, from a scene on. -/
def Routine.changes : Routine → Scene → List Change
  | .answer _, _ | .fail _ _, _ => []
  | .readData next, s => (next s.data).changes s
  | .readNames next, s => (next s.helpers.names).changes s
  | .write es next, s => .write es :: next.changes { s with data := s.data.update es }
  | .edit e next catches caught, s =>
    e.change ::
      match (e.attempt catches).perform s with
      | (.ok none, s') => next.changes s'
      | (.ok (some f), s') => (caught f).changes s'
      | (.error _, _) => []

/-- What a helper that was reached changes. -/
def Reached.changes (q : Reached) (s : Scene) : List Change :=
  match q.binding.helper, q.args with
  | .setData, [v] => [.write (View.entriesOf v none)]
  | .setData, [v, w] => [.write (View.entriesOf v (some w))]
  | .addConst, n :: v :: _ =>
    [.add (if Config.isSet n then Helper.nameText n else "") (.const v)]
  | .remove, n :: _ => [.remove (Helper.nameText n)]
  | .routine steps, args => (steps args q.keywords).changes s
  | _, _ => []

/-- What the helper that is reached changes, if one is. -/
def changesOf? (s : Scene) (q : Option Reached) : List Change := q.elim [] (·.changes s)

namespace Script

/-- What a deed changes in a scene. -/
def Deed.changes (s : Scene) : Deed → List Change
  | .call route name args keywords =>
    changesOf? s ((Deed.call route name args keywords).reached? s.helpers)
  | .add n v => [.add n (.const v)]
  | .remove n => [.remove n]

/-- What deeds change, one after the other. -/
def deedsChanges (call : Caller) : List Deed → Scene → List Change
  | [], _ => []
  | d :: ds, s => d.changes s ++ deedsChanges call ds (d.done call s)

end Script

/-- What a render changes: nothing if the name has no owner. Otherwise the data are written,
    and for a script the helpers are laid over those of the view before it does its deeds. -/
def View.renderChanges (v : View) (data : Bindings) (helpers : List (String × Helper))
    (s : Scene) : List Change :=
  match (v.resolve.perform s.world).1 with
  | .error _ => []
  | .ok resolution =>
    match resolution.kind with
    | .compiled => [.write data]
    | .rawScript =>
      [.write data, .overlay helpers] ++
        match ((stage v.name v.config v.engine data helpers).perform s).1 with
        | .ok (.inr b) =>
          Script.deedsChanges (callHelper nestedRender v.owner)
            (b.deeds (callHelper nestedRender v.owner)) b.scene
        | _ => []

/-- What a step of a view changes. -/
def ViewStep.changes (v : View) (s : Scene) : ViewStep → List Change
  | .set data value => [.write (View.entriesOf data value)]
  | .setAll data => [.write (Session.entriesOf data)]
  | .setOne key value => [.write [(key, value)]]
  | .setHelper n h => [.add n h]
  | .removeHelper n => [.remove n]
  | .invoke n args keywords => changesOf? s (s.helpers.reached? (.text n) args keywords)
  | .call n args keywords =>
    if Registry.proxyHas s.helpers n then
      (Script.Deed.call .proxy n args keywords).changes s
    else []
  | .render data helpers => v.renderChanges data helpers s
  | .resolve | .name | .shown | .config => []

/-- Something done with a view, or elsewhere in the world meanwhile. -/
inductive Operation where
  | step (st : ViewStep)
  | merge (helpers : List (String × Helper))
  | elsewhere (f : World → World)

namespace Operation

/-- Doing it. -/
def play (v : View) : Operation → Play Result
  | .step st => Session.viewStep v st
  | .merge helpers => do
    Registry.mergeDefaults helpers
    return .none
  | .elsewhere f => do
    modify fun s => { s with world := f s.world }
    return .none

/-- The scene after it. -/
def done (v : View) (o : Operation) (s : Scene) : Scene := ((o.play v).perform s).2

/-- What it changes. -/
def changes (v : View) (s : Scene) : Operation → List Change
  | .step st => st.changes v s
  | .merge helpers => [.overlay helpers]
  | .elsewhere _ => []

end Operation

/-- The scene after a run of operations. -/
def View.after (v : View) (ops : List Operation) (s : Scene) : Scene :=
  ops.foldl (fun s o => o.done v s) s

/-- What a run of operations changes, in order. -/
def View.changes (v : View) : List Operation → Scene → List Change
  | [], _ => []
  | o :: ops, s => o.changes v s ++ v.changes ops (o.done v s)

namespace Changed

variable {s s' s'' : Scene} {cs cs' : List Change}

/-- Only the data and the helpers count. -/
theorem of_same (hdata : s'.data = s.data) (hhelpers : s'.helpers = s.helpers) :
    Changed s [] s' :=
  ⟨hdata, congrArg _ hhelpers, fun h => hhelpers ▸ h⟩

theorem trans (h : Changed s cs s') (h' : Changed s' cs' s'') : Changed s (cs ++ cs') s'' := by
  refine ⟨?_, ?_, fun hd => h'.distinct (h.distinct hd)⟩
  · rw [h'.data, h.data, writesOf, writesOf, writesOf, List.flatMap_append]
    exact List.foldl_append.symm
  · rw [h'.helpers, h.helpers]
    exact List.foldl_append.symm

/-- The world may be another one afterwards. -/
theorem world (h : Changed s cs s') (w : World) : Changed s cs { s' with world := w } :=
  ⟨h.data, h.helpers, h.distinct⟩

theorem write (es : Bindings) (w : World) :
    Changed s [.write es] ⟨s.data.update es, s.helpers, w⟩ := by
  refine ⟨?_, rfl, id⟩
  rw [writesOf, List.flatMap_singleton]
  rfl

theorem overlay (hs : List (String × Helper)) (w : World) :
    Changed s [.overlay hs] ⟨s.data, (s.helpers.overlay hs).1, w⟩ :=
  ⟨rfl, s.helpers.toMap_overlay hs, fun h => h.overlay hs⟩

/-- Giving another value instead of that of an action changes nothing more. -/
theorem andReturn {α β : Type} {p : Play α} (h : Changed s cs (p.perform s).2) (f : α → β) :
    Changed s cs ((do return f (← p)).perform s).2 := by
  rw [Stateful.perform_bind]
  rcases hp : p.perform s with ⟨e | x, s'⟩ <;> rwa [hp] at h

end Changed

variable {s : Scene}

theorem changed_add (n : String) (h : Helper) (s : Scene) :
    Changed s [.add n h] ((Registry.add n h).perform s).2 := by
  rcases Registry.add_perform n h s with ⟨w, hadd⟩
  rw [hadd]
  by_cases hn : n = ""
  · -- A name that is empty or bound leaves the map as it is.
    have hafter : (Change.add n h).after s.helpers.toMap = s.helpers.toMap := by
      rw [Change.after, if_pos (.inl hn)]
    rw [if_pos hn]
    exact ⟨rfl, hafter.symm, id⟩
  · rw [if_neg hn]
    cases hbound : s.helpers.has n with
    | true =>
        have hafter : (Change.add n h).after s.helpers.toMap = s.helpers.toMap := by
          rw [Change.after, if_pos (.inr (s.helpers.has_eq n ▸ hbound))]
        exact ⟨rfl, hafter.symm, id⟩
    | false =>
        have hafter : (Change.add n h).after s.helpers.toMap =
            Function.update s.helpers.toMap n (some h) := by
          have hfree : (s.helpers.toMap n).isSome = false := s.helpers.has_eq n ▸ hbound
          rw [Change.after, if_neg (by simp [hn, hfree])]
        exact ⟨rfl, (HelperTable.toMap_bind _ _ _).trans hafter.symm, fun hd => hd.bind _ _⟩

theorem changed_remove (n : String) (s : Scene) :
    Changed s [.remove n] ((Registry.remove n).perform s).2 := by
  rcases Registry.remove_perform n s with ⟨w, hremove⟩
  rw [hremove]
  cases hbound : s.helpers.has n with
  | true => exact ⟨rfl, s.helpers.toMap_unbind n, fun hd => hd.unbind n⟩
  | false =>
      -- There is nothing to take out of the map.
      have hafter : (Change.remove n).after s.helpers.toMap = s.helpers.toMap := by
        rw [Change.after, Function.update_eq_self_iff]
        have hfree : (s.helpers.toMap n).isSome = false := s.helpers.has_eq n ▸ hbound
        exact (Option.isNone_iff_eq_none.mp (by simpa using hfree)).symm
      exact ⟨rfl, hafter.symm, id⟩

theorem changed_setData (name data : Value) (value : Option Value) (s : Scene) :
    Changed s [.write (View.entriesOf data value)]
      ((View.setData name data value).perform s).2 := by
  cases data with
  | dict es =>
      -- A mapping is refused together with a value.
      cases value with
      | some v => exact .write [] s.world
      | none => exact .write _ s.world
  | text k | markup k => exact .write [(k, value.getD .null)] s.world
  | _ => exact .write [] _

theorem leadingPairs_eq_nil {items : List Value}
    (h : ∀ k x rest, items ≠ .list [.text k, x] :: rest) : leadingPairs items = [] := by
  cases items with
  | nil => rfl
  | cons p rest =>
      rw [leadingPairs]
      unfold pair?
      split
      · rename_i heq
        split at heq
        · exact absurd rfl (h _ _ _)
        · cases heq
      · rfl

/-- Pairs are set one after the other, up to the first that is none. -/
theorem changed_setPairs (set : Value → Play Unit) {f : Fault}
    (hset : ∀ p, set p = match pair? p with
      | some (k, x) => View.setOne k x
      | none => throw f)
    (items : List Value) (s : Scene) :
    Changed s [.write (leadingPairs items)] ((items.forM set).perform s).2 := by
  induction items generalizing s with
  | nil => exact .write [] s.world
  | cons p items ih =>
      rw [List.forM_eq_forM, List.forM_cons, leadingPairs, hset]
      cases pair? p with
      | none => exact .write [] s.world
      | some e =>
          have hrest := ih { s with data := s.data.set e.1 e.2 }
          exact ⟨hrest.data, hrest.helpers, hrest.distinct⟩

section

variable {v : Value} (hset : Config.isSet v = true) (hdict : ∀ es, v ≠ .dict es)
include hset hdict

theorem Session.entriesOf_items : Session.entriesOf v =
    match v.items with
    | .ok items => leadingPairs items
    | .error _ => [] := by
  unfold Session.entriesOf
  rw [if_pos hset]
  split
  · exact absurd rfl (hdict _)
  · rfl

/-- What is no mapping is gone through, and the pairs in front are set. -/
theorem setAllOf_items : ∃ k : List Value → Play Unit,
    Session.setAllOf v = Play.ofExcept v.items >>= k ∧
      ∀ items s, Changed s [.write (leadingPairs items)] ((k items).perform s).2 := by
  unfold Session.setAllOf
  rw [if_pos hset]
  split
  · exact absurd rfl (hdict _)
  · refine ⟨_, rfl, fun items s => ?_⟩
    have hfail : ∀ f : Fault, Changed s [.write []] ((throw f : Play Unit).perform s).2 :=
      fun _ => .write [] s.world
    -- The first item decides, and what follows a pair is asked to be one.
    split
    · exact hfail _
    · rename_i k x rest
      rw [View.setOne, Stateful.perform_bind_ok (Stateful.perform_modify _ s)]
      have hrest := changed_setPairs (fun p => match p with
          | .list [.text k, x] => View.setOne k x
          | _ => throw (.misuse (.arguments
              "cannot convert dictionary update sequence element #1 to a sequence")))
        (fun p => by unfold pair?; split <;> rfl) rest { s with data := s.data.set k x }
      exact ⟨hrest.data, hrest.helpers, hrest.distinct⟩
    · rename_i xs rest hpair
      rw [leadingPairs_eq_nil fun k x rest heq => by cases heq; exact hpair k x rfl]
      exact hfail _
    · rename_i hpair hlist
      rw [leadingPairs_eq_nil hpair]
      exact hfail _

end

theorem changed_setAllOf (v : Value) (s : Scene) :
    Changed s [.write (Session.entriesOf v)] ((Session.setAllOf v).perform s).2 := by
  by_cases hset : Config.isSet v = true
  · by_cases hdict : ∃ es, v = .dict es
    · rcases hdict with ⟨es, rfl⟩
      unfold Session.setAllOf Session.entriesOf
      rw [if_pos hset, if_pos hset]
      exact .write _ s.world
    · have hno : ∀ es, v ≠ .dict es := fun es he => hdict ⟨es, he⟩
      rcases setAllOf_items hset hno with ⟨k, hplay, hchanged⟩
      rw [hplay, Session.entriesOf_items hset hno, Stateful.perform_bind, Play.perform_ofExcept]
      cases v.items with
      | error f => exact .write [] s.world
      | ok items => exact hchanged items s
  · unfold Session.setAllOf Session.entriesOf
    rw [if_neg hset, if_neg hset]
    exact .write [] s.world

theorem changed_edit (e : HelperEdit) (s : Scene) : Changed s [e.change] (e.play.perform s).2 := by
  cases e with
  | add n v => exact changed_add n (.const v) s
  | remove n => exact changed_remove n s

/-- An edit changes the same whether or not its fault is caught. -/
theorem changed_attempt (e : HelperEdit) (catches : Fault → Bool) (s : Scene) :
    Changed s [e.change] ((e.attempt catches).perform s).2 := by
  have hedit := changed_edit e s
  rw [HelperEdit.attempt, Stateful.perform_tryCatch, Stateful.perform_bind]
  rcases hplay : e.play.perform s with ⟨f | ⟨⟩, s'⟩ <;> rw [hplay] at hedit
  · cases h : catches f <;> simpa [h] using hedit
  · exact hedit

/-- What a routine changes, step by step. -/
theorem changed_routine (r : Routine) (s : Scene) :
    Changed s (r.changes s) (r.perform.perform s).2 := by
  induction r generalizing s with
  | answer v => exact .of_same rfl rfl
  | fail kind args => exact .of_same rfl rfl
  | readData next ih => exact ih s.data s
  | readNames next ih => exact ih s.helpers.names s
  | write es next ih =>
      exact (Changed.write es s.world).trans (ih { s with data := s.data.update es })
  | edit e next catches caught ih ihcaught =>
      have hattempt := changed_attempt e catches s
      rw [Routine.perform, Routine.changes, Stateful.perform_bind]
      rcases hplay : (e.attempt catches).perform s with ⟨f | _ | f, s'⟩ <;> rw [hplay] at hattempt
      · exact hattempt
      · exact hattempt.trans (ih s')
      · exact hattempt.trans (ihcaught f s')

/-- A callable that counts in the data how often it was called. -/
example (s : Scene) (n : Int) (h : s.data.get? "n" = some (.int n)) :
    (Routine.readData fun data =>
      match data.get? "n" with
      | some (.int n) => .write [("n", .int (n + 1))] (.answer (.int n))
      | _ => .fail "KeyError" [.text "n"]).changes s = [.write [("n", .int (n + 1))]] := by
  rw [Routine.changes, h]
  rfl

/-- What a view's helper changes, once it was reached. -/
theorem changed_helper {q : Reached} (hq : s.helpers.Reaches q) (nested : Nested) (v : View) :
    Changed s (q.changes s)
      ((callBound nested v.owner q.name q.binding q.args q.keywords).perform s).2 := by
  have hinclude : ∀ shared args keywords,
      Changed s [] ((includeHelper nested v.owner shared args keywords).perform s).2 := by
    intro shared args keywords
    cases args with
    | nil => exact .of_same rfl rfl
    | cons name rest =>
        have hworld : Changed s []
            ((Play.ofAct (nested v.owner shared name keywords)).perform s).2 := .of_same rfl rfl
        exact hworld.andReturn Value.text
  rcases q with ⟨n, ⟨h, calls⟩, args, keywords⟩
  match h, args with
  | .include, args => exact hinclude false args keywords
  | .includeShared, args => exact hinclude true args keywords
  | .count, args =>
      -- The helper is bound anew with another count, so the map is the same.
      have hmap : (s.helpers.bind n ⟨.count, calls + 1⟩).toMap = s.helpers.toMap := by
        have hfound : s.helpers.toMap n = some .count := congrArg _ hq.found
        rw [HelperTable.toMap_bind, Function.update_eq_self_iff, hfound]
      exact ⟨rfl, hmap, fun hd => hd.bind _ _⟩
  | .setData, [x] =>
      exact (changed_setData v.name x none s).andReturn fun _ => Value.null
  | .setData, [x, y] =>
      exact (changed_setData v.name x (some y) s).andReturn fun _ => Value.null
  | .addConst, k :: x :: rest =>
      exact (changed_add (if Config.isSet k then Helper.nameText k else "") (.const x) s).andReturn
        fun _ => Value.null
  | .remove, k :: rest =>
      exact (changed_remove (Helper.nameText k) s).andReturn fun _ => Value.null
  | .join sep, args =>
      refine .of_same ?_ ?_ <;>
        exact congrArg _ (congrArg Prod.snd (Play.perform_ofExcept _ s))
  | .upper, [] | .upper, _ :: _ => exact .of_same rfl rfl
  | .getData, [] => exact .of_same rfl rfl
  | .getData, x :: rest =>
      have hargument : (Play.ofExcept (Helper.argument (x :: rest) 0)).perform s = (.ok x, s) :=
        rfl
      have hread : ((callBound nested v.owner n ⟨.getData, calls⟩ (x :: rest) keywords).perform
          s).2 = s := by
        simp only [callBound, Helper.perform, View.owner]
        rw [Stateful.perform_bind_ok hargument]
        cases Value.keyFault? x <;> rfl
      exact .of_same (congrArg _ hread) (congrArg _ hread)
  | .routine steps, args => exact changed_routine (steps args keywords) s
  | .setData, [] | .setData, _ :: _ :: _ :: _ | .addConst, [] | .addConst, [_] | .remove, []
  | .const _, _ | .echo, _ | .raise _ _, _ | .invoke, _ | .absent, _ | .notCallable, _ =>
      exact .of_same rfl rfl

theorem Play.FailsOn.changed {α : Type} {p : Play α} {f : Fault} (h : p.FailsOn s.helpers f) :
    Changed s [] (p.perform s).2 := by
  rcases h s rfl with ⟨w, -, hw⟩
  rw [hw]
  exact .of_same rfl rfl

/-- A call by name changes what the helper that it comes to changes. -/
theorem changed_call (nested : Nested) (v : View) (className : String) (name : Value)
    (args : List Value) (keywords : List (String × Value)) (s : Scene) :
    Changed s (changesOf? s (s.helpers.reached? name args keywords))
      ((callHelper nested v.owner className name args keywords).perform s).2 := by
  cases h : s.helpers.reached? name args keywords with
  | none =>
      rcases callHelper_unreached v.owner className h with ⟨f, hf⟩
      exact (hf nested).changed
  | some q =>
      rcases callHelper_reached nested v.owner className h with ⟨hcall, hq⟩
      rw [hcall]
      exact changed_helper hq nested v

theorem changed_deed (nested : Nested) (v : View) (d : Script.Deed) (s : Scene) :
    Changed s (d.changes s) (d.done (callHelper nested v.owner) s) := by
  cases d with
  | add n v => exact (changed_add n (.const v) s).andReturn fun _ => Value.null
  | remove n => exact (changed_remove n s).andReturn fun _ => Value.null
  | call route name args keywords =>
      rw [Script.Deed.changes, Script.Deed.done]
      cases h : (Script.Deed.call route name args keywords).reached? s.helpers with
      | none =>
          rcases Script.Deed.play_unreached v.owner h with ⟨f, hf⟩
          exact (hf nested).changed
      | some q =>
          rcases Script.Deed.play_reached nested v.owner h with ⟨hcall, hq⟩
          rw [hcall]
          exact changed_helper hq nested v

/-- What the deeds of a script change, one after the other. -/
theorem changed_deeds (nested : Nested) (v : View) (ds : List Script.Deed) (s : Scene) :
    Changed s (Script.deedsChanges (callHelper nested v.owner) ds s)
      (Script.doneAll (callHelper nested v.owner) ds s) := by
  induction ds generalizing s with
  | nil => exact .of_same rfl rfl
  | cons d ds ih => exact (changed_deed nested v d s).trans (ih _)

/-- What a render changes. -/
theorem changed_render (v : View) (data : Bindings) (helpers : List (String × Helper))
    (s : Scene) :
    Changed s (v.renderChanges data helpers s) ((v.render data helpers).perform s).2 := by
  rw [View.render_eq, View.renderChanges, Stateful.perform_bind]
  cases hresolve : v.resolve.perform s.world with
  | mk r w =>
      cases r with
      | error f =>
          rw [stage_unresolved v.engine data helpers hresolve]
          exact .of_same rfl rfl
      | ok resolution =>
          cases hk : resolution.kind with
          | compiled =>
              rcases stage_compiled v.engine data helpers hresolve hk with ⟨r, w', hstage⟩
              rw [hstage]
              simp only [hk]
              cases r <;> exact .write data w'
          | rawScript =>
              rcases stage_rawScript v.engine data helpers hresolve hk with ⟨r, w', -, hstage, -⟩
              rw [hstage]
              simp only [hk]
              have hmerged : Changed s [.write data, .overlay helpers]
                  ⟨s.data.update data, (s.helpers.overlay helpers).1, w'⟩ :=
                (Changed.write data w').trans (.overlay helpers w')
              cases r with
              | error f => exact hmerged
              | ok p =>
                  -- The script starts with the helpers merged, and does its deeds.
                  refine hmerged.trans ?_
                  let b : Staged := ⟨resolution.path, p,
                    ⟨s.data.update data, (s.helpers.overlay helpers).1, w'⟩⟩
                  rcases b.play_scene (callHelper nestedRender v.owner) with ⟨w'', hplay⟩
                  show Changed _ _ ((b.play (callHelper nestedRender v.owner)).perform b.scene).2
                  rw [hplay]
                  exact (changed_deeds nestedRender v _ b.scene).world w''

/-- What a step of a view changes. -/
theorem changed_step (v : View) (st : ViewStep) (s : Scene) :
    Changed s (st.changes v s) ((Session.viewStep v st).perform s).2 := by
  cases st with
  | set data value => exact (changed_setData v.name data value s).andReturn fun _ => Result.none
  | setAll data => exact (changed_setAllOf data s).andReturn fun _ => Result.none
  | setOne key value => exact .write [(key, value)] s.world
  | setHelper n h => exact (changed_add n h s).andReturn fun _ => Result.none
  | removeHelper n => exact (changed_remove n s).andReturn fun _ => Result.none
  | invoke n args keywords =>
      exact (changed_call nestedRender v "TemplateView" (.text n) args keywords s).andReturn
        Result.value
  | call n args keywords =>
      refine Changed.andReturn ?_ Result.value
      rw [callByProxy, callByProxyOf, ViewStep.changes,
        Stateful.perform_bind_ok (Stateful.perform_get s)]
      cases Registry.proxyHas s.helpers n with
      | true => exact changed_deed nestedRender v (.call .proxy n args keywords) s
      | false => exact .of_same rfl rfl
  | render data helpers =>
      exact (changed_render v data helpers s).andReturn fun text => Result.value (.text text)
  | resolve =>
      have hresolve : Changed s [] ((Play.ofAct v.resolve).perform s).2 := .of_same rfl rfl
      exact hresolve.andReturn Result.resolution
  | name | shown | config => exact .of_same rfl rfl

theorem changed_operation (v : View) (o : Operation) (s : Scene) :
    Changed s (o.changes v s) (o.done v s) := by
  cases o with
  | step st => exact changed_step v st s
  | elsewhere f => exact .of_same rfl rfl
  | merge helpers =>
      rcases Registry.mergeDefaults_perform helpers s with ⟨w, -, hmerge⟩
      have hoverlay : Changed s [.overlay helpers]
          ((Registry.mergeDefaults helpers).perform s).2 := by
        rw [hmerge]
        exact .overlay helpers w
      exact hoverlay.andReturn fun _ => Result.none

/-- What a run of operations changes, one after the other. -/
theorem changed_run (v : View) (ops : List Operation) (s : Scene) :
    Changed s (v.changes ops s) (v.after ops s) := by
  induction ops generalizing s with
  | nil => exact .of_same rfl rfl
  | cons o ops ih => exact (changed_operation v o s).trans (ih _)

end Stencil
