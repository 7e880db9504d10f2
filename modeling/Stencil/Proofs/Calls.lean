import Stencil.Proofs.Deeds
import Stencil.Proofs.Dispatch
import Stencil.Proofs.Logging

/-!
# What calls by name come to

A call by name looks for a helper, and the helper may pass it on to another one, which is
looked for by the first argument. In the end some helper is reached that does not pass the
call on, or none is and the call fails. Which it is depends on the helpers and on the
arguments only. So it can be said in advance, by a computation on the table of helpers.

Helpers act on the data and the helpers of their scene, and most of them do so without a
look at the world. Those that render other templates do look at it, but they take nothing
from it except the answer of the other render, and leave the data and the helpers alone.

## Main definitions

* `Scene.Same`: Two scenes with the same data and helpers.
* `Reached`, `HelperTable.reached?`: The helper that a call by name comes to.
* `Asked`, `Reached.asked?`: The render that a call asks for.
* `SameOutcome`: The same result, data and helpers.
* `Play.Blind`: An action that does not look at the world.

## Theorems

* `callHelper_reached`: A call by name is the call of the helper that it comes to.
* `callHelper_unreached`: If it comes to none, it fails and changes nothing.
* `Routine.perform_blind`, `Helper.perform_blind`: Routines and helpers of their own do not look
  at the world.
* `callBound_asked`: A helper that asks for a render gives the text that it is answered with.
* `callBound_blind`: One that asks for none does not look at the world.
-/

namespace Stencil

/-- Two scenes have the same data and helpers. Their worlds may differ. -/
structure Scene.Same (s s' : Scene) : Prop where
  data : s.data = s'.data
  helpers : s.helpers = s'.helpers

/-- The helper that a call came to, and the arguments that were left for it. -/
structure Reached where
  name : String
  binding : HelperBinding
  args : List Value
  keywords : List (String × Value)

namespace HelperTable

/-- What can be called by a name. -/
def bound? (t : HelperTable) (name : Value) : Option (String × HelperBinding) :=
  match Value.keyFault? name with
  | some _ => none
  | none =>
    match name.text?.bind fun n => (t.find? n).map (n, ·) with
    | none => none
    | some (n, b) =>
      match b.helper with
      | .absent => none
      | _ => some (n, b)

/-- The helper that a call comes to when it has found one, which may pass it on. -/
def reachedFrom (t : HelperTable) :
    List Value → String → HelperBinding → List (String × Value) → Option Reached
  | [], n, b, keywords =>
    match b.helper with
    | .invoke => none
    | _ => some ⟨n, b, [], keywords⟩
  | next :: rest, n, b, keywords =>
    match b.helper with
    | .invoke => (t.bound? next).bind fun e => reachedFrom t rest e.1 e.2 []
    | _ => some ⟨n, b, next :: rest, keywords⟩

/-- The helper that a call by name comes to. -/
def reached? (t : HelperTable) (name : Value) (args : List Value)
    (keywords : List (String × Value)) : Option Reached :=
  if RepeatsParameter keywords then none
  else (t.bound? name).bind fun e => reachedFrom t args e.1 e.2 keywords

/-- What is reached is bound to its name, is there, and does not pass calls on. -/
structure Reaches (t : HelperTable) (q : Reached) : Prop where
  found : t.find? q.name = some q.binding
  present : q.binding.helper ≠ .absent
  last : q.binding.helper ≠ .invoke

end HelperTable

/-- An action fails wherever there are certain helpers, and only logs. -/
def Play.FailsOn {α : Type} (p : Play α) (t : HelperTable) (f : Fault) : Prop :=
  ∀ s : Scene, s.helpers = t →
    ∃ w, s.world.Logged w ∧ p.perform s = (.error f, { s with world := w })

variable {t : HelperTable} {s s' : Scene} {name : Value} {n : String} {b : HelperBinding}
  {args : List Value} {keywords : List (String × Value)} {q : Reached}

/-- What can be called by a name is bound to it and is there. -/
theorem HelperTable.of_bound? (h : t.bound? name = some (n, b)) :
    Value.keyFault? name = none ∧ name.text? = some n ∧ t.find? n = some b ∧
      b.helper ≠ .absent := by
  rw [bound?] at h
  split at h
  · cases h
  · rename_i hkey
    split at h
    · cases h
    · rename_i n' b' hfind
      rcases Option.bind_eq_some_iff.mp hfind with ⟨m, hm, hmap⟩
      rcases Option.map_eq_some_iff.mp hmap with ⟨b'', hb, he⟩
      obtain ⟨rfl, rfl⟩ := Prod.mk.inj he
      split at h
      · cases h
      · rename_i hpresent
        obtain ⟨rfl, rfl⟩ := Prod.mk.inj (Option.some.inj h)
        exact ⟨hkey, hm, hb, hpresent⟩

/-- What cannot be called by a name that can be one is not bound to it, or is absent. -/
theorem HelperTable.of_bound?_none (h : t.bound? name = none)
    (hkey : Value.keyFault? name = none) :
    (name.text?.bind fun n => (t.find? n).map (n, ·)) = none ∨
      ∃ n b, (name.text?.bind fun n => (t.find? n).map (n, ·)) = some (n, b) ∧
        b.helper = .absent := by
  rw [bound?, hkey] at h
  simp only at h
  split at h
  · rename_i hfind
    exact .inl hfind
  · rename_i n b hfind
    split at h
    · rename_i habsent
      exact .inr ⟨n, b, hfind, habsent⟩
    · cases h

theorem boundHelper_bound (h : s.helpers.bound? name = some (n, b)) :
    (boundHelper name).perform s = (.ok (n, b), s) := by
  rcases HelperTable.of_bound? h with ⟨hkey, htext, hb, hp⟩
  simp only [boundHelper, hkey]
  rw [Stateful.perform_bind_ok (Stateful.perform_get s)]
  simp only [htext, Option.bind_some, hb, Option.map_some]
  cases hh : b.helper with
  | absent => exact absurd hh hp
  | _ => rfl

theorem boundHelper_unbound (h : t.bound? name = none) :
    ∃ f, (boundHelper name).FailsOn t f := by
  cases hkey : Value.keyFault? name with
  | some f =>
      refine ⟨f, fun s _ => ⟨s.world, .refl _, ?_⟩⟩
      simp only [boundHelper, hkey]
      rfl
  | none =>
      have hunknown : ∀ s : Scene, ∃ w, s.world.Logged w ∧
          (unknownHelper name : Play (String × HelperBinding)).perform s =
            (.error (.unknownHelper (Helper.nameText name)), { s with world := w }) :=
        fun s => ⟨_, ⟨[_], rfl⟩, rfl⟩
      refine ⟨.unknownHelper (Helper.nameText name), fun s hs => ?_⟩
      subst hs
      simp only [boundHelper, hkey]
      rw [Stateful.perform_bind_ok (Stateful.perform_get s)]
      -- An absent helper is refused like one that is not there.
      rcases HelperTable.of_bound?_none h hkey with hfind | ⟨n, b, hfind, habsent⟩
      · simp only [hfind]
        exact hunknown s
      · simp only [hfind, habsent]
        exact hunknown s

section

variable (t) (args) (keywords) (nested : Nested) (owner : Owner) {next : Value}
  {rest : List Value}

theorem HelperTable.reachedFrom_last (hlast : b.helper ≠ .invoke) :
    t.reachedFrom args n b keywords = some ⟨n, b, args, keywords⟩ := by
  cases args with
  | nil | cons next rest =>
      rw [reachedFrom]
      split
      · rename_i hinvoke
        exact absurd hinvoke hlast
      · rfl

theorem HelperTable.reachedFrom_invoke (hinvoke : b.helper = .invoke) :
    t.reachedFrom (next :: rest) n b keywords =
      (t.bound? next).bind fun e => t.reachedFrom rest e.1 e.2 [] := by
  rw [reachedFrom]
  simp only [hinvoke]

theorem applyHelper_last (hlast : b.helper ≠ .invoke) :
    applyHelper nested owner args n b keywords = callBound nested owner n b args keywords := by
  cases args with
  | nil | cons next rest =>
      rw [applyHelper]
      split
      · rename_i hinvoke
        exact absurd hinvoke hlast
      · rfl

theorem applyHelper_invoke (hinvoke : b.helper = .invoke) :
    applyHelper nested owner (next :: rest) n b keywords =
      boundHelper next >>= fun e => applyHelper nested owner rest e.1 e.2 [] := by
  rw [applyHelper]
  simp only [hinvoke]

end

variable {nested : Nested} {owner : Owner}

theorem applyHelper_reached (hb : s.helpers.find? n = some b) (hp : b.helper ≠ .absent)
    (h : s.helpers.reachedFrom args n b keywords = some q) :
    (applyHelper nested owner args n b keywords).perform s =
      (callBound nested owner q.name q.binding q.args q.keywords).perform s ∧
    s.helpers.Reaches q := by
  induction args generalizing n b keywords with
  | nil =>
      by_cases hinvoke : b.helper = .invoke
      · rw [HelperTable.reachedFrom, hinvoke] at h
        cases h
      · rw [HelperTable.reachedFrom_last _ _ _ hinvoke] at h
        cases h
        rw [applyHelper_last _ _ _ _ hinvoke]
        exact ⟨rfl, hb, hp, hinvoke⟩
  | cons next rest ih =>
      by_cases hinvoke : b.helper = .invoke
      · -- The call is passed on, and what is reached is reached from there.
        rw [HelperTable.reachedFrom_invoke _ _ hinvoke] at h
        rcases Option.bind_eq_some_iff.mp h with ⟨⟨m, b'⟩, hbound, h⟩
        rcases HelperTable.of_bound? hbound with ⟨-, -, hb', hp'⟩
        rw [applyHelper_invoke _ _ _ hinvoke,
          Stateful.perform_bind_ok (boundHelper_bound hbound)]
        exact ih hb' hp' h
      · rw [HelperTable.reachedFrom_last _ _ _ hinvoke] at h
        cases h
        rw [applyHelper_last _ _ _ _ hinvoke]
        exact ⟨rfl, hb, hp, hinvoke⟩

theorem applyHelper_unreached (owner : Owner) (h : t.reachedFrom args n b keywords = none) :
    ∃ f, ∀ nested, (applyHelper nested owner args n b keywords).FailsOn t f := by
  induction args generalizing n b keywords with
  | nil =>
      by_cases hinvoke : b.helper = .invoke
      · refine ⟨.misuse (.arguments (owner.className ++
          ".invoke() missing 1 required positional argument: 'name'")),
          fun nested s _ => ⟨s.world, .refl _, ?_⟩⟩
        rw [applyHelper]
        simp only [hinvoke]
        rfl
      · rw [HelperTable.reachedFrom_last _ _ _ hinvoke] at h
        cases h
  | cons next rest ih =>
      by_cases hinvoke : b.helper = .invoke
      · rw [HelperTable.reachedFrom_invoke _ _ hinvoke] at h
        -- Either nothing is found to pass the call on to, or the call fails from there.
        cases hbound : t.bound? next with
        | none =>
            rcases boundHelper_unbound hbound with ⟨f, hf⟩
            refine ⟨f, fun nested s hs => ?_⟩
            rcases hf s hs with ⟨w, hlog, hw⟩
            exact ⟨w, hlog, by
              rw [applyHelper_invoke _ _ _ hinvoke, Stateful.perform_bind_error hw]⟩
        | some e =>
            rw [hbound] at h
            rcases ih h with ⟨f, hf⟩
            refine ⟨f, fun nested s hs => ?_⟩
            rcases hf nested s hs with ⟨w, hlog, hw⟩
            refine ⟨w, hlog, ?_⟩
            rw [applyHelper_invoke _ _ _ hinvoke,
              Stateful.perform_bind_ok (boundHelper_bound (hs ▸ hbound))]
            exact hw
      · rw [HelperTable.reachedFrom_last _ _ _ hinvoke] at h
        cases h

/-- A call by name is the call of the helper that it comes to. -/
theorem callHelper_reached (nested : Nested) (owner : Owner) (className : String)
    (h : s.helpers.reached? name args keywords = some q) :
    (callHelper nested owner className name args keywords).perform s =
      (callBound nested owner q.name q.binding q.args q.keywords).perform s ∧
    s.helpers.Reaches q := by
  rw [HelperTable.reached?] at h
  split at h
  · cases h
  · rename_i hk
    rcases Option.bind_eq_some_iff.mp h with ⟨⟨n, b⟩, hbound, h⟩
    rcases HelperTable.of_bound? hbound with ⟨-, -, hb, hp⟩
    rw [callHelper, callNamed, find?_reserved_eq_none hk]
    simp only
    rw [Stateful.perform_bind_ok (boundHelper_bound hbound)]
    exact applyHelper_reached hb hp h

/-- A call by name that comes to no helper fails, and only logs. -/
theorem callHelper_unreached (owner : Owner) (className : String)
    (h : t.reached? name args keywords = none) :
    ∃ f, ∀ nested, (callHelper nested owner className name args keywords).FailsOn t f := by
  rw [HelperTable.reached?] at h
  split at h
  · rename_i hk
    -- The keyword that is found first is the one that the fault names.
    cases hfind : keywords.find? fun k => reservedKeywords.contains k.1 with
    | none =>
        rcases hk with ⟨k, hmem, hres⟩
        exact absurd (List.contains_iff_mem.mpr hres) (List.find?_eq_none.mp hfind k hmem)
    | some k =>
        refine ⟨.misuse (.arguments (className ++
          ".invoke() got multiple values for argument " ++ Text.quoted k.1)),
          fun nested s _ => ⟨s.world, .refl _, ?_⟩⟩
        rw [callHelper, callNamed, hfind]
        rfl
  · rename_i hk
    have hcall : ∀ nested, callHelper nested owner className name args keywords =
        boundHelper name >>= fun e => applyHelper nested owner args e.1 e.2 keywords := by
      intro nested
      rw [callHelper, callNamed, find?_reserved_eq_none hk]
      rfl
    cases hbound : t.bound? name with
    | none =>
        rcases boundHelper_unbound hbound with ⟨f, hf⟩
        refine ⟨f, fun nested s hs => ?_⟩
        rcases hf s hs with ⟨w, hlog, hw⟩
        exact ⟨w, hlog, by rw [hcall, Stateful.perform_bind_error hw]⟩
    | some e =>
        rw [hbound] at h
        rcases applyHelper_unreached owner h with ⟨f, hf⟩
        refine ⟨f, fun nested s hs => ?_⟩
        rcases hf nested s hs with ⟨w, hlog, hw⟩
        refine ⟨w, hlog, ?_⟩
        rw [hcall, Stateful.perform_bind_ok (boundHelper_bound (hs ▸ hbound))]
        exact hw

/-- The helper that a deed of a script comes to. What the call proxy itself has is no helper. -/
def Script.Deed.reached? (t : HelperTable) : Script.Deed → Option Reached
  | .call .invoke name args keywords => t.reached? (.text name) args keywords
  | .call _ name args keywords =>
    if Registry.proxyOwn.contains name then none else t.reached? (.text name) args keywords
  | .add _ _ | .remove _ => none

/-- A call in a script is the call of the helper that it comes to. -/
theorem Script.Deed.play_reached (nested : Nested) (owner : Owner) {d : Script.Deed}
    (h : d.reached? s.helpers = some q) :
    (d.play (callHelper nested owner)).perform s =
      (callBound nested owner q.name q.binding q.args q.keywords).perform s ∧
    s.helpers.Reaches q := by
  cases d with
  | add name v => cases h
  | remove name => cases h
  | call route name args keywords =>
      cases route with
      | invoke => exact callHelper_reached nested owner "ScriptContext" h
      | proxy | contextProxy =>
          simp only [reached?] at h
          simp only [play, callProxy]
          split at h
          · cases h
          · rename_i hown
            rw [if_neg hown]
            exact callHelper_reached nested owner "HelperRegistry" h

/-- A call in a script that comes to no helper fails, and only logs. -/
theorem Script.Deed.play_unreached (owner : Owner) {route : Script.Route} {name : String}
    (h : (Script.Deed.call route name args keywords).reached? t = none) :
    ∃ f, ∀ nested,
      ((Script.Deed.call route name args keywords).play (callHelper nested owner)).FailsOn t f := by
  cases route with
  | invoke => exact callHelper_unreached owner "ScriptContext" h
  | proxy | contextProxy =>
      simp only [reached?] at h
      simp only [play, callProxy]
      split at h
      · rename_i hown
        simp only [if_pos hown]
        exact ⟨_, fun nested s _ => ⟨s.world, .refl _, rfl⟩⟩
      · rename_i hown
        simp only [if_neg hown]
        exact callHelper_unreached owner "HelperRegistry" h

/-- Two actions end with the same result, data and helpers. Their worlds may differ. -/
structure SameOutcome {α : Type} (r r' : Except Fault α × Scene) : Prop where
  result : r.1 = r'.1
  scene : r.2.Same r'.2

/-- An action does the same in scenes that are the same, and only logs. It does not look at
    the world. -/
structure Play.Blind {α : Type} (p : Play α) : Prop where
  same : ∀ s s' : Scene, s.Same s' → SameOutcome (p.perform s) (p.perform s')
  logs : ∀ s : Scene, s.world.Logged (p.perform s).2.world

namespace Play.Blind

variable {α β : Type}

theorem pure (x : α) : Blind (Pure.pure x : Play α) :=
  ⟨fun _ _ h => ⟨rfl, h⟩, fun _ => .refl _⟩

theorem throw (f : Fault) : Blind (MonadExcept.throw f : Play α) :=
  ⟨fun _ _ h => ⟨rfl, h⟩, fun _ => .refl _⟩

theorem ofExcept (x : Except Fault α) : Blind (Play.ofExcept x) := by
  cases x with
  | error f => exact throw f
  | ok x => exact pure x

theorem log (level : Level) (source name : String) (fields : Bindings) :
    Blind (Play.log level source name fields) :=
  ⟨fun _ _ h => ⟨rfl, h.data, h.helpers⟩, fun _ => ⟨[_], rfl⟩⟩

/-- Changing the data and helpers is not looking at the world. -/
theorem modify {g : Scene → Scene} (h : ∀ s s' : Scene, s.Same s' → (g s).Same (g s'))
    (hworld : ∀ s, (g s).world = s.world) : Blind (modify g) :=
  ⟨fun s s' hs => ⟨rfl, h s s' hs⟩, fun s => ⟨[], hworld s⟩⟩

theorem bind {p : Play α} {f : α → Play β} (hp : Blind p) (hf : ∀ x, Blind (f x)) :
    Blind (p >>= f) := by
  refine ⟨fun s s' h => ?_, fun s => ?_⟩
  · have hpart := hp.same s s' h
    rw [Stateful.perform_bind, Stateful.perform_bind]
    rcases hr : p.perform s with ⟨r, s₁⟩
    rcases hr' : p.perform s' with ⟨r', s₁'⟩
    rw [hr, hr'] at hpart
    rcases hpart with ⟨rfl, hnext⟩
    cases r with
    | error e => exact ⟨rfl, hnext⟩
    | ok x => exact (hf x).same s₁ s₁' hnext
  · have hpart := hp.logs s
    rw [Stateful.perform_bind]
    rcases hr : p.perform s with ⟨e | x, s₁⟩
    · rwa [hr] at hpart
    · rw [hr] at hpart
      exact hpart.trans ((hf x).logs s₁)

/-- Nor is handling a fault. -/
theorem tryCatch {p : Play α} {handler : Fault → Play α} (hp : Blind p)
    (hhandler : ∀ f, Blind (handler f)) : Blind (MonadExcept.tryCatch p handler) := by
  refine ⟨fun s s' h => ?_, fun s => ?_⟩
  · have hpart := hp.same s s' h
    rw [Stateful.perform_tryCatch, Stateful.perform_tryCatch]
    rcases hr : p.perform s with ⟨r, s₁⟩
    rcases hr' : p.perform s' with ⟨r', s₁'⟩
    rw [hr, hr'] at hpart
    rcases hpart with ⟨rfl, hnext⟩
    cases r with
    | error f => exact (hhandler f).same s₁ s₁' hnext
    | ok x => exact ⟨rfl, hnext⟩
  · have hpart := hp.logs s
    rw [Stateful.perform_tryCatch]
    rcases hr : p.perform s with ⟨f | x, s₁⟩
    · rw [hr] at hpart
      exact hpart.trans ((hhandler f).logs s₁)
    · rwa [hr] at hpart

/-- Nor is looking at them. -/
theorem get {k : Scene → Play α} (h : ∀ s s' : Scene, s.Same s' → k s = k s')
    (hk : ∀ s, Blind (k s)) : Blind (MonadState.get >>= k) := by
  refine ⟨fun s s' hs => ?_, fun s => (hk s).logs s⟩
  rw [Stateful.perform_bind_ok (Stateful.perform_get s),
    Stateful.perform_bind_ok (Stateful.perform_get s'), h s s' hs]
  exact (hk s').same s s' hs

end Play.Blind

open Play (Blind)

theorem Registry.add_blind (name : String) (h : Helper) : Blind (Registry.add name h) := by
  unfold Registry.add
  have hbind : Blind (do
      modify fun s : Scene => { s with helpers := s.helpers.bind name ⟨h, 0⟩ }
      Play.log .debug source "helper_registered" [("helper", .text name)]) :=
    .bind (.modify (fun s s' hs => ⟨hs.data, by rw [hs.helpers]⟩) fun _ => rfl)
      fun _ => .log _ _ _ _
  split
  · exact .bind (.throw _) fun _ => .get (fun s s' hs => by rw [hs.helpers]) fun s => by
      split
      · exact .bind (.log _ _ _ _) fun _ => .bind (.throw _) fun _ => hbind
      · exact hbind
  · refine .get (fun s s' hs => by rw [hs.helpers]) fun s => ?_
    split
    · exact .bind (.log _ _ _ _) fun _ => .bind (.throw _) fun _ => hbind
    · exact hbind

theorem Registry.remove_blind (name : String) : Blind (Registry.remove name) := by
  unfold Registry.remove
  refine .get (fun s s' hs => by rw [hs.helpers]) fun s => ?_
  split
  · exact .bind (.modify (fun s s' hs => ⟨hs.data, by rw [hs.helpers]⟩) fun _ => rfl)
      fun _ => .log _ _ _ _
  · exact .bind (.log _ _ _ _) fun _ => .throw _

theorem View.setData_blind (name data : Value) (value : Option Value) :
    Blind (View.setData name data value) := by
  have hsetAll : ∀ data, Blind (View.setAll data) := fun data =>
    .modify (fun s s' hs => ⟨by rw [hs.data], hs.helpers⟩) fun _ => rfl
  unfold View.setData
  split
  · split
    · exact .bind (.throw _) fun _ => hsetAll _
    · exact hsetAll _
  · split
    · exact .modify (fun s s' hs => ⟨by rw [hs.data], hs.helpers⟩) fun _ => rfl
    · exact .log _ _ _ _

theorem HelperEdit.play_blind (e : HelperEdit) : Blind e.play := by
  cases e with
  | add n v => exact Registry.add_blind n (.const v)
  | remove n => exact Registry.remove_blind n

theorem HelperEdit.attempt_blind (e : HelperEdit) (catches : Fault → Bool) : Blind (e.attempt catches) := by
  refine .tryCatch (.bind e.play_blind fun _ => .pure _) fun f => ?_
  split
  · exact .pure _
  · exact .throw f

/-- No routine looks at the world. -/
theorem Routine.perform_blind (r : Routine) : Blind r.perform := by
  induction r with
  | answer v => exact .pure v
  | fail kind args => exact .throw _
  | readData next ih => exact .get (fun s s' hs => by rw [hs.data]) fun s => ih s.data
  | readNames next ih => exact .get (fun s s' hs => by rw [hs.helpers]) fun s => ih s.helpers.names
  | write es next ih =>
      exact .bind (.modify (fun s s' hs => ⟨by rw [hs.data], hs.helpers⟩) fun _ => rfl) fun _ => ih
  | edit e next catches caught ih ihcaught =>
      rw [Routine.perform]
      refine .bind (e.attempt_blind catches) fun f => ?_
      cases f with
      | none => exact ih
      | some f => exact ihcaught f

/-- A helper that needs no other templates does not look at the world. -/
theorem Helper.perform_blind (owner : Owner) (name : String) (b : HelperBinding)
    (args : List Value) (keywords : List (String × Value)) :
    Blind (Helper.perform owner name b args keywords) := by
  unfold Helper.perform
  split
  · exact .pure _
  · exact .pure _
  · exact .ofExcept _
  · exact .bind (.ofExcept _) fun v => .pure _
  · exact .throw _
  · exact .bind (.modify (fun s s' hs => ⟨hs.data, by rw [hs.helpers]⟩) fun _ => rfl)
      fun _ => .pure _
  · -- Setting data takes a key and a value, or a mapping, and nothing else.
    split
    · exact .throw _
    · split
      · exact .throw _
      · exact .bind (View.setData_blind _ _ _) fun _ => .pure _
      · exact .bind (View.setData_blind _ _ _) fun _ => .pure _
      · exact .throw _
  · split
    · exact .throw _
    · refine .bind (.ofExcept _) fun k => ?_
      split
      · exact .throw _
      · exact .get (fun s s' hs => by rw [hs.data]) fun s => .pure _
  · exact .bind (.ofExcept _) fun n => .bind (.ofExcept _) fun v =>
      .bind (Registry.add_blind _ _) fun _ => .pure _
  · exact .bind (.ofExcept _) fun n => .bind (Registry.remove_blind _) fun _ => .pure _
  · exact .throw _
  · exact Routine.perform_blind _
  all_goals exact .pure _

/-- The render of another template that a helper asks for. -/
structure Asked where
  shared : Bool
  name : Value
  data : Bindings

/-- The render that is asked for by a helper that was reached. -/
def Reached.asked? (q : Reached) : Option Asked :=
  match q.binding.helper with
  | .include => q.args.head?.map fun name => ⟨false, name, q.keywords⟩
  | .includeShared => q.args.head?.map fun name => ⟨true, name, q.keywords⟩
  | _ => none

/-- A helper that asks for a render gives the text that it is answered with. -/
theorem callBound_asked {a : Asked} (h : q.asked? = some a) :
    callBound nested owner q.name q.binding q.args q.keywords = do
      return .text (← Play.ofAct (nested owner a.shared a.name a.data)) := by
  rcases q with ⟨n, ⟨helper, calls⟩, args, keywords⟩
  cases helper with
  | «include» | includeShared =>
      cases args with
      | nil => cases h
      | cons name rest =>
          cases h
          rfl
  | _ => cases h

/-- A helper that asks for none does not look at the world. -/
theorem callBound_blind (h : q.asked? = none) :
    Blind (callBound nested owner q.name q.binding q.args q.keywords) := by
  rcases q with ⟨n, ⟨helper, calls⟩, args, keywords⟩
  cases helper with
  | «include» | includeShared =>
      cases args with
      | nil => exact .throw _
      | cons name rest => cases h
  | _ =>
      unfold callBound
      exact Helper.perform_blind ..

end Stencil
