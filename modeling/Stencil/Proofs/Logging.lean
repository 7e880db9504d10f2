import Stencil.Config.Loader
import Stencil.Resolution

/-!
# What only logs

Some actions look at the world and leave it as it is, except that they say in the log
what they saw. Whoever calls them can go on as if nothing had happened, because nothing
that is decided later depends on the log.

Loading a configuration and finding the owner of a name are of this kind. What finding
the owner gives depends on the files alone, so it is said here as a computation on them.

## Main definitions

* `World.Logged`: A world in which something was logged, and nothing else happened.
* `Quiet`: An action that only logs.
* `Resolution.owner`: The owner of a name among the files.

## Theorems

* `Quiet.bind`: Actions that only log can be put after one another.
* `Config.load_quiet`: Loading a configuration only logs.
* `Resolution.resolve_perform`: Finding the owner of a name gives the owner among the
  files, and only logs.
* `Resolution.owner_compiled_iff`, `Resolution.owner_rawScript_iff`: When a candidate is
  the owner.
-/

namespace Stencil

/-- Something was logged in a world, and nothing else happened there. -/
def World.Logged (w w' : World) : Prop := ∃ es, w' = { w with events := es ++ w.events }

theorem World.Logged.refl (w : World) : w.Logged w := ⟨[], rfl⟩

theorem World.Logged.trans {w w' w'' : World} (h : w.Logged w') (h' : w'.Logged w'') :
    w.Logged w'' := by
  rcases h with ⟨es, rfl⟩
  rcases h' with ⟨es', rfl⟩
  exact ⟨es' ++ es, by rw [List.append_assoc]⟩

/-- An action that leaves the world as it is except for the log. -/
def Quiet {α : Type} (a : Act α) : Prop :=
  ∀ w, ∃ es, (a.perform w).2 = { w with events := es ++ w.events }

namespace Quiet

variable {α β : Type}

theorem pure (y : α) : Quiet (Pure.pure y : Act α) := fun _ => ⟨[], rfl⟩

theorem throw (f : Fault) : Quiet (MonadExcept.throw f : Act α) := fun _ => ⟨[], rfl⟩

theorem get : Quiet (MonadState.get : Act World) := fun _ => ⟨[], rfl⟩

theorem ofExcept (r : Except Fault α) : Quiet (Act.ofExcept r) := fun w =>
  ⟨[], congrArg Prod.snd (Act.perform_ofExcept r w)⟩

theorem log (level : Level) (source name : String) (fields : Bindings) :
    Quiet (Act.log level source name fields) := fun _ => ⟨[_], rfl⟩

theorem bind {a : Act α} {f : α → Act β} (ha : Quiet a) (hf : ∀ y, Quiet (f y)) :
    Quiet (a >>= f) := by
  intro w
  rcases ha w with ⟨es, hes⟩
  rw [Stateful.perform_bind]
  cases h : a.perform w with
  | mk r w' =>
      rw [h] at hes
      obtain rfl : w' = { w with events := es ++ w.events } := hes
      cases r with
      | error e => exact ⟨es, rfl⟩
      | ok y =>
          -- What is logged later comes in front.
          rcases hf y { w with events := es ++ w.events } with ⟨es', hes'⟩
          refine ⟨es' ++ es, ?_⟩
          show ((f y).perform _).2 = _
          rw [hes', List.append_assoc]

/-- An action that only logs leaves the files alone. -/
theorem files {a : Act α} (ha : Quiet a) {r : Except Fault α} {w w' : World}
    (h : a.perform w = (r, w')) : w'.files = w.files := by
  rcases ha w with ⟨es, hes⟩
  rw [h] at hes
  rw [show w' = _ from hes]

end Quiet

namespace Config

open Loader

theorem readSettings_quiet (file : Path) (shown : String) : Quiet (readSettings file shown) := by
  unfold readSettings
  refine .bind .get fun w => .bind (.ofExcept _) fun b => ?_
  split
  · refine .bind (.log _ _ _ _) fun _ => ?_
    -- A file that cannot be read or understood is logged and fails.
    split
    · exact .ofExcept _
    · split
      · exact .bind (.log _ _ _ _) fun _ => .throw _
      · exact .throw _
  · exact .pure _

theorem projectSettings_quiet (base : Path) (shownBase : String) (names : List String) :
    Quiet (projectSettings base shownBase names) := by
  induction names with
  | nil => exact .pure _
  | cons name names ih =>
      rw [projectSettings]
      refine .bind .get fun w => .bind (.ofExcept _) fun b => ?_
      split
      · refine .bind (readSettings_quiet _ _) fun v => ?_
        split
        · refine .bind (.log _ _ _ _) fun _ => ?_
          split
          · exact .pure _
          · exact .throw _
          · exact .throw _
        · exact ih
      · exact ih

theorem userSettings_quiet : Quiet userSettings := by
  unfold userSettings
  refine .bind .get fun w => .bind (.ofExcept _) fun b => ?_
  split
  · refine .bind (.log _ _ _ _) fun _ => .bind (readSettings_quiet _ _) fun v => ?_
    split
    · exact .pure _
    · exact .pure _
  · exact .pure _

theorem readAll_quiet (searchDir : Option Path) : Quiet (readAll searchDir) := by
  unfold readAll
  refine .bind userSettings_quiet fun user => .bind .get fun w => ?_
  refine .bind (projectSettings_quiet _ _ _) fun project => ?_
  simp only
  split
  · exact .bind (.log _ _ _ _) fun _ => .pure _
  · exact .pure _

theorem warnUnknown_quiet (origin : String) (raw : Bindings) : Quiet (warnUnknown origin raw) := by
  induction raw with
  | nil => exact .pure _
  | cons e raw ih =>
      rw [warnUnknown]
      simp only
      split
      · exact .bind (.log _ _ _ _) fun _ => ih
      · exact ih

theorem chosenSettings_quiet (raw : Bindings) (profile : Option String) :
    Quiet (chosenSettings raw profile) := by
  unfold chosenSettings
  simp only
  split
  · exact .pure _
  · exact .pure _
  · refine .bind (.ofExcept _) fun v => ?_
    split
    · refine .bind (.log _ _ _ _) fun _ => .bind (warnUnknown_quiet _ _) fun _ => ?_
      exact .pure _
    · exact .bind (.log _ _ _ _) fun _ => .pure _

/-- Loading a configuration only logs. -/
theorem load_quiet (profile : Option String) (overrides : Bindings) (searchDir : Option Path) :
    Quiet (load profile overrides searchDir) := by
  unfold load
  refine .bind (readAll_quiet _) fun raw => .bind (warnUnknown_quiet _ _) fun _ => ?_
  refine .bind (chosenSettings_quiet _ _) fun chosen => ?_
  -- What becomes of the settings is a computation, which is logged or fails.
  simp only
  split
  · exact .bind (.log _ _ _ _) fun _ => .pure _
  · exact .throw _
  · exact .throw _
  · exact .throw _

end Config

namespace Resolution

variable {files : Files} {root p : Path} {name : Value} {ext : Extensions}

/-- The owner of a name among the files. If neither candidate is a file the script is
    said to be missing. -/
def owner (files : Files) (root : Path) (name : Value) (ext : Extensions) :
    Except Fault Resolution :=
  match candidates root name ext with
  | .error f => .error f
  | .ok cs =>
    match owner? files cs with
    | .error f => .error f
    | .ok (some r) => .ok r
    | .ok none => .error (.templateMissing cs.2.path.text none)

/-- Finding the owner of a name gives the owner among the files, and only logs. -/
theorem resolve_perform (root : Path) (name : Value) (ext : Extensions) (w : World) :
    ∃ es, (resolve root name ext).perform w =
      (owner w.files root name ext, { w with events := es ++ w.events }) := by
  rw [resolve, owner]
  cases candidates root name ext with
  | error f => exact ⟨[], rfl⟩
  | ok cs =>
      rw [Stateful.perform_bind_ok (Act.perform_ofExcept _ w),
        Stateful.perform_bind_ok (Stateful.perform_get w), Stateful.perform_bind,
        Act.perform_ofExcept]
      simp only
      rcases owner? w.files cs with f | - | r
      · exact ⟨[], rfl⟩
      · exact ⟨[_], rfl⟩
      · exact ⟨[_], rfl⟩

theorem resolve_result (root : Path) (name : Value) (ext : Extensions) (w : World) :
    ((resolve root name ext).perform w).1 = owner w.files root name ext := by
  rcases resolve_perform root name ext w with ⟨es, hes⟩
  exact congrArg Prod.fst hes

/-- The first of two candidates that is a file. -/
theorem owner?_eq_some_iff {cs : Resolution × Resolution} {r : Resolution} :
    owner? files cs = .ok (some r) ↔ files.isFile cs.1.path = .ok true ∧ r = cs.1 ∨
      files.isFile cs.1.path = .ok false ∧ files.isFile cs.2.path = .ok true ∧ r = cs.2 := by
  simp only [owner?, bind, Except.bind, pure, Except.pure]
  -- The second candidate is only asked for if the first is no file.
  rcases files.isFile cs.1.path with f | (- | -)
  · simp
  · rcases files.isFile cs.2.path with f | (- | -)
    · simp
    · simp
    · simp [eq_comm]
  · simp [eq_comm]

theorem owner_eq_ok_iff {r : Resolution} : owner files root name ext = .ok r ↔
    ∃ cs, candidates root name ext = .ok cs ∧ owner? files cs = .ok (some r) := by
  rw [owner]
  cases candidates root name ext with
  | error f => simp
  | ok cs => rcases h : owner? files cs with f | r | r <;> simp [h]

/-- The compiled candidate owns a name if it is a file. -/
theorem owner_compiled_iff : owner files root name ext = .ok ⟨.compiled, p⟩ ↔
    ∃ q, candidates root name ext = .ok (⟨.compiled, p⟩, ⟨.rawScript, q⟩) ∧
      files.isFile p = .ok true := by
  rw [owner_eq_ok_iff]
  constructor
  · rintro ⟨⟨⟨k, a⟩, ⟨l, b⟩⟩, hcs, howner⟩
    obtain ⟨rfl, rfl⟩ := candidates_kinds hcs
    rcases owner?_eq_some_iff.mp howner with ⟨hfile, h⟩ | ⟨-, -, h⟩
    · cases h
      exact ⟨b, hcs, hfile⟩
    · cases h
  · rintro ⟨q, hcs, hfile⟩
    exact ⟨_, hcs, owner?_eq_some_iff.mpr (Or.inl ⟨hfile, rfl⟩)⟩

/-- The script owns a name if it is a file and the compiled candidate is none. -/
theorem owner_rawScript_iff : owner files root name ext = .ok ⟨.rawScript, p⟩ ↔
    ∃ q, candidates root name ext = .ok (⟨.compiled, q⟩, ⟨.rawScript, p⟩) ∧
      files.isFile q = .ok false ∧ files.isFile p = .ok true := by
  rw [owner_eq_ok_iff]
  constructor
  · rintro ⟨⟨⟨k, a⟩, ⟨l, b⟩⟩, hcs, howner⟩
    obtain ⟨rfl, rfl⟩ := candidates_kinds hcs
    rcases owner?_eq_some_iff.mp howner with ⟨-, h⟩ | ⟨hnone, hfile, h⟩
    · cases h
    · cases h
      exact ⟨a, hcs, hnone, hfile⟩
  · rintro ⟨q, hcs, hnone, hfile⟩
    exact ⟨_, hcs, owner?_eq_some_iff.mpr (Or.inr ⟨hnone, hfile, rfl⟩)⟩

end Resolution

end Stencil
