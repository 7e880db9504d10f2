import Stencil.Proofs.Dating

/-!
# Views that share an engine

Views work on one engine, each with its own data and helpers, while files are written and
deleted and the engine is cleared. What the engine has in memory is changed by all of them.
Still a view cannot tell whether the others are there: what its steps answer, and the data
and helpers that it has after each of them, are the same if only this view takes its steps
and the engine is never cleared.

This rests on the times of files. A file that is written gets a time that it never had
before, so the times of all the trees that there were tell their contents, and the memory of
the engine is right whatever came into it. One turn after the other the run with all the
views and the run with one of them are kept alongside: the files are the same, the engine is
dated in both, and so is the view.

## Main definitions

* `Studio`, `Turn`: Views on an engine, and what can happen there.
* `Studio.seen`: What a view answers and has, step by step.
* `Studio.Renews`: Files that are written get times that they never had.
* `Alongside`: Two runs at the same point, as far as one view is concerned.

## Theorems

* `Kept.turn`, `Kept.run`: What happens keeps the engine dated.
* `Alongside.both`, `Alongside.skip`: Turns that both runs take, and turns of others.
* `Alongside.seen`: The view sees the same in both.
* `Studio.seen_alone`: A view sees what it would see alone.
* `not_seen_alone_beside`: Not if engines of another kind filled the directory.
-/

namespace Stencil

open Engine (Dated InStep Telling Abreast Had Happening)
open Files (Agree Tidy place)

/-- An engine, and views that work on it. -/
structure Studio (ι : Type) where
  world : World
  engine : EngineId
  views : ι → View

/-- What can happen in a studio: a view takes a step, a file is written with a modification
time or deleted, and the engine is cleared. -/
inductive Turn (ι : Type) where
  | step (i : ι) (st : ViewStep)
  | write (path : Path) (content : Engine.Written) (modified : Nat)
  | delete (path : Path)
  | clear

/-- What a step of a view answers, and what the view has after it. -/
structure Sight where
  answer : Except Fault Result
  data : Bindings
  helpers : HelperTable

section

variable {ι : Type} [DecidableEq ι]

/-- A step of a view: what it answers, the view after it, and the world. -/
def Studio.stepped (s : Studio ι) (i : ι) (st : ViewStep) :
    (Except Fault Result × View) × World :=
  (s.views i).play (Session.viewStep (s.views i) st) s.world

namespace Turn

/-- The studio after a turn. -/
def after (s : Studio ι) : Turn ι → Studio ι
  | .step i st =>
    { s with
      world := (s.stepped i st).2
      views := Function.update s.views i (s.stepped i st).1.2 }
  | .write p content m => { s with world := (Happening.write p content m).after s.world }
  | .delete p => { s with world := (Happening.delete p).after s.world }
  | .clear => { s with world := (Happening.clear s.engine).after s.world }

/-- What a view sees of a turn: the outcome of its own steps. -/
def sight? (i : ι) (s : Studio ι) : Turn ι → Option Sight
  | .step j st =>
    if j = i then
      some ⟨(s.stepped j st).1.1, (s.stepped j st).1.2.data, (s.stepped j st).1.2.helpers⟩
    else none
  | _ => none

/-- The turns that a view takes alone: its own steps, and what is done to files. -/
def concerns (i : ι) : Turn ι → Bool
  | .step j _ => j = i
  | .write .. | .delete _ => true
  | .clear => false

/-- A file that is written gets a time that it had in none of some trees. -/
def Renews (ts : List Files) : Turn ι → Prop
  | .write p _ m => ∀ t ∈ ts, t.timeAt p ≠ some m
  | _ => True

instance (ts : List Files) (t : Turn ι) : Decidable (t.Renews ts) :=
  match t with
  | .write p _ m => inferInstanceAs (Decidable (∀ t ∈ ts, t.timeAt p ≠ some m))
  | .step .. | .delete _ | .clear => isTrue trivial

/-- Helpers that a view gets make engines of their own only under a condition. -/
def Fits (own : Prop) : Turn ι → Prop
  | .step _ st => st.Fits own
  | _ => True

end Turn

namespace Studio

/-- What a view answers and has, step by step, while turns are taken. -/
def seen (i : ι) (s : Studio ι) : List (Turn ι) → List Sight
  | [] => []
  | t :: turns => (t.sight? i s).toList ++ (t.after s).seen i turns

/-- The studio after turns. -/
def afterAll (s : Studio ι) (turns : List (Turn ι)) : Studio ι := turns.foldl Turn.after s

/-- The trees of files that there were before the one in the end, with earlier ones. -/
def past (earlier : List Files) (s : Studio ι) : List (Turn ι) → List Files
  | [] => earlier
  | t :: turns => (t.after s).past (s.world.files :: earlier) turns

/-- Every file that is written gets a time that it never had before. -/
def Renews (earlier : List Files) (s : Studio ι) : List (Turn ι) → Prop
  | [] => True
  | t :: turns =>
    t.Renews (s.world.files :: earlier) ∧ (t.after s).Renews (s.world.files :: earlier) turns

instance (earlier : List Files) (s : Studio ι) (turns : List (Turn ι)) :
    Decidable (s.Renews earlier turns) :=
  go earlier s turns
where
  /-- By the turns, one after the other. -/
  go (earlier : List Files) (s : Studio ι) : (turns : List (Turn ι)) →
      Decidable (s.Renews earlier turns)
    | [] => isTrue trivial
    | t :: turns =>
      have := go (s.world.files :: earlier) (t.after s) turns
      inferInstanceAs (Decidable (_ ∧ _))

/-- The helpers that the views have and get make engines only under a condition. -/
structure Fits (own : Prop) (s : Studio ι) (turns : List (Turn ι)) : Prop where
  views : ∀ i, (s.views i).helpers.Fits own
  turns : ∀ t ∈ turns, t.Fits own

/-- The views are on the engine, with its configuration. -/
structure Staffed (c : Config) (s : Studio ι) : Prop where
  engine : ∀ i, (s.views i).engine = s.engine
  config : ∀ i, (s.views i).config = c

end Studio

end

variable {ι : Type} {s s' : Studio ι} {t : Turn ι} {turns : List (Turn ι)} {i : ι}
  {own still : Prop} {earlier ts : List Files} {c : Config} {x : Extensions} {tr : Translations}
  {id id' : EngineId} {w w' : World} {v : View} {base : Files}

/-- A step of a view is the same on engines that are in step. -/
theorem play_abreast (hts : Telling ts) (hid : v.engine = id) (hc : v.config = c)
    (hown : own → x = Engine.defaultExtensions c ∧
      (still → base.isDirectory c.cacheDir = .ok true))
    (h : Abreast still base ts c x tr id id' w w') (hv : v.helpers.Fits own)
    {st : ViewStep} (hst : st.Fits own) :
    let o := v.play (Session.viewStep v st) w
    let o' := (v.on id').play (Session.viewStep (v.on id') st) w'
    o.1.1 = o'.1.1 ∧ o'.1.2 = o.1.2.on id' ∧ o.1.2.helpers.Fits own ∧
      Abreast still base ts c x tr id id' o.2 o'.2 := by
  subst hid
  intro o o'
  have hpaired : Paired (Abreast still base ts c x tr v.engine id') own
      ⟨v.data, v.helpers, w⟩ ⟨v.data, v.helpers, w'⟩ := ⟨⟨rfl, rfl⟩, h, hv⟩
  rcases viewStep_twin (View.twinned hts hc hown) hst _ _ hpaired with ⟨hresult, hleft⟩
  exact ⟨hresult, congrArg₂ (View.mk v.name v.config id') hleft.same.data.symm
    hleft.same.helpers.symm, hleft.fits, hleft.bond⟩

/-- Engines that helpers make are of a kind, and find the directory of compiled templates in
place. -/
structure Engine.Standard (c : Config) (x : Extensions) (w : World) : Prop where
  kind : x = Engine.defaultExtensions c
  directory : w.files.isDirectory c.cacheDir = .ok true

/-- The views are on the engine of a studio, which is dated by the trees that there were. If
files have to stay as they are while helpers make engines, the directory for these is there. -/
structure Kept (own still : Prop) (earlier : List Files) (c : Config) (x : Extensions)
    (tr : Translations) (s : Studio ι) : Prop where
  dated : Dated (s.world.files :: earlier) c x tr s.engine s.world
  telling : Telling (s.world.files :: earlier)
  staffed : s.Staffed c
  fits : ∀ i, (s.views i).helpers.Fits own
  kind : own → x = Engine.defaultExtensions c
  directory : still → own → s.world.files.isDirectory c.cacheDir = .ok true

theorem Kept.inStep (h : Kept own still earlier c x tr s) :
    InStep (s.world.files :: earlier) c x tr s.engine s.engine s.world s.world :=
  ⟨h.dated, h.dated, fun _ _ => rfl⟩

/-- A step leaves the engine in step with any other, in whose world the step is taken as well. -/
theorem Kept.stepped (h : Kept own still earlier c x tr s) (j : ι) {st : ViewStep}
    (hst : st.Fits own)
    (hinStep : InStep (s.world.files :: earlier) c x tr s.engine id' s.world w') :
    let o := s.stepped j st
    let o' := ((s.views j).on id').play (Session.viewStep ((s.views j).on id') st) w'
    o.1.1 = o'.1.1 ∧ o'.1.2 = o.1.2.on id' ∧ o.1.2.helpers.Fits own ∧
      Abreast still s.world.files (s.world.files :: earlier) c x tr s.engine id' o.2 o'.2 :=
  play_abreast h.telling (h.staffed.engine j) (h.staffed.config j)
    (fun hown => ⟨h.kind hown, fun hstill => h.directory hstill hown⟩)
    ⟨hinStep, fun _ _ _ => rfl⟩ (h.fits j) hst

/-- An engine that was just made is dated. -/
theorem Studio.Staffed.kept {extensions : Option Extensions} {translations : Option Translations}
    {w₀ w₁ : World} (h : s.Staffed c)
    (hsound : Engine.Sound c (extensions.getD (Engine.defaultExtensions c)) w₀.files)
    (hmade : (Engine.create c extensions translations).perform w₀ = (.ok s.engine, w₁))
    (hlog : w₁.Logged s.world) (hfits : ∀ i, (s.views i).helpers.Fits own)
    (hkind : own → extensions.getD (Engine.defaultExtensions c) = Engine.defaultExtensions c)
    (hdir : still → own → s.world.files.isDirectory c.cacheDir = .ok true) :
    ∃ tr, Kept own still [] c (extensions.getD (Engine.defaultExtensions c)) tr s := by
  rcases Engine.create_cases hmade with ⟨e, hcreated, -⟩
  exact ⟨e.translations, .new hsound hcreated hlog, Engine.telling_singleton _, h, hfits, hkind,
    hdir⟩

variable [DecidableEq ι]

/-- A step of one view leaves all of them on the engine. -/
theorem Studio.Staffed.step (h : s.Staffed c) (j : ι) (st : ViewStep) :
    ((Turn.step j st).after s).Staffed c := by
  have hall : ∀ P : View → Prop, P (s.stepped j st).1.2 → (∀ i, P (s.views i)) →
      ∀ i, P (((Turn.step j st).after s).views i) := fun P hj hall =>
    (Function.forall_update_iff s.views fun _ v => P v).mpr ⟨hj, fun i _ => hall i⟩
  exact ⟨hall (·.engine = s.engine) (h.engine j) h.engine,
    hall (·.config = c) (h.config j) h.config⟩

/-- What happens in a studio keeps its engine dated. -/
theorem Kept.turn (h : Kept own still earlier c x tr s) (ht : t.Fits own)
    (hnew : t.Renews (s.world.files :: earlier)) :
    Kept own still (s.world.files :: earlier) c x tr (t.after s) := by
  have hrun := h.dated.running
  have hnone : ∀ {t : Happening}, t.engine? = none → ∀ j, t.engine? = some j →
      ∃ tr, Engine.Running c x tr j s.world := fun hnone j hj => nomatch hnone.symm.trans hj
  -- Where no file is written, times tell no less than before.
  have hadd : ∀ {w : World}, Dated (s.world.files :: earlier) c x tr s.engine w →
      Dated (w.files :: s.world.files :: earlier) c x tr s.engine w ∧
        Telling (w.files :: s.world.files :: earlier) := fun hw =>
    ⟨hw.mono (List.subset_cons_self _ _), h.telling.cons hw.files⟩
  cases t with
  | step j st =>
      rcases h.stepped j ht h.inStep with ⟨-, -, hfits, hafter⟩
      rcases hadd hafter.inStep.left with ⟨hdated, htelling⟩
      refine ⟨hdated, htelling, h.staffed.step j st, fun i => ?_, h.kind, fun hstill hown =>
        (Files.agree_asks (hafter.files hstill) _ _).symm.trans (h.directory hstill hown)⟩
      exact (Function.forall_update_iff s.views fun _ v => v.helpers.Fits own).mpr
        ⟨hfits, fun i _ => h.fits i⟩ i
  | write p content m =>
      exact ⟨(h.inStep.write p content m).left, h.dated.telling_write h.telling content hnew,
        ⟨h.staffed.engine, h.staffed.config⟩, h.fits, h.kind, fun hstill hown =>
          Engine.isDirectory_after hrun (hnone rfl) (h.directory hstill hown)⟩
  | delete p =>
      have hafter := h.inStep.delete p
      refine ⟨hafter.left, ?_, ⟨h.staffed.engine, h.staffed.config⟩, h.fits, h.kind,
        fun hstill hown => Engine.isDirectory_after hrun (hnone rfl) (h.directory hstill hown)⟩
      exact h.telling.cons fun l content m hl hnode =>
        h.dated.files l content m hl (Engine.node?_deleted hrun.sound.tidy hnode)
  | clear =>
      rcases hadd h.inStep.clear.left with ⟨hdated, htelling⟩
      have hagree := (Engine.clear_worked hrun).2.1.agree
      exact ⟨hdated, htelling, ⟨h.staffed.engine, h.staffed.config⟩, h.fits, h.kind,
        fun hstill hown => (Files.agree_asks hagree _ _).symm.trans (h.directory hstill hown)⟩

/-- So does all that happens one after the other. -/
theorem Kept.run (h : Kept own still earlier c x tr s) (hfits : ∀ t ∈ turns, t.Fits own)
    (hnew : s.Renews earlier turns) :
    Kept own still (s.past earlier turns) c x tr (s.afterAll turns) := by
  induction turns generalizing s earlier with
  | nil => exact h
  | cons t turns ih =>
      exact ih (h.turn (hfits t List.mem_cons_self) hnew.1)
        (fun t ht => hfits t (List.mem_cons_of_mem _ ht)) hnew.2

theorem Studio.renews_append (history : List (Turn ι)) : s.Renews earlier (history ++ turns) ↔
    s.Renews earlier history ∧ (s.afterAll history).Renews (s.past earlier history) turns := by
  induction history generalizing s earlier with
  | nil => exact (and_iff_right trivial).symm
  | cons t history ih => exact (and_congr_right fun _ => ih).trans and_assoc.symm

/-- Two runs at the same point, as far as one view is concerned: their engines are in step, and
the view is the same in both. -/
structure Alongside (own still : Prop) (earlier : List Files) (c : Config) (x : Extensions)
    (tr : Translations) (i : ι) (s s' : Studio ι) : Prop where
  kept : Kept own still earlier c x tr s
  inStep : InStep (s.world.files :: earlier) c x tr s.engine s'.engine s.world s'.world
  same : s'.views i = (s.views i).on s'.engine

/-- A turn that both runs take shows the view the same. -/
theorem Alongside.both (h : Alongside own still earlier c x tr i s s') (ht : t.Fits own)
    (hnew : t.Renews (s.world.files :: earlier)) (hi : ∀ j st, t = .step j st → j = i) :
    t.sight? i s = t.sight? i s' ∧
      Alongside own still (s.world.files :: earlier) c x tr i (t.after s) (t.after s') := by
  have hkept := h.kept.turn ht hnew
  cases t with
  | step j st =>
      obtain rfl := hi j st rfl
      have hstep := h.kept.stepped j ht h.inStep
      rw [← h.same] at hstep
      rcases hstep with ⟨hanswer, hview, -, hafter⟩
      refine ⟨?_, hkept, hafter.inStep.add, ?_⟩
      · rw [Turn.sight?, Turn.sight?, if_pos rfl, if_pos rfl]
        exact congrArg some (congr (congrArg₂ Sight.mk hanswer (congrArg View.data hview).symm)
          (congrArg View.helpers hview).symm)
      · show Function.update s'.views j _ j = (Function.update s.views j _ j).on s'.engine
        rw [Function.update_self, Function.update_self]
        exact hview
  | write p content m => exact ⟨rfl, hkept, h.inStep.write p content m, h.same⟩
  | delete p => exact ⟨rfl, hkept, h.inStep.delete p, h.same⟩
  | clear => exact ⟨rfl, hkept, h.inStep.clear.symm.clear.symm.add, h.same⟩

/-- A turn of another view, or that the engine is cleared, does not show, even if it is not
taken in the other run. -/
theorem Alongside.skip (h : Alongside own still earlier c x tr i s s') (ht : t.Fits own)
    (hnew : t.Renews (s.world.files :: earlier)) (hi : t.concerns i = false)
    (hstill : ∀ j st, t = .step j st → still) :
    t.sight? i s = none ∧
      Alongside own still (s.world.files :: earlier) c x tr i (t.after s) s' := by
  have hkept := h.kept.turn ht hnew
  cases t with
  | step j st =>
      have hij : j ≠ i := of_decide_eq_false hi
      rcases h.kept.stepped j ht h.kept.inStep with ⟨-, -, -, hafter⟩
      -- The files stay as they are, so the worlds have the same ones afterwards.
      have hagree := (hafter.files (hstill j st rfl)).symm.trans h.inStep.agree
      refine ⟨if_neg hij, hkept, ⟨hkept.dated, ?_, hagree⟩, ?_⟩
      · exact h.inStep.right.mono (List.subset_cons_self _ _)
      · exact h.same.trans (congrArg (View.on · s'.engine)
          (Function.update_of_ne hij.symm _ s.views).symm)
  | clear => exact ⟨rfl, hkept, h.inStep.clear.add, h.same⟩
  | write p content m => cases hi
  | delete p => cases hi

/-- The view sees the same in both runs, whatever turns the other run leaves out that are none
of its own and do nothing to files. -/
theorem Alongside.seen (h : Alongside own still earlier c x tr i s s') {keep : Turn ι → Bool}
    (hkeep : ∀ t, t.concerns i = true → keep t = true)
    (hi : ∀ j st, keep (.step j st) = true → j = i) (hstill : ∀ j, j ≠ i → still)
    (hfits : ∀ t ∈ turns, t.Fits own) (hnew : s.Renews earlier turns) :
    s.seen i turns = s'.seen i (turns.filter keep) := by
  induction turns generalizing s s' earlier with
  | nil => rfl
  | cons t turns ih =>
      have ht := hfits t List.mem_cons_self
      have hrest : ∀ t ∈ turns, t.Fits own := fun t ht => hfits t (List.mem_cons_of_mem _ ht)
      cases hk : keep t with
      | true =>
          rcases h.both ht hnew.1 (by rintro j st rfl; exact hi j st hk) with ⟨hsight, hnext⟩
          rw [List.filter_cons_of_pos hk, Studio.seen, Studio.seen, hsight,
            ih hnext hrest hnew.2]
      | false =>
          have hother : t.concerns i = false := by
            cases hcon : t.concerns i with
            | false => rfl
            | true => exact (hkeep t hcon).symm.trans hk
          have hne : ∀ j st, t = .step j st → still := by
            rintro j st rfl
            exact hstill j (of_decide_eq_false hother)
          rcases h.skip ht hnew.1 hother hne with ⟨hsight, hnext⟩
          rw [List.filter_cons_of_neg (by rw [hk]; decide), Studio.seen, hsight,
            ih hnext hrest hnew.2]
          rfl

/-- What the steps of a view answer, and the data and the helpers that it has after each of
them, are the same without the steps of the other views and without the engine being cleared,
at any point in the life of the engine. -/
theorem Studio.seen_alone {extensions : Option Extensions} {translations : Option Translations}
    {w₀ w₁ : World} {history : List (Turn ι)}
    (hsound : Engine.Sound c (extensions.getD (Engine.defaultExtensions c)) w₀.files)
    (hmade : (Engine.create c extensions translations).perform w₀ = (.ok s.engine, w₁))
    (hlog : w₁.Logged s.world) (hstaffed : s.Staffed c)
    (hfits : s.Fits (Engine.Standard c (extensions.getD (Engine.defaultExtensions c)) s.world)
      (history ++ turns))
    (hnew : s.Renews [] (history ++ turns)) (i : ι) :
    (s.afterAll history).seen i turns =
      (s.afterAll history).seen i (turns.filter (Turn.concerns i)) := by
  have hdir : True → Engine.Standard c (extensions.getD (Engine.defaultExtensions c)) s.world →
      s.world.files.isDirectory c.cacheDir = .ok true := fun _ h => h.directory
  rcases hstaffed.kept hsound hmade hlog hfits.views (·.kind) hdir with ⟨tr, hstart⟩
  rcases (Studio.renews_append history).mp hnew with ⟨hpast, hnext⟩
  -- The history keeps the invariant, and from there on two studios go alongside: one takes all
  -- turns, and one only those that concern the view.
  have hkept := hstart.run (fun t ht => hfits.turns t (List.mem_append_left _ ht)) hpast
  have hsame : (s.afterAll history).views i =
      ((s.afterAll history).views i).on (s.afterAll history).engine := by
    rw [← hkept.staffed.engine i]
    rfl
  refine Alongside.seen ⟨hkept, hkept.inStep, hsame⟩ (fun _ => id)
    (fun j st hj => of_decide_eq_true hj) (fun _ _ => trivial)
    (fun t ht => hfits.turns t (List.mem_append_right _ ht)) hnext

/-- The text that a step answers, if it answers with one. -/
def Sight.text? (a : Sight) : Option String :=
  match a.answer with
  | .ok (.value (.text t)) => some t
  | _ => none

/-- Two views on one engine, of templates that include the same file. -/
def twoViews : Studio Bool :=
  ⟨Engine.twoNamesMade, 0, fun b => ⟨.text (if b then "m1" else "m2"), .default, 0, [], []⟩⟩

/-- Both of them are rendered, the file that they include is written, the engine is cleared,
and both are rendered again. -/
def bothTwice : List (Turn Bool) :=
  [.step true (.render [] []), .step false (.render [] []),
    .write (Path.ofString "templates/a.j2") ⟨.text "two", Engine.isStored_text "two"⟩ 20, .clear,
    .step false (.render [] []), .step true (.render [("k", .int 1)] [])]

/-- Each of them sees what it would see alone. -/
theorem seen_alone_bothTwice :
    (twoViews.seen true bothTwice).map Sight.text? = [some "one", some "two"] ∧
      ∀ b, twoViews.seen b bothTwice = twoViews.seen b (bothTwice.filter (Turn.concerns b)) := by
  have hfits : twoViews.Fits (Engine.Standard .default ⟨true, false⟩ twoViews.world)
      ([] ++ bothTwice) := by
    refine ⟨fun _ _ _ hn => (nomatch hn), ?_⟩
    simp [bothTwice, Turn.Fits, ViewStep.Fits]
  refine ⟨by decide +kernel, fun b => ?_⟩
  have hsound : Engine.Sound .default (Option.getD none (Engine.defaultExtensions .default))
      Engine.twoNames.files := Engine.twoNames_nothingKept.sound Engine.twoNames_tidy _
  have hnew : twoViews.Renews [] ([] ++ bothTwice) := by decide +kernel
  exact Studio.seen_alone hsound Engine.twoNames_made (.refl _) ⟨fun _ => rfl, fun _ => rfl⟩ hfits
    hnew b

theorem Engine.withBlock_sound (c : Config) (x : Extensions) : Engine.Sound c x withBlock.files :=
  (textFiles_nothingKept _ _ _).sound (textFiles_edit _ _).tidy _

/-- An engine leaves the files in order when it renders. -/
theorem Engine.tidy_render {extensions : Option Extensions} {translations : Option Translations}
    {w₀ w₁ : World} (hw : Engine.Sound c (extensions.getD (Engine.defaultExtensions c)) w₀.files)
    (hmade : (Engine.create c extensions translations).perform w₀ = (.ok id, w₁)) (name : Value)
    (data : Bindings) : Tidy ((Engine.render id name data).perform w₁).2.files := by
  rcases Engine.create_cases hmade with ⟨e, hcreated, -⟩
  exact (Engine.render_worked (hcreated.running hw) name data).sound.tidy

/-- A world in which an engine with translations compiled a block that others cannot. -/
def afterBlock : World := ((Engine.render 0 (.text "a") []).perform Engine.besideBlock).2

/-- The world after an engine without translations was made there. -/
def afterBlockMade : World :=
  ((Engine.create .default (some ⟨false, false⟩) none).perform afterBlock).2

/-- A view on that engine. -/
def blockView (w : World) : Studio Unit := ⟨w, 1, fun _ => ⟨.text "a", .default, 1, [], []⟩⟩

/-- If engines of another kind kept templates in the directory, a view can tell whether the
engine was cleared. -/
theorem not_seen_alone_beside :
    ¬∀ (ι : Type) [DecidableEq ι] (c : Config) (extensions : Option Extensions)
      (translations : Option Translations) (w₀ w₁ : World) (s : Studio ι), Tidy w₀.files →
      (Engine.create c extensions translations).perform w₀ = (.ok s.engine, w₁) →
      w₁.Logged s.world → s.Staffed c → ∀ turns : List (Turn ι), s.Fits False turns →
      s.Renews [] turns → ∀ i, s.seen i turns = s.seen i (turns.filter (Turn.concerns i)) := by
  intro h
  let turns : List (Turn Unit) := [.clear, .step () (.render [] [])]
  have hmade : (Engine.create .default none none).perform Engine.withBlock =
      (.ok 0, Engine.besideBlock) := Prod.ext (by decide +kernel) rfl
  have hmade' : (Engine.create .default (some ⟨false, false⟩) none).perform afterBlock =
      (.ok (blockView afterBlockMade).engine, afterBlockMade) := by
    have hid : ((Engine.create .default (some ⟨false, false⟩) none).perform afterBlock).1 =
        .ok (blockView afterBlockMade).engine := by decide +kernel
    rw [← hid, afterBlockMade]
  have htidy : Tidy afterBlock.files := by
    rw [afterBlock]
    exact Engine.tidy_render (Engine.withBlock_sound _ _) hmade _ _
  have hfits : (blockView afterBlockMade).Fits False turns := by
    refine ⟨fun _ _ _ hn => (nomatch hn), ?_⟩
    simp [turns, Turn.Fits, ViewStep.Fits]
  have hlog : ∀ w : World, w.Logged (blockView w).world := .refl
  have hsame := h Unit .default (some ⟨false, false⟩) none afterBlock afterBlockMade
    (blockView afterBlockMade) htidy hmade' (hlog _) ⟨fun _ => rfl, fun _ => rfl⟩ turns hfits
    (by decide +kernel) ()
  have hcleared : ((blockView afterBlockMade).seen () turns).map Sight.text? = [none] := by
    decide +kernel
  have hnot : ((blockView afterBlockMade).seen () (turns.filter (Turn.concerns ()))).map
      Sight.text? = [some "one"] := by decide +kernel
  rw [hsame, hnot] at hcleared
  exact absurd hcleared (by decide)

end Stencil
