import Stencil.Proofs.Sharing

/-!
# A view and a fresh one in its place

A view that was used in any way is given up for a fresh one: with its name, with the data and
the helpers that it has by then, and with its configuration. From there on the fresh view
gives what the old one would have given. So nothing counts of the past of a view but its data
and its helpers, and nothing of the past of its engine.

Helpers go on as the same objects: one that counts its calls goes on counting. The table
that is built of them has them in the order that they were in, since in a table of a view no
name stands twice and none is empty, whatever was done with the view.

The fresh view has an engine of its own, with the extensions and the translations of the
configuration. The old one has to have the same. And where other engines kept templates in
the directory that these could not compile, it makes a difference when the engine was made.

## Main definitions

* `HelperTable.listed`, `HelperTable.goingOn`: Helpers as they are handed on.
* `HelperTable.Sound`: No name stands in a table twice, and none is empty.
* `Studio.alone`: A view on its engine, without others.

## Theorems

* `HelperTable.Sound.overlay_listed`: The table that is built of the helpers of another.
* `Studio.sound_afterAll`: Tables stay sound.
* `View.get_anew`: What a fresh view is.
* `View.renewed`: A fresh view gives what the old one would have given.
* `not_renewed_translated`: Not if the old one has other translations.
* `not_renewed_beside`: Nor if engines of another kind filled the directory.
-/

namespace Stencil

open Engine (Dated InStep Telling Happening)
open Files (Agree Tidy)

namespace HelperTable

/-- The helpers of a table, as they are handed on. -/
def listed (t : HelperTable) : List (String × Helper) := t.map fun e => (e.1, e.2.helper)

/-- A table with the counts of another one: helpers that are in both go on. -/
def goingOn (t old : HelperTable) : HelperTable :=
  t.map fun e => (e.1, { e.2 with calls := (old.find? e.1).elim e.2.calls (·.calls) })

/-- No name stands in a table twice, and none is empty. -/
structure Sound (t : HelperTable) : Prop where
  distinct : t.Distinct
  named : t.toMap "" = none

variable {t : HelperTable} {n : String} {b : HelperBinding}

theorem bind_of_not_mem (h : n ∉ t.map (·.1)) : t.bind n b = t ++ [(n, b)] := by
  induction t with
  | nil => rfl
  | cons e t ih =>
      rw [List.map_cons, List.mem_cons, not_or] at h
      rw [bind, if_neg h.1, ih h.2]
      rfl

theorem Distinct.find?_of_mem (h : t.Distinct) {e : String × HelperBinding} (he : e ∈ t) :
    t.find? e.1 = some e.2 := lookup_of_mem h he

theorem Sound.ne_empty (h : t.Sound) {e : String × HelperBinding} (he : e ∈ t) : e.1 ≠ "" := by
  intro hempty
  have hfound := h.distinct.find?_of_mem he
  have hnone := h.named
  rw [toMap, ← hempty, hfound] at hnone
  cases hnone

/-- The table that is built of the helpers of another has them in the same order, and all of
them start to count. -/
theorem Sound.overlay_listed (h : t.Sound) :
    (overlay [] t.listed).1 = t.map fun e => (e.1, ⟨e.2.helper, 0⟩) := by
  have hnamed : namedHelpers t.listed = t.listed := by
    rw [namedHelpers, List.takeWhile_eq_self_iff]
    intro e he
    rcases List.mem_map.mp he with ⟨e', he', rfl⟩
    exact decide_eq_true (h.ne_empty he')
  rw [overlay_eq, hnamed, listed, List.foldl_map]
  -- What was built so far stands before what is left, and no name is in both.
  have hbuilt : ∀ done rest : HelperTable, (done ++ rest).Distinct →
      rest.foldl (fun t e => t.bind e.1 ⟨e.2.helper, 0⟩) done =
        done ++ rest.map fun e => (e.1, ⟨e.2.helper, 0⟩) := by
    intro done rest
    induction rest generalizing done with
    | nil => exact fun _ => (List.append_nil done).symm
    | cons e rest ih =>
        intro hdistinct
        rw [Distinct, List.map_append, List.map_cons, List.nodup_middle, List.nodup_cons,
          List.mem_append, not_or] at hdistinct
        rw [List.foldl_cons, bind_of_not_mem hdistinct.1.1, ih, List.append_assoc]
        · rfl
        · rw [Distinct, List.map_append, List.map_append, List.append_assoc]
          exact List.nodup_middle.mpr (List.nodup_cons.mpr
            ⟨fun hmem => hdistinct.1.elim fun h₁ h₂ => (List.mem_append.mp hmem).elim h₁ h₂,
              hdistinct.2⟩)
  exact hbuilt [] t h.distinct

/-- With the counts that they had it is the old table. -/
theorem Sound.goingOn_listed (h : t.Sound) : (overlay [] t.listed).1.goingOn t = t := by
  rw [h.overlay_listed, goingOn, List.map_map]
  conv => rhs; rw [← List.map_id t]
  refine List.map_congr_left fun e he => ?_
  show (e.1, HelperBinding.mk e.2.helper ((t.find? e.1).elim 0 (·.calls))) = e
  rw [h.distinct.find?_of_mem he]
  rfl

end HelperTable

variable {ι : Type} [DecidableEq ι] {s : Studio ι} {t : Turn ι} {turns : List (Turn ι)}
  {c : Config} {v' : View} {w w' : World}

/-- Nothing that is done with a view binds an empty name, or a name twice. -/
theorem Changed.sound {s t : Scene} {cs : List Change} (h : Changed s cs t)
    (hs : s.helpers.Sound) : t.helpers.Sound := by
  refine ⟨h.distinct hs.distinct, ?_⟩
  have hnamed : ∀ n h, t.helpers.toMap n = some h → n ≠ "" := by
    rw [h.helpers]
    refine HelperMap.afterAll_all (P := fun n _ => n ≠ "") ?_ fun c _ => ?_
    · rintro n h hn rfl
      rw [hs.named] at hn
      cases hn
    · cases c with
      | add n h => exact id
      | overlay hs => exact fun _ _ => id
      | write _ | remove _ => trivial
  cases hempty : t.helpers.toMap "" with
  | none => rfl
  | some g => exact absurd rfl (hnamed "" g hempty)

theorem Turn.sound (hs : ∀ i, (s.views i).helpers.Sound) (t : Turn ι) :
    ∀ i, ((t.after s).views i).helpers.Sound := by
  cases t with
  | step j st =>
      have hstep : (s.stepped j st).1.2.helpers.Sound :=
        (changed_step (s.views j) st ⟨(s.views j).data, (s.views j).helpers, s.world⟩).sound (hs j)
      exact (Function.forall_update_iff s.views fun _ v => v.helpers.Sound).mpr
        ⟨hstep, fun i _ => hs i⟩
  | write p content m | delete p | clear => exact hs

/-- Tables stay sound. -/
theorem Studio.sound_afterAll (hs : ∀ i, (s.views i).helpers.Sound) (turns : List (Turn ι)) :
    ∀ i, ((s.afterAll turns).views i).helpers.Sound := by
  induction turns generalizing s with
  | nil => exact hs
  | cons t turns ih => exact ih (Turn.sound hs t)

/-- A fresh view has an engine that is made for it, and is made of what it is given. -/
theorem View.get_anew {name : Value} {data : Bindings} {helpers : List (String × Helper)}
    (h : (View.get name data helpers (some c) none).perform w = (.ok v', w')) :
    ∃ w₁, (Engine.create c none none).perform w = (.ok v'.engine, w₁) ∧ w₁.Logged w' ∧
      v' = ⟨name, c, v'.engine, data, (HelperTable.overlay [] helpers).1⟩ := by
  have hnone : (Option.mapM (fun id => do return (← Engine.find id).config) none :
      Act (Option Config)).perform w = (.ok none, w) := rfl
  rw [View.get, Stateful.perform_bind_ok hnone] at h
  rcases hcreate : (Engine.create c none none).perform w with ⟨f | id, w₁⟩
  · cases (Stateful.perform_bind_error hcreate _).symm.trans h
  · -- The view is made with the helpers that are merged into an empty table.
    have h := (Stateful.perform_bind_ok hcreate _).symm.trans h
    rcases Stateful.exists_of_perform_bind h with ⟨_, w₂, hlog, h⟩
    cases hlog
    rw [Stateful.perform_bind_ok (Stateful.perform_get _)] at h
    rcases mergeGiven_perform data helpers (w₁.log ⟨.debug, View.source, "template_view_created",
      [("name", name), ("data_keys", sortedNames data.keys),
        ("helpers", sortedNames (helpers.map (·.1)))]⟩) with ⟨r, w₃, hlog, hmerge⟩
    simp only [hmerge] at h
    rw [Stateful.perform_bind_ok (Stateful.perform_set _ _)] at h
    cases r with
    | error f => cases h
    | ok _ =>
        cases h
        exact ⟨w₁, rfl, .trans ⟨[_], rfl⟩ hlog, rfl⟩

/-- A fresh view with what a view has. -/
def View.afresh (v : View) : Act View := do
  let v' ← View.get v.name v.data v.helpers.listed (some v.config) none
  -- The helpers are the same objects, so they go on counting.
  return { v' with helpers := v'.helpers.goingOn v.helpers }

/-- It is the view itself on an engine that is made for it. -/
theorem View.afresh_eq {v : View} (hv : v.helpers.Sound)
    (h : v.afresh.perform w = (.ok v', w')) :
    ∃ w₁, (Engine.create v.config none none).perform w = (.ok v'.engine, w₁) ∧ w₁.Logged w' ∧
      v' = v.on v'.engine := by
  rcases Stateful.exists_of_perform_bind h with ⟨v₁, w₂, hget, h⟩
  cases h
  rcases View.get_anew hget with ⟨w₁, hcreate, hlog, hview⟩
  refine ⟨w₁, hcreate, hlog, ?_⟩
  rw [hview, hv.goingOn_listed]
  rfl

/-- The translations of an engine. -/
def World.translations? (w : World) (id : EngineId) : Option Translations :=
  (w.engine? id).map (·.translations)

/-- A view on its engine, without others. -/
def Studio.alone (w : World) (v : View) : Studio Unit := ⟨w, v.engine, fun _ => v⟩

theorem HelperTable.fits_true (t : HelperTable) : t.Fits True := fun _ _ _ _ => trivial

theorem Turn.fits_true {κ : Type} (t : Turn κ) : t.Fits True := by
  cases t with
  | step j st => cases st with
    | setHelper n h => exact fun _ => trivial
    | render data helpers => exact fun _ _ _ => trivial
    | _ => trivial
  | _ => trivial

/-- A view that is alone sees the same on engines that are in step. -/
theorem Studio.alone_seen {earlier : List Files} {tr : Translations} {v : View} {id' : EngineId}
    {future : List (Turn Unit)} (hc : v.config = c)
    (hts : Telling (w.files :: earlier))
    (h : InStep (w.files :: earlier) c (Engine.defaultExtensions c) tr v.engine id' w w')
    (hnew : (alone w v).Renews earlier future) :
    (alone w v).seen () future = (alone w' (v.on id')).seen () future := by
  have hkept : Kept True False earlier c (Engine.defaultExtensions c) tr (alone w v) :=
    ⟨h.left, hts, ⟨fun _ => rfl, fun _ => hc⟩, fun _ => v.helpers.fits_true, fun _ => rfl, nofun⟩
  have halong : Alongside True False earlier c (Engine.defaultExtensions c) tr () (alone w v)
      (alone w' (v.on id')) := ⟨hkept, h, rfl⟩
  -- Nobody else is there, so both runs take all turns.
  have hseen : (alone w v).seen () future =
      (alone w' (v.on id')).seen () (future.filter fun _ => true) :=
    halong.seen (fun _ _ => rfl) (fun _ _ _ => rfl) (fun _ hne => absurd rfl hne)
      (fun t _ => t.fits_true) hnew
  rwa [List.filter_true] at hseen

/-- A fresh view with the data and the helpers that a view has after any history gives, from
there on, what the old one would have given. If the directory of compiled templates was in
place, so it does if the old one goes on as if there were no other. -/
theorem View.renewed {extensions : Option Extensions} {translations : Option Translations}
    {w₀ w₁ : World} {u : Studio ι} {history : List (Turn ι)} {future : List (Turn Unit)}
    (hsound : Engine.Sound c (extensions.getD (Engine.defaultExtensions c)) w₀.files)
    (hmade : (Engine.create c extensions translations).perform w₀ = (.ok s.engine, w₁))
    (hlog : w₁.Logged s.world) (hstaffed : s.Staffed c)
    (hhelpers : ∀ i, (s.views i).helpers.Sound)
    (hkind : extensions.getD (Engine.defaultExtensions c) = Engine.defaultExtensions c)
    (hpast : s.Renews [] history) (hu : s.afterAll history = u) (i : ι)
    (hget : (u.views i).afresh.perform u.world = (.ok v', w'))
    (htr : w'.translations? u.engine = w'.translations? v'.engine)
    (hfuture : (Studio.alone w' (u.views i)).Renews (u.world.files :: s.past [] history) future) :
    (Studio.alone w' (u.views i)).seen () future = (Studio.alone w' v').seen () future ∧
      (u.world.files.isDirectory c.cacheDir = .ok true →
        (Studio.alone u.world (u.views i)).seen () future =
          (Studio.alone w' v').seen () future) := by
  have hown : False → True → s.world.files.isDirectory c.cacheDir = .ok true := nofun
  rcases hstaffed.kept hsound hmade hlog (fun i => (s.views i).helpers.fits_true) (fun _ => hkind)
    hown with ⟨tr, hstart⟩
  rw [hkind] at hstart
  have hkept := hstart.run (fun t _ => t.fits_true) hpast
  rw [hu] at hkept
  have htidy := hkept.dated.running.sound.tidy
  have htable : (u.views i).helpers.Sound := hu ▸ Studio.sound_afterAll hhelpers history i
  rcases View.afresh_eq htable hget with ⟨w₂, hcreate, hlog', hview⟩
  rw [hkept.staffed.config i] at hcreate
  rcases Engine.create_cases hcreate with ⟨e, hcreated, -⟩
  -- Both engines are dated in the world in which the fresh view was made.
  have hold := (hkept.dated.extended (hcreated.extended htidy)).logged hlog'
  have hnew := (hkept.dated.created hcreated).logged hlog'
  have hsame : e.translations = tr := by
    rcases hold.running.engine with ⟨e₁, he₁, -, h₁⟩
    rcases hnew.running.engine with ⟨e₂, he₂, -, h₂⟩
    rw [World.translations?, World.translations?, he₁, he₂] at htr
    exact h₂.symm.trans ((Option.some.inj htr).symm.trans h₁)
  rw [hsame] at hnew
  have hts := hkept.telling.cons hold.files
  have hc := hkept.staffed.config i
  have hdated := hkept.dated
  rw [← hkept.staffed.engine i] at hold hdated
  have hfresh := Studio.alone_seen hc hts (InStep.add ⟨hold, hnew, fun _ _ => rfl⟩) hfuture
  rw [← hview] at hfresh
  refine ⟨hfresh, fun hdir => ?_⟩
  -- Where the directory is in place the fresh view changes nothing of the files.
  have hfiles : w'.files = u.world.files := by
    rcases hlog' with ⟨es, rfl⟩
    exact Engine.files_of_isDirectory hdir (hcreated.store.imp And.right fun h => h.2.2)
  have hagree : Agree w'.files u.world.files := fun _ _ => by rw [hfiles]
  exact (Studio.alone_seen hc hts (InStep.add ⟨hold, hdated, hagree⟩) hfuture).symm.trans hfresh

/-- A script that writes how often a helper was called. -/
def tallyScript : Script.Program := [.write [.call .proxy "tally" [] [] []]]

/-- Files with that script only. -/
def tallyFiles : Files :=
  Files.empty.writeDeep (Path.ofString "templates/greet.pyt") (.file (.script tallyScript) 10)

/-- The world after an engine was made for them. -/
def tallyMade : World :=
  ((Engine.create .default none none).perform (.ofFiles tallyFiles 0 "" ⟨.here, []⟩)).2

/-- A view of the script, with a helper that counts. -/
def tallyView : Studio Unit :=
  ⟨tallyMade, 0, fun _ => ⟨.text "greet", .default, 0, [], [("tally", ⟨.count, 0⟩)]⟩⟩

/-- It is rendered twice, and something fails. -/
def tallyHistory : List (Turn Unit) :=
  [.step () (.render [("k", .int 1)] []), .step () (.invoke "none" [] []),
    .step () (.render [] [])]

/-- The studio by then. -/
def tallyUsed : Studio Unit := tallyView.afterAll tallyHistory

/-- The fresh view that is made there, and the world that it leaves. -/
def tallyFresh : Except Fault View × World :=
  (tallyUsed.views ()).afresh.perform tallyUsed.world

theorem World.translations?_of_isEmpty {w : World} {id : EngineId}
    (h : (w.translations? id).map List.isEmpty = some true) : w.translations? id = some [] := by
  rcases Option.map_eq_some_iff.mp h with ⟨tr, htr, hempty⟩
  rw [htr, List.isEmpty_iff.mp hempty]

/-- The fresh view goes on to count. -/
theorem renewed_tally : ∃ v' w', tallyFresh = (.ok v', w') ∧
    ((Studio.alone w' v').seen () [.step () (.render [] [])]).map Sight.text? = [some "3"] := by
  have hedit : Files.Edit .empty tallyFiles := Files.writeDeep_edit Files.tidy_empty _ rfl
  have hsound : Engine.Sound .default (Option.getD none (Engine.defaultExtensions .default))
      tallyFiles := ((Engine.nothingKept_empty _).edit hedit).sound hedit.tidy _
  have hmade : (Engine.create .default none none).perform (.ofFiles tallyFiles 0 "" ⟨.here, []⟩) =
      (.ok tallyView.engine, tallyMade) := Prod.ext (by decide +kernel) rfl
  have hhelpers : ∀ i, (tallyView.views i).helpers.Sound :=
    fun _ => ⟨List.nodup_singleton "tally", rfl⟩
  have hfacts : tallyFresh.1.map View.engine = .ok 1 ∧
      (tallyFresh.2.translations? 0).map List.isEmpty = some true ∧
      (tallyFresh.2.translations? 1).map List.isEmpty = some true ∧
      ((Studio.alone tallyFresh.2 (tallyUsed.views ())).seen ()
        [.step () (.render [] [])]).map Sight.text? = [some "3"] := by decide +kernel
  rcases hfresh : tallyFresh with ⟨f | v', w'⟩
  · rw [hfresh] at hfacts
    cases hfacts.1
  · rw [hfresh] at hfacts
    rcases hfacts with ⟨hengine, htr, htr', hseen⟩
    have hid : v'.engine = 1 := Except.ok.inj hengine
    have hsame : w'.translations? tallyUsed.engine = w'.translations? v'.engine :=
      (World.translations?_of_isEmpty htr).trans
        (hid ▸ (World.translations?_of_isEmpty htr').symm)
    have hfuture : (Studio.alone w' (tallyUsed.views ())).Renews
        (tallyUsed.world.files :: tallyView.past [] tallyHistory)
        [.step () (.render [] [])] := ⟨trivial, trivial⟩
    have hrenewed := View.renewed hsound hmade (.refl _) ⟨fun _ => rfl, fun _ => rfl⟩ hhelpers rfl
      (by decide +kernel) rfl () hfresh hsame hfuture
    exact ⟨v', w', rfl, hrenewed.1 ▸ hseen⟩

/-- The texts that the steps of a view answer, if it is alone. -/
def View.texts (v : View) (w : World) (future : List (Turn Unit)) : List (Option String) :=
  ((Studio.alone w v).seen () future).map Sight.text?

/-- If the steps of a fresh view answer with texts there is one. -/
theorem View.exists_afresh {v : View} {future : List (Turn Unit)} {texts : List (Option String)}
    (h : (v.afresh.perform w).1.map (·.texts (v.afresh.perform w).2 future) = .ok texts) :
    ∃ v' w', v.afresh.perform w = (.ok v', w') ∧ v'.texts w' future = texts := by
  rcases hfresh : v.afresh.perform w with ⟨f | v', w'⟩
  · rw [hfresh] at h
    cases h
  · rw [hfresh] at h
    exact ⟨v', w', rfl, Except.ok.inj h⟩

/-- A template with a message to translate. -/
def greeting : World :=
  .ofFiles (Engine.textFiles [("templates/t.j2", "\x7b\x7b _('a') \x7d\x7d")] 10) 0 "" ⟨.here, []⟩

/-- Translations that no configuration gives. -/
def greetingTranslations : Translations := [⟨[("a", "b")], [], [], none⟩]

/-- The world after an engine with them was made. -/
def greetingMade : World :=
  ((Engine.create .default none (some greetingTranslations)).perform greeting).2

/-- A view on that engine. -/
def greetingView (w : World) : Studio Unit := ⟨w, 0, fun _ => ⟨.text "t", .default, 0, [], []⟩⟩

/-- If the old view has other translations than its configuration gives, a fresh one does not
give the same. -/
theorem not_renewed_translated :
    ¬∀ (ι : Type) [DecidableEq ι] (c : Config) (extensions : Option Extensions)
      (translations : Option Translations) (w₀ w₁ w' : World) (s u : Studio ι) (v' : View)
      (history : List (Turn ι)) (future : List (Turn Unit)),
      Engine.Sound c (extensions.getD (Engine.defaultExtensions c)) w₀.files →
      (Engine.create c extensions translations).perform w₀ = (.ok s.engine, w₁) →
      w₁.Logged s.world → s.Staffed c → (∀ i, (s.views i).helpers.Sound) →
      extensions.getD (Engine.defaultExtensions c) = Engine.defaultExtensions c →
      s.Renews [] history → s.afterAll history = u → ∀ i,
      (u.views i).afresh.perform u.world = (.ok v', w') →
      (Studio.alone w' (u.views i)).Renews (u.world.files :: s.past [] history) future →
      (Studio.alone w' (u.views i)).seen () future = (Studio.alone w' v').seen () future := by
  intro h
  let u := greetingView greetingMade
  let future : List (Turn Unit) := [.step () (.render [] [])]
  have hid : ((Engine.create .default none (some greetingTranslations)).perform greeting).1 =
      .ok u.engine := by decide +kernel
  have hmade : (Engine.create .default none (some greetingTranslations)).perform greeting =
      (.ok u.engine, greetingMade) := Prod.ext hid rfl
  have hedit : Files.Edit .empty greeting.files := Engine.textFiles_edit _ _
  have hsound : Engine.Sound .default (Option.getD none (Engine.defaultExtensions .default))
      greeting.files := (Engine.textFiles_nothingKept _ _ _).sound hedit.tidy _
  have hlog : ∀ w : World, w.Logged (greetingView w).world := .refl
  have hhelpers : ∀ i, (u.views i).helpers.Sound := fun _ => ⟨List.nodup_nil, rfl⟩
  have hold : (u.views ()).texts ((u.views ()).afresh.perform u.world).2 future = [some "b"] := by
    decide +kernel
  have hnew : ((u.views ()).afresh.perform u.world).1.map
      (·.texts ((u.views ()).afresh.perform u.world).2 future) = .ok [some "a"] := by
    decide +kernel
  rcases View.exists_afresh hnew with ⟨v', w', hfresh, hnew⟩
  rw [hfresh] at hold
  have hsame := h Unit .default none (some greetingTranslations) greeting greetingMade w' u u v' []
    future hsound hmade (hlog _) ⟨fun _ => rfl, fun _ => rfl⟩ hhelpers rfl trivial rfl () hfresh
    ⟨trivial, trivial⟩
  rw [View.texts, hsame] at hold
  exact absurd (hold.symm.trans hnew) (by decide)

/-- A configuration that keeps compiled templates outside of its root. -/
def keepingConfig : Config := { Config.default with cacheDir := ⟨.here, ["cache"]⟩ }

/-- A configuration without translations, with the same root by a way that is not there yet. -/
def detourConfig : Config :=
  { keepingConfig with templateRoot := Path.ofString "x/../templates", enableI18n := .bool false }

/-- The world after an engine with translations was made. -/
def keepingMade : World := ((Engine.create keepingConfig none none).perform Engine.withBlock).2

/-- A world in which it compiled a block that others cannot. -/
def keptBlock : World := ((Engine.render 0 (.text "a") []).perform keepingMade).2

/-- The world after an engine without translations was made, that finds no root. -/
def detourMade : World := ((Engine.create detourConfig none none).perform keptBlock).2

/-- A view on that engine. -/
def detourView (w : World) : Studio Unit :=
  ⟨w, 1, fun _ => ⟨.text "a", detourConfig, 1, [], []⟩⟩

/-- Then there is a root. -/
def detourHistory : List (Turn Unit) := [.write (Path.ofString "x/f") ⟨.text "y", rfl⟩ 20]

/-- If engines of another kind kept templates in the directory, it makes a difference when the
engine of a view was made. -/
theorem not_renewed_beside :
    ¬∀ (ι : Type) [DecidableEq ι] (c : Config) (extensions : Option Extensions)
      (translations : Option Translations) (w₀ w₁ w' : World) (s u : Studio ι) (v' : View)
      (history : List (Turn ι)) (future : List (Turn Unit)), Tidy w₀.files →
      (Engine.create c extensions translations).perform w₀ = (.ok s.engine, w₁) →
      w₁.Logged s.world → s.Staffed c → (∀ i, (s.views i).helpers.Sound) →
      extensions.getD (Engine.defaultExtensions c) = Engine.defaultExtensions c →
      s.Renews [] history → s.afterAll history = u → ∀ i,
      (u.views i).afresh.perform u.world = (.ok v', w') →
      w'.translations? u.engine = w'.translations? v'.engine →
      (Studio.alone w' (u.views i)).Renews (u.world.files :: s.past [] history) future →
      (Studio.alone w' (u.views i)).seen () future = (Studio.alone w' v').seen () future := by
  intro h
  let s := detourView detourMade
  let u := s.afterAll detourHistory
  let future : List (Turn Unit) := [.step () (.render [] [])]
  have hkeeping : (Engine.create keepingConfig none none).perform Engine.withBlock =
      (.ok 0, keepingMade) := Prod.ext (by decide +kernel) rfl
  have htidy : Tidy keptBlock.files := by
    rw [keptBlock]
    exact Engine.tidy_render (Engine.withBlock_sound _ _) hkeeping _ _
  have hid : ((Engine.create detourConfig none none).perform keptBlock).1 = .ok s.engine := by
    decide +kernel
  have hmade : (Engine.create detourConfig none none).perform keptBlock =
      (.ok s.engine, detourMade) := by rw [← hid, detourMade]
  have hlog : ∀ w : World, w.Logged (detourView w).world := .refl
  have hhelpers : ∀ i, (s.views i).helpers.Sound := fun _ => ⟨List.nodup_nil, rfl⟩
  have hold : (u.views ()).texts ((u.views ()).afresh.perform u.world).2 future = [none] ∧
      (((u.views ()).afresh.perform u.world).2.translations? 1).map List.isEmpty = some true ∧
      (((u.views ()).afresh.perform u.world).2.translations? 2).map List.isEmpty = some true := by
    decide +kernel
  have hnew : ((u.views ()).afresh.perform u.world).1.map
      (·.texts ((u.views ()).afresh.perform u.world).2 future) = .ok [some "one"] := by
    decide +kernel
  have hengine : ((u.views ()).afresh.perform u.world).1.map View.engine = .ok 2 := by
    decide +kernel
  rcases View.exists_afresh hnew with ⟨v', w', hfresh, hnew⟩
  rw [hfresh] at hold hengine
  rcases hold with ⟨hold, htr, htr'⟩
  have hid' : v'.engine = 2 := Except.ok.inj hengine
  have htrs : w'.translations? u.engine = w'.translations? v'.engine :=
    (World.translations?_of_isEmpty htr).trans
      (hid' ▸ (World.translations?_of_isEmpty htr').symm)
  have hsame := h Unit detourConfig none none keptBlock detourMade w' s u v' detourHistory
    future htidy hmade (hlog _) ⟨fun _ => rfl, fun _ => rfl⟩ hhelpers rfl (by decide +kernel) rfl ()
    hfresh htrs ⟨trivial, trivial⟩
  rw [View.texts, hsame] at hold
  exact absurd (hold.symm.trans hnew) (by decide)

end Stencil
