import Stencil.Proofs.Strictness

/-!
# Engines of other kinds in one directory

What is kept in the directory of compiled templates goes by the name of a template, its file
and its source, and not by the engine that compiled it. So an engine finds what engines of other
configurations left there, and renders that.

Of a configuration, compiling depends on the tags that the extensions add and on how strict
undefined values are. If engines agree in these, what one finds is what it would have compiled,
and the directory does not show. This is so for each name as well: only those that a rendering
reaches count, and only templates that the other engines could compile. Where they compile
differently it may show in both ways: an engine renders a template that it cannot compile, or
one that it would compile to something else.

## Main definitions

* `CompilesAs`: What one configuration compiles, another one compiles to the same.
* `Transparent`: The directory never shows to a new engine of another configuration.

## Theorems

* `Created.render_transparent`: What is kept does not show if it was compiled alike.
* `render_beside_others`: A new engine after any history of engines of another configuration.
* `not_transparent`, `not_transparent_lenient`: Where it shows.
-/

namespace Stencil

namespace Engine

open Files (Agree Tidy place)

variable {c c' : Config} {x x' : Extensions} {tr : Translations} {id id' : EngineId}
  {w w' : World} {e : Engine} {n : String}

/-- What one configuration compiles a template to, if it can, another one compiles it to as
    well. -/
def CompilesAs (c : Config) (x : Extensions) (c' : Config) (x' : Extensions) (t : Files)
    (n : String) : Prop :=
  ∀ content modified body, fileOf? c' t n = some (content, modified) →
    compiled c x n content = .ok body → compiled c' x' n content = .ok body

/-- Where strictness and tags are the same, all templates compile alike. -/
theorem CompilesAs.of_settings (hstrict : c.isStrict = c'.isStrict) (htags : x.tags = x'.tags)
    (t : Files) (n : String) : CompilesAs c x c' x' t n := by
  intro content modified body _ hbody
  rw [compiled, ← hstrict, ← htags]
  exact hbody

/-- A new engine finds what others kept, and this does not differ from what it would have compiled
    itself. -/
theorem Created.readKept_eq (h : Created c' x' w w' id e) (hw : Sound c x w.files)
    (hdir : c'.cacheDir = c.cacheDir) (hn : CompilesAs c x c' x' w.files n) :
    readKept c' x' e.store w'.files n = Engine.readAnew c' x' w.files n := by
  rw [← h.readAnew hw.tidy, readKept, Engine.readAnew]
  cases hsegments : includeSegments? n with
  | none => rfl
  | some segments =>
      simp only
      cases hfile : w'.files.file? (includePath c' segments) with
      | none => rfl
      | some r =>
          obtain ⟨content, modified⟩ := r
          have hof : Engine.fileOf? c' w.files n = some (content, modified) := by
            rw [← h.fileOf? hw.tidy, Engine.fileOf?, hsegments]
            exact hfile
          simp only [compiled]
          cases hchars : content.chars with
          | error f =>
              rw [keptContent, hchars]
              rfl
          | ok chars =>
              rw [keptContent_of_chars hchars]
              split
              · rename_i body hfound
                obtain ⟨m, hnode⟩ := node?_of_stored? (h.serves hw.tidy) hfound
                -- What is found was there before the engine was made.
                rw [(h.grown hw.tidy).hidden _ (not_reachable_keptAt c' _ _), keptAt, hdir] at hnode
                have hbody := hw.kept _ _ _ _ _ _ _ hnode
                rw [String.toList_ofList] at hbody
                have hcompiled := hn content modified body hof (by rw [compiled, hchars]; exact hbody)
                rw [compiled, hchars] at hcompiled
                exact hcompiled.symm
              · rfl

/-- A new engine renders from the files what one renders that finds nothing, if what is kept for
    the names that this reaches was compiled alike. -/
theorem Created.render_transparent (h : Created c' x' w w' id e) (hw : Sound c x w.files)
    (hdir : c'.cacheDir = c.cacheDir) {name : Value} {data : Bindings}
    (hreached : ∀ n ∈ reached c' x' e.translations w.files name data,
      CompilesAs c x c' x' w.files n) :
    ((Engine.render id name data).perform w').1 =
      ((renderAnew c' x' e.translations w.files name data).perform []).1 := by
  rw [(h.render_kept hw.tidy name data).1, renderAnew_eq]
  exact renderReading_of_reached fun n hn => h.readKept_eq hw hdir (hreached n hn)

/-- A history of one kind of engines leaves everything that is kept compiled alike. -/
theorem afterAll_sound {extensions : Option Extensions} {translations : Option Translations}
    {w₀ w₁ : World} (htidy : Tidy w₀.files) (hempty : NothingKept c w₀.files)
    (hmade : (create c extensions translations).perform w₀ = (.ok id, w₁))
    (he : w₁.engine? id = some e) {history : List Happening}
    (hshared : ∀ h ∈ history, ∀ j, h.engine? = some j → Shares c e.extensions w₁ j) :
    Sound c e.extensions (afterAll w₁ history).files := by
  have hcreated := created_of_create hmade he
  have hsound := hempty.sound htidy e.extensions
  have hby : ∀ h ∈ history, ∀ j, h.engine? = some j → ∃ tr, Running c e.extensions tr j w₁ :=
    fun h hh j hj => (hshared h hh j hj).running (hcreated.running hsound).sound
  exact (history_recorded (hcreated.recorded hsound) hby).running.sound

/-- After any history of engines of one kind, a new engine of another kind with the same directory
    is made, or fails to be made, as it is where the directory is emptied, and then renders the
    same, provided that for each name that this reaches the one kind compiles nothing to what the
    other kind does not compile it to. That is so if undefined values are as strict to both, and
    both have the same tags. -/
theorem render_beside_others {extensions : Option Extensions}
    {translations : Option Translations} {w₀ w₁ : World} (htidy : Tidy w₀.files)
    (hempty : NothingKept c w₀.files)
    (hmade : (create c extensions translations).perform w₀ = (.ok id, w₁))
    (he : w₁.engine? id = some e) (history : List Happening)
    (hshared : ∀ h ∈ history, ∀ j, h.engine? = some j → Shares c e.extensions w₁ j)
    (hdir : c'.cacheDir = c.cacheDir) (extensions' : Option Extensions)
    (translations' : Option Translations) :
    let w := afterAll w₁ history
    let used := (create c' extensions' translations').perform w
    let clean := (create c' extensions' translations').perform (emptied c' w)
    used.1 = clean.1 ∧ ∀ id' e' name data, used.1 = .ok id' → used.2.engine? id' = some e' →
      ((c.isStrict = c'.isStrict ∧ e.extensions.tags = e'.extensions.tags) ∨
        ∀ n ∈ reached c' e'.extensions e'.translations w.files name data,
          CompilesAs c e.extensions c' e'.extensions w.files n) →
      ((render id' name data).perform used.2).1 = ((render id' name data).perform clean.2).1 := by
  intro w used clean
  have hsound : Sound c e.extensions w.files := afterAll_sound htidy hempty hmade he hshared
  have hagree : Agree w.files (emptied c' w).files := withoutStored_agree hsound.tidy _
  -- Making the engine depends on the files that a path can name, which are the same with the kept
  -- templates and without them.
  rcases create_alike hagree c' extensions' translations' with
    ⟨f, u, u', hused, hclean, -⟩ | ⟨u, u', e₁, e₂, hused, hclean, hnew, hnew', htr, -⟩
  · have hfails : used.1 = .error f := congrArg Prod.fst hused
    refine ⟨hfails.trans (congrArg Prod.fst hclean).symm, fun id' e' name data hok => ?_⟩
    rw [hfails] at hok
    cases hok
  · refine ⟨(congrArg Prod.fst hused).trans (congrArg Prod.fst hclean).symm,
      fun id' e' name data hok he' halike => ?_⟩
    have hsame : w.engines.length = id' :=
      Except.ok.inj ((congrArg Prod.fst hused).symm.trans hok)
    subst hsame
    rw [show used.2 = u from congrArg Prod.snd hused] at he' ⊢
    rw [show clean.2 = u' from congrArg Prod.snd hclean]
    obtain rfl := Option.some.inj (hnew.engine?.symm.trans he')
    have hx := hnew.extensions
    rw [← hx] at hnew hnew'
    have hreached : ∀ n ∈ reached c' e₁.extensions e₁.translations w.files name data,
        CompilesAs c e.extensions c' e₁.extensions w.files n := by
      rcases halike with ⟨hstrict, htags⟩ | hreached
      · exact fun n _ => .of_settings hstrict htags _ n
      · exact hreached
    -- With what is kept or without it, both render as if everything were read anew.
    rw [hnew.render_transparent hsound hdir hreached]
    have hclean' := hnew'.render (withoutStored_sound hsound.tidy c' e₁.extensions) name data
    rw [htr] at hclean'
    rw [show w.engines.length = (emptied c' w).engines.length from rfl, hclean']
    exact congrArg (fun b => (Stateful.perform b []).1)
      (renderAnew_congr (readAnew_agree hagree c' _) name data)

/-- A configuration with another language and another domain. -/
def otherLanguage : Config :=
  { Config.default with languages := .list [.text "de"], translationDomain := .text "other" }

/-- Two templates are rendered. -/
def readBefore : List Happening := [.render 0 (.text "m1") [], .render 0 (.text "m2") []]

/-- An engine that translates otherwise renders what another one kept. -/
theorem render_beside_others_translated :
    ((create otherLanguage none none).perform (afterAll twoNamesMade readBefore)).1 = .ok 1 ∧
      ((render 1 (.text "m1") []).perform
          ((create otherLanguage none none).perform (afterAll twoNamesMade readBefore)).2).1 =
        ((render 1 (.text "m1") []).perform ((create otherLanguage none none).perform
          (emptied otherLanguage (afterAll twoNamesMade readBefore))).2).1 := by
  have hby : ∀ h ∈ readBefore, ∀ j, h.engine? = some j → j = 0 := by
    simp [readBefore, Happening.engine?]
  have hmade : ((create otherLanguage none none).perform (afterAll twoNamesMade readBefore)).1 =
      .ok 1 := by
    decide +kernel
  have hperform : (create otherLanguage none none).perform (afterAll twoNamesMade readBefore) =
      (.ok 1, ((create otherLanguage none none).perform (afterAll twoNamesMade readBefore)).2) := by
    rw [← hmade]
  rcases create_cases hperform with ⟨e', hcreated, -⟩
  have htags : twoNamesEngine.extensions.tags = e'.extensions.tags := by
    rw [hcreated.extensions]
    rfl
  have hsame := render_beside_others twoNames_tidy twoNames_nothingKept twoNames_made
    twoNames_engine readBefore (twoNames_shared _ hby)
    (rfl : otherLanguage.cacheDir = Config.default.cacheDir) none none
  exact ⟨hmade, hsame.2 1 e' (.text "m1") [] hmade hcreated.engine? (.inl ⟨rfl, htags⟩)⟩

/-- What engines of one configuration render does not show to a new engine of another one that
    has the same directory. -/
def Transparent (c c' : Config) : Prop :=
  ∀ (w₀ w₁ : World) (id : EngineId), Tidy w₀.files → NothingKept c w₀.files →
    (create c none none).perform w₀ = (.ok id, w₁) → ∀ renders : List (Value × Bindings),
    let w := afterAll w₁ (renders.map fun r => .render id r.1 r.2)
    ∀ (id' id'' : EngineId) (w' w'' : World),
      (create c' none none).perform w = (.ok id', w') →
      (create c' none none).perform (emptied c' w) = (.ok id'', w'') →
      ∀ (name : Value) (data : Bindings),
        ((render id' name data).perform w').1 = ((render id'' name data).perform w'').1

/-- One rendering of a template tells two configurations apart, if a new engine then comes to a
    text that it does not come to where nothing is kept. -/
theorem not_transparent_of {w₀ w₁ : World} (name : Value) (text : String) (htidy : Tidy w₀.files)
    (hempty : NothingKept c w₀.files) (hmade : (create c none none).perform w₀ = (.ok 0, w₁))
    (hused : ((create c' none none >>= fun id => render id name []).perform
      (afterAll w₁ [.render 0 name []])).1 = .ok text)
    (hclean : ((create c' none none).perform (emptied c' (afterAll w₁ [.render 0 name []]))).1 =
      .ok 1)
    (hdiffers : ¬((create c' none none >>= fun id => render id name []).perform
      (emptied c' (afterAll w₁ [.render 0 name []]))).1 = .ok text) : ¬Transparent c c' := by
  intro h
  rcases hmade' : (create c' none none).perform (afterAll w₁ [.render 0 name []]) with
    ⟨_ | id', w'⟩
  · rw [Stateful.perform_bind_error hmade'] at hused
    cases hused
  · have hclean' : (create c' none none).perform (emptied c' (afterAll w₁ [.render 0 name []])) =
        (.ok 1, ((create c' none none).perform
          (emptied c' (afterAll w₁ [.render 0 name []]))).2) := by
      rw [← hclean]
    rw [Stateful.perform_bind_ok hmade'] at hused
    rw [Stateful.perform_bind_ok hclean'] at hdiffers
    exact hdiffers ((h w₀ w₁ 0 htidy hempty hmade [(name, [])] id' 1 w' _ hmade' hclean' name
      []).symm.trans hused)

/-- The default configuration without extensions. -/
def withoutBlocks : Config := { Config.default with enableI18n := .bool false }

/-- An engine without extensions finds a template that it could not compile. -/
theorem not_transparent :
    ¬∀ c c' : Config, c'.templateRoot = c.templateRoot → c'.cacheDir = c.cacheDir →
      Transparent c c' := by
  intro h
  have hmade : (create .default none none).perform withBlock = (.ok 0, besideBlock) :=
    Prod.ext (by decide +kernel) rfl
  exact not_transparent_of (.text "a") "one" (textFiles_edit _ _).tidy
    (textFiles_nothingKept _ _ _) hmade (by decide +kernel) (by decide +kernel)
    (by decide +kernel) (h .default withoutBlocks rfl rfl)

/-- A constant that cannot be computed where undefined values are strict. -/
def absentItem : World :=
  .ofFiles (textFiles [("templates/a.j2", "\x7b\x7b [][0] ~ 'x' \x7d\x7d")] 10) 0 "" ⟨.here, []⟩

/-- A strict engine finds the text that one computed that is not strict. -/
theorem not_transparent_lenient : ¬Transparent lenientConfig .default := by
  have hmade : (create lenientConfig none none).perform absentItem =
      (.ok 0, ((create lenientConfig none none).perform absentItem).2) :=
    Prod.ext (by decide +kernel) rfl
  exact not_transparent_of (.text "a") "x" (textFiles_edit _ _).tidy
    (textFiles_nothingKept _ _ _) hmade (by decide +kernel) (by decide +kernel)
    (by decide +kernel)

end Engine

end Stencil
