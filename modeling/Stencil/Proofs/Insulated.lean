import Stencil.Proofs.Dating
import Stencil.Proofs.Escaped
import Stencil.Proofs.Insulating
import Stencil.Proofs.Reaching

/-!
# Settings for translations do not reach other templates

Two configurations may differ in whether there are translations, in the languages, in where the
catalogs are and in their domain. To a template that translates nothing, neither itself nor in
what it includes, this makes no difference: new engines of both render the same text, or fail
with the same fault. This is so with and without the extensions, whatever catalogs there are.

A rendering without translations serves as the measure. It notes the names that it reaches, and
the templates of these names have to translate nothing; what other templates do is of no
account. Every other rendering follows it step by step, and so reaches the same names.

## Main definitions

* `Config.withTranslations`: A configuration with other settings for translations.
* `Engine.TranslatesNothing`: The template of a name translates nothing.

## Theorems

* `Json.read_functionFree`: There are no functions in data from outside.
* `Engine.renderNoting_keepPace`: Rendering from what is read for names.
* `Engine.renderAnew_insulated`: Rendering from the files.
* `Engine.render_insulated`: Engines that differ in their translations.
-/

namespace Stencil

/-- A configuration with other settings for translations. -/
def Config.withTranslations (c : Config) (enabled languages domain : Value)
    (localeDir : Option Path) : Config :=
  { c with enableI18n := enabled, languages, translationDomain := domain, localeDir }

/-- There are no functions in data from outside. -/
theorem Json.read_functionFree {l : Limits} {s : List Char} {v : Value} (h : read l s = .ok v) :
    v.FunctionFree :=
  read_kept Value.functionFree_kept l s v h

namespace Engine

open Files (Tidy)
open Template (Abstains TranslationFree installedNames)

variable {c : Config} {enabled languages domain : Value} {dir : Option Path} {x : Extensions}
  {tr : Translations} {reading : String → Except Fault (List Template.Stmt)}

/-! ## Rendering from what is read -/

/-- Extensions add nothing but the functions for translations. -/
theorem globals_installed (x : Extensions) : ∀ e ∈ x.globals, e.1 ∈ installedNames := by
  unfold Extensions.globals
  split
  · simp [installedNames]
  · exact List.forall_mem_nil _

theorem globals_insulated (x : Extensions) :
    Template.Insulated (Extensions.globals ⟨false, false⟩) x.globals := by
  refine ⟨fun n hn => ?_, fun n v _ hv => (nomatch hv)⟩
  cases hv : x.globals.get? n with
  | none => rfl
  | some v => exact absurd (globals_installed x _ (Template.Parser.mem_of_lookup hv)) hn

theorem note_keepPace (hreading : ∀ n, Ensures (reading n) Abstains) (n : String) :
    KeepPace (fun b b' => b' = b ∧ Abstains b) (note reading n) (note reading n) :=
  (KeepPace.refl Eq.refl (modify (n :: ·))).bind fun _ _ _ => .lift (.refl (hreading n))

theorem noter_insulated (hreading : ∀ n, Ensures (reading n) Abstains) :
    (noter c ⟨false, false⟩ [] reading).Insulated
      (noter (c.withTranslations enabled languages domain dir) x tr reading) where
  load n := by
    refine (note_keepPace hreading n).bind ?_
    rintro _ body ⟨rfl, hbody⟩
    exact .pure ⟨rfl, hbody⟩
  strict := rfl
  globals := globals_insulated x

/-- Rendering from what is read for names, if none of it translates anything. -/
theorem renderNoting_keepPace (hreading : ∀ n, Ensures (reading n) Abstains) (name : Value)
    {data : Bindings} (hdata : ∀ e ∈ data, e.2.FunctionFree) :
    KeepPace Eq (renderNoting c ⟨false, false⟩ [] reading name data)
      (renderNoting (c.withTranslations enabled languages domain dir) x tr reading name data) := by
  have hload : KeepPace (fun r r' => r' = r ∧ Abstains r.2) (loadNoting c reading name)
      (loadNoting (c.withTranslations enabled languages domain dir) reading name) := by
    refine (KeepPace.lift (.any (a := innerName c name))).bind ?_
    rintro _ ⟨path, inner⟩ ⟨rfl, -⟩
    refine ((note_keepPace hreading inner).tryCatch fun f => .throw _).bind ?_
    rintro _ body ⟨rfl, hbody⟩
    exact .pure ⟨rfl, hbody⟩
  refine hload.bind ?_
  rintro _ ⟨inner, body⟩ ⟨rfl, hbody⟩
  exact (Template.render_keepPace (noter_insulated hreading) hbody hdata).tryCatch fun f => .throw _

/-! ## Rendering from the files -/

/-- The template of a name translates nothing, if there is one. -/
def TranslatesNothing (c : Config) (t : Files) (n : String) : Prop :=
  ∀ r, fileOf? c t n = some r → Ensures r.1.chars TranslationFree

instance (c : Config) (t : Files) : DecidablePred (TranslatesNothing c t) := fun n =>
  Template.decideOptional (fileOf? c t n)

variable {t : Files} {n : String}

/-- A template without a file is missing, whatever is done with templates. -/
theorem readAnew_of_missing (h : fileOf? c t n = none) : readAnew c x t n =
    .error (.includeMissing n ((includeSegments? n).map fun _ => c.templateRoot.text)) := by
  unfold fileOf? at h
  unfold readAnew
  cases hsegments : includeSegments? n with
  | none => rfl
  | some segments =>
      rw [hsegments] at h
      have hfile : t.file? (includePath c segments) = none := h
      simp only [hfile, Option.map_some]

/-- A template that translates nothing is read to the same by all. -/
theorem TranslatesNothing.readAnew_eq (h : TranslatesNothing c t n) :
    readAnew (c.withTranslations enabled languages domain dir) x t n =
      readAnew c ⟨false, false⟩ t n := by
  cases hfile : fileOf? c t n with
  | none =>
      have hfile' : fileOf? (c.withTranslations enabled languages domain dir) t n = none := hfile
      rw [readAnew_of_missing hfile, readAnew_of_missing hfile']
      rfl
  | some r =>
      have hfile' : fileOf? (c.withTranslations enabled languages domain dir) t n = some r := hfile
      rw [readAnew_of_fileOf? hfile, readAnew_of_fileOf? hfile']
      refine (h r hfile).bind_congr fun chars hchars => ?_
      exact hchars.compile_eq ⟨c.isStrict, n, ⟨false, false⟩⟩ x.tags

theorem TranslatesNothing.readAnew_abstains (h : TranslatesNothing c t n) :
    Ensures (readAnew c x t n) Abstains := by
  cases hfile : fileOf? c t n with
  | none =>
      rw [readAnew_of_missing hfile]
      exact Ensures.error
  | some r =>
      rw [readAnew_of_fileOf? hfile]
      exact (h r hfile).bind fun chars hchars => hchars.compile_abstains _

/-- A rendering without translations, of templates that translate nothing, is followed by every
    other rendering: it has the same result, and reaches the same names. -/
theorem renderAnew_insulated (name : Value) {data : Bindings}
    (hdata : ∀ e ∈ data, e.2.FunctionFree)
    (hreached : ∀ n ∈ reached c ⟨false, false⟩ [] t name data, TranslatesNothing c t n) :
    (renderAnew (c.withTranslations enabled languages domain dir) x tr t name data).perform [] =
      (renderAnew c ⟨false, false⟩ [] t name data).perform [] := by
  -- What is read is cut down to the names that are reached, so all of it translates nothing.
  let reading (n : String) : Except Fault (List Template.Stmt) :=
    if n ∈ reached c ⟨false, false⟩ [] t name data then readAnew c ⟨false, false⟩ t n
    else .error .tooDeep
  have hreading (n : String) : Ensures (reading n) Abstains := by
    unfold reading
    split
    · rename_i hn
      exact (hreached n hn).readAnew_abstains
    · exact Ensures.error
  have hbase : (renderNoting c ⟨false, false⟩ [] reading name data).perform [] =
      (renderAnew c ⟨false, false⟩ [] t name data).perform [] :=
    renderNoting_of_reached fun n hn => if_pos hn
  have hpace : (renderNoting (c.withTranslations enabled languages domain dir) x tr reading name
      data).perform [] = (renderNoting c ⟨false, false⟩ [] reading name data).perform [] :=
    (renderNoting_keepPace hreading name hdata).perform_eq []
  -- The other rendering reaches the same names, and reads the same for them.
  rw [renderAnew_eq, renderNoting_of_reached, hpace, hbase]
  intro n hn
  rw [hpace, hbase] at hn
  exact (hreached n hn).readAnew_eq.trans (if_pos hn).symm

/-! ## Engines -/

variable {extensions : Option Extensions} {translations : Option Translations} {w w₁ : World}
  {id : EngineId}

/-- A new engine renders what a rendering without translations comes to, if all that this reaches
    translates nothing. -/
theorem render_new_insulated (htidy : Tidy w.files) (hempty : NothingKept c w.files)
    (hmade : (create (c.withTranslations enabled languages domain dir) extensions
      translations).perform w = (.ok id, w₁)) (name : Value) {data : Bindings}
    (hdata : ∀ e ∈ data, e.2.FunctionFree)
    (hreached : ∀ n ∈ reached c ⟨false, false⟩ [] w.files name data,
      TranslatesNothing c w.files n) :
    ((render id name data).perform w₁).1 =
      ((renderAnew c ⟨false, false⟩ [] w.files name data).perform []).1 := by
  rcases create_cases hmade with ⟨e, hcreated, -⟩
  have hempty' : NothingKept (c.withTranslations enabled languages domain dir) w.files := hempty
  rw [hcreated.render (hempty'.sound htidy _), renderAnew_insulated name hdata hreached]

/-- The languages of a configuration are texts. -/
def NamesLanguages (c : Config) : Prop := ∃ names, languageNames c.languages = .ok names

theorem NamesLanguages.translationsFor_ok (h : NamesLanguages c) (files : Files)
    (x : Extensions) : ∃ tr, translationsFor files c x = .ok tr := by
  obtain ⟨names, hnames⟩ := h
  obtain ⟨items, hitems, -⟩ := exists_of_bind_eq_ok hnames
  unfold translationsFor translationsIn
  split
  · rw [hitems, hnames]
    exact ⟨_, rfl⟩
  · exact ⟨[], rfl⟩

theorem NamesLanguages.chooseTranslations_ok (h : NamesLanguages c) (x : Extensions)
    (given : Option Translations) (w : World) :
    ∃ tr w', w.Logged w' ∧ (chooseTranslations c x given).perform w = (.ok tr, w') := by
  cases given with
  | none =>
      obtain ⟨w', hlog, hchosen⟩ := chooseTranslations_perform c x w
      obtain ⟨tr, htr⟩ := h.translationsFor_ok w.files x
      exact ⟨tr, w', hlog, htr ▸ hchosen⟩
  | some tr =>
      unfold chooseTranslations
      split
      · exact ⟨tr, w, .refl w, rfl⟩
      · exact ⟨[], w, .refl w, rfl⟩

/-- Making an engine comes to an engine, or to what keeps its directory from being made. -/
theorem create_result (h : NamesLanguages c) : ((create c extensions translations).perform w).1 =
    ((prepareStore c).perform w).1.map fun _ => w.engines.length := by
  rcases hstore : (prepareStore c).perform w with ⟨f | store, u⟩
  · rw [create, Stateful.perform_bind_error hstore]
    rfl
  · obtain ⟨tr, v, hlog, htr⟩ := h.chooseTranslations_ok
      (extensions.getD (defaultExtensions c)) translations u
    obtain ⟨z, hmade, -⟩ := create_of_parts hstore hlog htr
    rw [hmade]
    rfl

/-- The settings for translations do not reach templates that translate nothing, neither themselves
    nor in what they include. Engines of two configurations that differ in these settings only,
    made where nothing is kept, render the same text or fail with the same fault, whatever the
    files and the data are, as long as there is no function among the data. An engine is made
    of the one configuration if it is of the other, provided that the languages of both are
    texts. -/
theorem render_insulated (htidy : Tidy w.files) (hempty : NothingKept c w.files) (name : Value)
    {data : Bindings} (hdata : ∀ e ∈ data, e.2.FunctionFree)
    (hreached : ∀ n ∈ reached c ⟨false, false⟩ [] w.files name data,
      TranslatesNothing c w.files n)
    (enabled languages domain : Value) (dir : Option Path)
    (extensions extensions' : Option Extensions)
    (translations translations' : Option Translations) :
    let c' := c.withTranslations enabled languages domain dir
    (∀ id id' w₁ w₁', (create c extensions translations).perform w = (.ok id, w₁) →
      (create c' extensions' translations').perform w = (.ok id', w₁') →
        ((render id name data).perform w₁).1 = ((render id' name data).perform w₁').1) ∧
    (NamesLanguages c → NamesLanguages c' →
      ((do render (← create c extensions translations) name data).perform w).1 =
        ((do render (← create c' extensions' translations') name data).perform w).1) := by
  intro c'
  have hmade (id id' : EngineId) (w₁ w₁' : World)
      (h : (create c extensions translations).perform w = (.ok id, w₁))
      (h' : (create c' extensions' translations').perform w = (.ok id', w₁')) :
      ((render id name data).perform w₁).1 = ((render id' name data).perform w₁').1 := by
    rw [render_new_insulated htidy hempty h' name hdata hreached]
    exact render_new_insulated htidy hempty h name hdata hreached
  refine ⟨hmade, fun hnames hnames' => ?_⟩
  -- If both name languages, making the engines ends in the same way as well.
  have hresult : ((create c extensions translations).perform w).1 =
      ((create c' extensions' translations').perform w).1 := by
    rw [create_result hnames, create_result hnames']
    rfl
  rcases h : (create c extensions translations).perform w with ⟨r, w₁⟩
  rcases h' : (create c' extensions' translations').perform w with ⟨r', w₁'⟩
  rw [h, h'] at hresult
  obtain rfl : r = r' := hresult
  cases r with
  | error f => rw [Stateful.perform_bind_error h, Stateful.perform_bind_error h']
  | ok id =>
      rw [Stateful.perform_bind_ok h, Stateful.perform_bind_ok h']
      exact hmade id id w₁ w₁' h h'

/-- A template that includes another one, and a German catalog with the text of the other. -/
def germanFiles : Files :=
  (textFiles [("templates/a.j2", "Hello"),
      ("templates/m.j2", including "a.j2" ++ ", \x7b\x7b name|upper \x7d\x7d")] 10).writeDeep
    (Path.ofString "locale/de/LC_MESSAGES/messages.mo")
    (.file (.catalog ⟨[("Hello", "Hallo")], [], [], none⟩) 10)

theorem germanFiles_edit : Files.Edit .empty germanFiles :=
  (textFiles_edit _ _).trans (Files.writeDeep_edit (textFiles_edit _ _).tidy _ rfl)

def germanWorld : World := .ofFiles germanFiles 0 "" ⟨.here, []⟩

/-- The default configuration with that catalog. -/
def german : Config :=
  Config.default.withTranslations (.bool true) (.list [.text "de"]) (.text "messages")
    (some (Path.ofString "locale"))

/-- Someone to greet. -/
def someone : Bindings := [("name", .text "Ada")]

/-- With the catalog and without translations the greeting is the same. -/
theorem render_insulated_german :
    ((do render (← create german none none) (.text "m") someone).perform germanWorld).1 =
        .ok "Hello, ADA" ∧
      ((do render (← create (german.withTranslations (.bool false) (.list []) (.text "other") none)
        none none) (.text "m") someone).perform germanWorld).1 = .ok "Hello, ADA" := by
  have hrendered : ((do render (← create german none none) (.text "m") someone).perform
      germanWorld).1 = .ok "Hello, ADA" := by
    decide +kernel
  have hdata : ∀ e ∈ someone, e.2.FunctionFree :=
    List.forall_mem_singleton.mpr (show (Value.text "Ada").FunctionFree from trivial)
  have hreached : ∀ n ∈ reached german ⟨false, false⟩ [] germanFiles (.text "m") someone,
      TranslatesNothing german germanFiles n := by
    decide +kernel
  have hempty : NothingKept german germanFiles :=
    (nothingKept_empty german).edit germanFiles_edit
  have hsame := render_insulated (w := germanWorld) germanFiles_edit.tidy hempty (.text "m")
    hdata hreached (.bool false) (.list []) (.text "other") none none none none none
  exact ⟨hrendered, (hsame.2 ⟨["de"], rfl⟩ ⟨[], rfl⟩).symm.trans hrendered⟩

end Engine

end Stencil
