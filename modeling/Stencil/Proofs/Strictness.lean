import Stencil.Proofs.Dating
import Stencil.Proofs.Failing
import Stencil.Proofs.Keeping
import Stencil.Proofs.Reaching
import Stencil.Proofs.Softening

/-!
# Engines that differ in strictness

Two engines that differ only in how strict undefined values are read the same files, and find
the same in the directory of compiled templates. What the strict one has for a name, compiled
by itself or kept by whomever, leads what the other one has. So a text that the strict engine
renders is rendered by the other one as well.

The one thing that can come between is a template that only the strict engine can compile. The
names that the strict rendering reaches are all that matter for this, since both renderings go
side by side.

## Main definitions

* `Config.withStrictness`: A configuration that differs in strictness.
* `Stumbles`: A template that can be compiled under one configuration and not under another.
* `ReadingLeads`: What is read for a strict engine leads what is read for another one.

## Theorems

* `readKept_yields`: What the directory and the files have for a name.
* `renderReading_leads_reached`: Rendering from what is read.
* `exists_create_later`: Such an engine can be made, and has the same directory.
* `rendered_less_strictly`: A text that is rendered strictly is rendered less strictly.
* `not_rendered_less_strictly`: Unless a template cannot be compiled.
-/

namespace Stencil

/-- A configuration with other strictness. -/
def Config.withStrictness (c : Config) (v : Value) : Config := { c with strictUndefined := v }

namespace Engine

open Files (Agree Tidy)
open Template (Yields StmtsLead)

variable {c : Config} {v : Value} {x : Extensions} {tr : Translations} {t : Files}
  {store : Option Path}

/-- A template that can be compiled under one configuration, and cannot under another one. -/
def Stumbles (c c' : Config) (x : Extensions) (t : Files) (n : String) (f : Fault) : Prop :=
  ∃ content modified body, fileOf? c t n = some (content, modified) ∧
    compiled c x n content = .ok body ∧ compiled c' x n content = .error f

theorem Stumbles.ofMarkup {c c' : Config} {n : String} {f : Fault} (h : Stumbles c c' x t n f) :
    f.OfMarkup := by
  obtain ⟨content, modified, body, -, hbody, hf⟩ := h
  obtain ⟨chars, hchars, -⟩ := exists_of_bind_eq_ok hbody
  rw [compiled, hchars] at hf
  exact Template.compile_fails chars f hf

/-- What is read for a strict engine and for one that is not: what is there for the one leads what
    is there for the other, and nothing is missing for one alone. -/
structure ReadingLeads (broken : Fault → Prop)
    (r r' : String → Except Fault (List Template.Stmt)) : Prop where
  yields : ∀ n, Yields broken StmtsLead (r n) (r' n)
  missing : ∀ n m searched, r n = .error (.includeMissing m searched) →
    r' n = .error (.includeMissing m searched)

/-- A template is missing whoever looks for it in a root, or it has a file. -/
theorem readKept_cases (c : Config) (store : Option Path) (t : Files) (n : String) :
    (∃ f, ∀ c' x, c'.templateRoot = c.templateRoot → readKept c' x store t n = .error f) ∨
      ∃ path content modified, fileOf? c t n = some (content, modified) ∧
        ∀ c' x, c'.templateRoot = c.templateRoot →
          readKept c' x store t n = keptContent c' x store t n path content := by
  cases hsegments : includeSegments? n with
  | none => exact .inl ⟨.includeMissing n none, fun c' x _ => by simp only [readKept, hsegments]⟩
  | some segments =>
      cases hfile : t.file? (includePath c segments) with
      | none =>
          refine .inl ⟨.includeMissing n (some c.templateRoot.text), fun c' x hroot => ?_⟩
          simp only [readKept, hsegments, includePath_eq hroot, hfile, hroot]
      | some r =>
          refine .inr ⟨includePath c segments, r.1, r.2, ?_, fun c' x hroot => ?_⟩
          · rw [fileOf?, hsegments]
            exact hfile
          · simp only [readKept, hsegments, includePath_eq hroot, hfile]

/-- What a file holds does not fail to compile as a missing template does. -/
theorem keptContent_ne_missing (n : String) (path : Path) (content : Content) (m : String)
    (searched : Option String) :
    keptContent c x store t n path content ≠ .error (.includeMissing m searched) := by
  intro h
  cases hchars : content.chars with
  | error f =>
      rw [keptContent, hchars] at h
      cases h
      unfold Content.chars at hchars
      split at hchars
      · cases hchars
      · split at hchars <;> cases hchars
      · cases hchars
  | ok chars =>
      rw [keptContent_of_chars hchars] at h
      split at h
      · cases h
      · rcases Template.compile_fails chars _ h with huse | ⟨line, hline⟩
        · exact huse
        · cases hline

/-- What does not fail where faults are reported in other words does not fail at all. -/
theorem ok_of_tryCatch {α : Type} {r : Except Fault α} {k : Fault → Fault} {y : α}
    (h : tryCatch r (fun f => throw (k f)) = .ok y) : r = .ok y := by
  cases r with
  | ok y' => exact h
  | error f => cases h

theorem renderingFault_cases (f : Fault) :
    renderingFault f = f ∨ renderingFault f = .rendering f := by
  unfold renderingFault
  split
  · exact .inr rfl
  · exact .inl rfl

theorem loadingFault_cases (path : Path) {f : Fault} (hf : f.OfMarkup) :
    loadingFault path f = f ∨ loadingFault path f = .rendering f := by
  rcases hf with huse | ⟨line, rfl⟩
  · cases f with
    | includeMissing n searched => exact huse.elim
    | markupSyntax line => exact huse.elim
    | _ => exact .inl rfl
  · exact .inr rfl

/-- A template that is missing for the one is missing for the other. -/
theorem readKept_missing (v : Value) {n m : String} {searched : Option String}
    (h : readKept c x store t n = .error (.includeMissing m searched)) :
    readKept (c.withStrictness v) x store t n = .error (.includeMissing m searched) := by
  rcases readKept_cases c store t n with ⟨f, hf⟩ | ⟨path, content, modified, hfile, hread⟩
  · rw [hf c x rfl] at h
    rw [hf (c.withStrictness v) x rfl, h]
  · rw [hread c x rfl] at h
    exact absurd h (keptContent_ne_missing n path content m searched)

section

variable (hstrict : c.isStrict = true) (hlenient : (c.withStrictness v).isStrict = false)

include hstrict hlenient

/-- What the directory and the files have for a name for the one leads what they have for the
    other, if that can be compiled. -/
theorem readKept_yields (n : String) :
    Yields (Stumbles c (c.withStrictness v) x t n) StmtsLead (readKept c x store t n)
      (readKept (c.withStrictness v) x store t n) := by
  rcases readKept_cases c store t n with ⟨f, hf⟩ | ⟨path, content, modified, hfile, hread⟩
  · rw [hf c x rfl]
    exact .error
  · rw [hread c x rfl, hread (c.withStrictness v) x rfl]
    cases hchars : content.chars with
    | error f =>
        rw [keptContent, hchars]
        exact .error
    | ok chars =>
        rw [keptContent_of_chars hchars, keptContent_of_chars hchars]
        cases stored? t store n (fileKey path) (String.ofList chars) with
        -- What is kept in the directory is the same for both, which share it.
        | some body => exact .ok (.refl body)
        | none =>
            have hcompiled (c' : Config) : compiled c' x n content =
                Template.compile ⟨c'.isStrict, n, x.tags⟩ chars := by
              rw [compiled, hchars]
              rfl
            have hsoft : Template.Settings.Softens ⟨c.isStrict, n, x.tags⟩
                ⟨(c.withStrictness v).isStrict, n, x.tags⟩ := ⟨hstrict, hlenient, rfl⟩
            intro body hbody
            cases hbody' : Template.compile ⟨(c.withStrictness v).isStrict, n, x.tags⟩ chars with
            | ok body' => exact .inl ⟨body', rfl, Template.compile_leads hsoft hbody hbody'⟩
            | error f =>
                exact .inr ⟨f, rfl, content, modified, body, hfile, (hcompiled c).trans hbody,
                  (hcompiled _).trans hbody'⟩

/-- Renderers that differ in strictness and in what they read. -/
theorem reader_softens {broken : Fault → Prop}
    {r r' : String → Except Fault (List Template.Stmt)} (h : ReadingLeads broken r r')
    (hbroken : ∀ f, broken f → f.OfMarkup) :
    (reader c x tr r).Softens broken (reader (c.withStrictness v) x tr r') where
  load n := (h.yields n).bind fun _ _ hbody => .ok ⟨rfl, hbody⟩
  missing n m searched hload := by
    have hr : r n = .error (.includeMissing m searched) := by
      cases hr : r n with
      | ok body =>
          change (do return ⟨n, ← r n⟩ : Except Fault Template.Program) = _ at hload
          rw [hr] at hload
          cases hload
      | error f =>
          change (do return ⟨n, ← r n⟩ : Except Fault Template.Program) = _ at hload
          rw [hr] at hload
          cases hload
          rfl
    show (do return ⟨n, ← r' n⟩ : Except Fault Template.Program) = _
    rw [h.missing n m searched hr]
    rfl
  broken_ne m searched hb := by
    rcases hbroken _ hb with huse | ⟨line, hline⟩
    · exact huse
    · cases hline
  strict := hstrict
  lenient := hlenient
  globals := rfl
  translations := rfl
  transFilter := rfl

/-- The text that a strict engine renders, one that is not strict renders as well, if it can
    compile the templates, and else this is how it fails. -/
theorem renderReading_leads {broken : Fault → Prop}
    {r r' : String → Except Fault (List Template.Stmt)} (h : ReadingLeads broken r r')
    (hbroken : ∀ f, broken f → f.OfMarkup) {name : Value} {data : Bindings} {text : String}
    (htext : renderReading c x tr r name data = .ok text) :
    renderReading (c.withStrictness v) x tr r' name data = .ok text ∨
      ∃ f, broken f ∧ (renderReading (c.withStrictness v) x tr r' name data = .error f ∨
        renderReading (c.withStrictness v) x tr r' name data = .error (.rendering f)) := by
  obtain ⟨⟨inner, body⟩, hload, htext⟩ := exists_of_bind_eq_ok htext
  obtain ⟨⟨path, _⟩, hinner, hload⟩ := exists_of_bind_eq_ok hload
  obtain ⟨_, hbody, hload⟩ := exists_of_bind_eq_ok hload
  cases hload
  have hinner' : innerName (c.withStrictness v) name = .ok (path, inner) := hinner
  -- The template itself may be one that cannot be compiled, or one that it includes.
  rcases h.yields inner body (ok_of_tryCatch hbody) with ⟨body', hbody', hlead⟩ | ⟨f, hf, hb⟩
  · have hrest : renderReading (c.withStrictness v) x tr r' name data =
        tryCatch (Template.render (reader (c.withStrictness v) x tr r') ⟨inner, body'⟩ data)
          fun f => throw (renderingFault f) := by
      rw [renderReading, loadReading, hinner']
      show (tryCatch (r' inner) _ >>= _) >>= _ = _
      rw [hbody']
      rfl
    have hsoft : (reader c x tr r).Softens broken (reader (c.withStrictness v) x tr r') :=
      reader_softens hstrict hlenient h hbroken
    have hprogram : Template.Program.Leads ⟨inner, body⟩ ⟨inner, body'⟩ := ⟨rfl, hlead⟩
    rw [hrest]
    rcases Template.render_yields hsoft hprogram data text (ok_of_tryCatch htext) with
      ⟨_, hsame, rfl⟩ | ⟨f, hf, hb⟩
    · rw [hsame]
      exact .inl rfl
    · rw [hf]
      exact .inr ⟨f, hb, (renderingFault_cases f).imp (congrArg Except.error)
        (congrArg Except.error)⟩
  · have hfails : renderReading (c.withStrictness v) x tr r' name data =
        .error (loadingFault path f) := by
      rw [renderReading, loadReading, hinner']
      show (tryCatch (r' inner) _ >>= _) >>= _ = _
      rw [hf]
      rfl
    rw [hfails]
    exact .inr ⟨f, hb, (loadingFault_cases path (hbroken f hb)).imp (congrArg Except.error)
      (congrArg Except.error)⟩

/-- It comes down to the templates of the names that the strict engine reaches. -/
theorem renderReading_leads_reached {broken : String → Fault → Prop}
    {r r' : String → Except Fault (List Template.Stmt)}
    (hyields : ∀ n, Yields (broken n) StmtsLead (r n) (r' n))
    (hmissing : ∀ n m searched, r n = .error (.includeMissing m searched) →
      r' n = .error (.includeMissing m searched))
    (hbroken : ∀ n f, broken n f → f.OfMarkup) {name : Value} {data : Bindings} {text : String}
    (htext : renderReading c x tr r name data = .ok text) :
    renderReading (c.withStrictness v) x tr r' name data = .ok text ∨
      ∃ n ∈ ((renderNoting c x tr r name data).perform []).2, ∃ f, broken n f ∧
        (renderReading (c.withStrictness v) x tr r' name data = .error f ∨
          renderReading (c.withStrictness v) x tr r' name data = .error (.rendering f)) := by
  generalize hnames : ((renderNoting c x tr r name data).perform []).2 = names
  -- What the strict engine has for other names may as well be out of reach.
  let within (n : String) : Except Fault (List Template.Stmt) :=
    if n ∈ names then r n else .error .tooDeep
  have hreached (s : String → Except Fault (List Template.Stmt)) (hs : ∀ n ∈ names, s n = r n) :
      renderReading c x tr s name data = ((renderNoting c x tr r name data).perform []).1 :=
    renderReading_of_reached fun n hn => hs n (hnames ▸ hn)
  have hwithin : renderReading c x tr within name data = .ok text := by
    rw [← htext, hreached within fun n hn => if_pos hn, hreached r fun _ _ => rfl]
  have hleads : ReadingLeads (fun f => ∃ n ∈ names, broken n f) within r' := by
    refine ⟨fun n => ?_, fun n m searched h => ?_⟩
    · by_cases hn : n ∈ names
      · rw [show within n = r n from if_pos hn]
        exact (hyields n).mono fun f hf => ⟨n, hn, hf⟩
      · rw [show within n = .error .tooDeep from if_neg hn]
        exact .error
    · by_cases hn : n ∈ names
      · exact hmissing n m searched ((if_pos hn).symm.trans h)
      · cases (if_neg hn).symm.trans h
  rcases renderReading_leads hstrict hlenient hleads (fun f ⟨n, _, hf⟩ => hbroken n f hf) hwithin
    with hsame | ⟨f, ⟨n, hn, hf⟩, hfails⟩
  · exact .inl hsame
  · exact .inr ⟨n, hn, f, hf, hfails⟩

end

/-! ## Engines -/

variable {extensions : Option Extensions} {translations : Option Translations} {w w₁ w₂ : World}
  {id : EngineId} {e : Engine}

/-- Making an engine does not depend on how strict it is. -/
theorem create_withStrictness (hmade : (create c extensions translations).perform w = (.ok id, w₁))
    (he : w₁.engine? id = some e) (v : Value) :
    ∃ w', (create (c.withStrictness v) extensions translations).perform w = (.ok id, w') ∧
      w'.engine? id = some { e with config := c.withStrictness v } ∧ w'.files = w₁.files := by
  rw [create] at hmade
  obtain ⟨store, u, hstore, hmade⟩ := Stateful.exists_of_perform_bind hmade
  obtain ⟨tr, u', htr, hmade⟩ := Stateful.exists_of_perform_bind hmade
  have hstore' : (prepareStore (c.withStrictness v)).perform w = (.ok store, u) := hstore
  have htr' : (chooseTranslations (c.withStrictness v)
      (extensions.getD (defaultExtensions (c.withStrictness v))) translations).perform u =
        (.ok tr, u') := htr
  rw [create, Stateful.perform_bind_ok hstore', Stateful.perform_bind_ok htr']
  cases hmade
  have hlast := he
  rw [World.engine?, List.getElem?_concat_length] at hlast
  obtain rfl := Option.some.inj hlast
  exact ⟨_, rfl, List.getElem?_concat_length, rfl⟩

/-- An engine has the directory that was made for it. -/
theorem prepareStore_of_create
    (hmade : (create c extensions translations).perform w = (.ok id, w₁))
    (he : w₁.engine? id = some e) : ∃ u, (prepareStore c).perform w = (.ok e.store, u) := by
  rw [create] at hmade
  obtain ⟨store, u, hstore, hmade⟩ := Stateful.exists_of_perform_bind hmade
  obtain ⟨tr, u', -, hmade⟩ := Stateful.exists_of_perform_bind hmade
  cases hmade
  rw [World.engine?, List.getElem?_concat_length] at he
  obtain rfl := Option.some.inj he
  exact ⟨u, hstore⟩

/-- Where an engine was made its directory is in place, or cannot be made, so an engine that is
    made later has the same. -/
theorem prepareStore_again (hw : Tidy w.files)
    (hmade : (create c extensions translations).perform w = (.ok id, w₁))
    (he : w₁.engine? id = some e) (hagree : Agree w₁.files w₂.files) :
    ∃ u, (prepareStore c).perform w₂ = (.ok e.store, u) ∧ u.files = w₂.files := by
  have hcreated := created_of_create hmade he
  rcases hcreated.store with ⟨hnone, hfiles⟩ | ⟨hsome, hroot, -⟩
  · obtain ⟨u, hstore⟩ := prepareStore_of_create hmade he
    obtain ⟨r, v, v', hv, hv', -⟩ := prepareStore_alike (c := c) (hfiles ▸ hagree)
    rw [hstore] at hv
    cases hv
    obtain ⟨-, -, ⟨-, hfiles'⟩ | ⟨hsome, -⟩⟩ := prepareStore_cases hv'
    · exact ⟨v', hv', hfiles'⟩
    · rw [hnone] at hsome
      cases hsome
  · have hdir : w₂.files.isDirectory c.cacheDir = .ok true :=
      (Files.agree_asks hagree _ _).symm.trans ((hcreated.serves hw).store _ hsome).2
    have hroot' : w₂.files.isDirectory c.templateRoot = .ok true :=
      (Files.agree_asks hagree _ _).symm.trans
        (Files.isDirectory_mono (hcreated.grown hw).directory hroot)
    obtain ⟨u, ⟨es, rfl⟩, hu⟩ := prepareStore_perform hdir
    rw [hroot'] at hu
    rw [hsome]
    exact ⟨{ w₂ with events := es ++ w₂.events }, hu, rfl⟩

/-- An engine that is less strict can be made later on, with the same extensions, translations
    and directory. -/
theorem exists_create_later (hw : Tidy w.files)
    (hmade : (create c extensions translations).perform w = (.ok id, w₁))
    (he : w₁.engine? id = some e) (hagree : Agree w₁.files w₂.files) (v : Value) :
    ∃ id' w', (create (c.withStrictness v) (some e.extensions) (some e.translations)).perform w₂ =
        (.ok id', w') ∧ w'.files = w₂.files ∧ ∃ e', w'.engine? id' = some e' ∧
          e'.extensions = e.extensions ∧ e'.translations = e.translations ∧ e'.store = e.store := by
  obtain ⟨u, hu, hfiles⟩ := prepareStore_again hw hmade he hagree
  have hu' : (prepareStore (c.withStrictness v)).perform w₂ = (.ok e.store, u) := hu
  have htr : (chooseTranslations (c.withStrictness v) e.extensions (some e.translations)).perform u =
      (.ok e.translations, u) := by
    unfold chooseTranslations
    split
    · rfl
    · rename_i hany
      rw [(created_of_create hmade he).translations (Bool.eq_false_iff.mpr hany)]
      rfl
  rw [create, Stateful.perform_bind_ok hu', Option.getD_some, Stateful.perform_bind_ok htr]
  exact ⟨_, _, rfl, hfiles, _, List.getElem?_concat_length, rfl, rfl, rfl⟩

/-- The names that the rendering of a new engine reaches. -/
def reachedNew (e : Engine) (t : Files) (name : Value) (data : Bindings) : List String :=
  ((renderNoting e.config e.extensions e.translations
    (readKept e.config e.extensions e.store t) name data).perform []).2

/-- A text, or else the fault of a template among some names that cannot be compiled under another
    configuration. The fault may be reported. -/
def TextOrStumble (c c' : Config) (x : Extensions) (t : Files) (names : List String)
    (text : String) (r : Except Fault String) : Prop :=
  r = .ok text ∨
    ∃ n ∈ names, ∃ f, Stumbles c c' x t n f ∧ (r = .error f ∨ r = .error (.rendering f))

/-- If an engine to which undefined values are strict renders a text, an engine to which they are
    not, and which is the same otherwise, renders the same text, whether it is made in place of
    the other one or after the other one is done. It may only come to a template that it cannot
    compile, although the other one can, and then it fails with that. -/
theorem rendered_less_strictly (hstrict : c.isStrict = true)
    (hlenient : (c.withStrictness v).isStrict = false) (hw : Tidy w.files)
    (hmade : (create c extensions translations).perform w = (.ok id, w₁))
    (he : w₁.engine? id = some e) {name : Value} {data : Bindings} {text : String}
    (htext : (render id name data).perform w₁ = (.ok text, w₂)) :
    (∃ w', (create (c.withStrictness v) extensions translations).perform w = (.ok id, w') ∧
      TextOrStumble c (c.withStrictness v) e.extensions w₁.files
        (reachedNew e w₁.files name data) text ((render id name data).perform w').1) ∧
    ∃ id' w', (create (c.withStrictness v) (some e.extensions) (some e.translations)).perform w₂ =
        (.ok id', w') ∧
      TextOrStumble c (c.withStrictness v) e.extensions w₁.files
        (reachedNew e w₁.files name data) text ((render id' name data).perform w').1 := by
  have hcreated := created_of_create hmade he
  obtain ⟨hrendered, hkeeps⟩ := hcreated.render_kept hw name data
  rw [htext] at hrendered hkeeps
  have hyields (n : String) : Yields (Stumbles c (c.withStrictness v) e.extensions w₁.files n)
      StmtsLead (readKept c e.extensions e.store w₁.files n)
      (readKept (c.withStrictness v) e.extensions e.store w₁.files n) :=
    readKept_yields hstrict hlenient n
  have hreached : reachedNew e w₁.files name data = ((renderNoting c e.extensions e.translations
      (readKept c e.extensions e.store w₁.files) name data).perform []).2 := by
    rw [reachedNew, hcreated.config]
  rw [hreached]
  constructor
  · obtain ⟨w', hmade', he', hfiles⟩ := create_withStrictness hmade he v
    have hcreated' := created_of_create hmade' he'
    refine ⟨w', hmade', ?_⟩
    rw [(hcreated'.render_kept hw name data).1, hfiles]
    exact renderReading_leads_reached hstrict hlenient hyields
      (fun _ _ _ h => readKept_missing v h) (fun _ _ hf => hf.ofMarkup) hrendered.symm
  · obtain ⟨id', w', hmade', hfiles, e', he', hx, htr, hstore⟩ :=
      exists_create_later hw hmade he hkeeps.agree v
    have hcreated' := created_of_create hmade' he'
    have hrendered' := (hcreated'.render_kept hkeeps.tidy name data).1
    rw [hx, htr, hstore, hfiles] at hrendered'
    refine ⟨id', w', hmade', ?_⟩
    rw [hrendered']
    -- What the strict engine has kept serves the other one as well.
    refine renderReading_leads_reached hstrict hlenient (fun n => ?_) (fun n m s h => ?_)
      (fun _ _ hf => hf.ofMarkup) hrendered.symm
    · rcases hkeeps.kept (c.withStrictness v) e.extensions n rfl with hsame | hsame
      · rw [hsame]
        exact .refl fun body => .refl body
      · rw [hsame]
        exact hyields n
    · rcases hkeeps.kept (c.withStrictness v) e.extensions n rfl with hsame | hsame
      · rw [hsame, h]
      · rw [hsame, readKept_missing v h]

/-- An undefined value that is replaced, bound to another name, and asked for elsewhere. -/
def passedOn : World :=
  .ofFiles (textFiles [("templates/a.j2", "\x7b\x7b x|default('y') \x7d\x7d\x7b% set z = x %\x7d" ++
    including "b.j2"), ("templates/b.j2", "\x7b\x7b z is defined \x7d\x7d")] 10) 0 "" ⟨.here, []⟩

/-- The world after an engine was made to which undefined values are strict. -/
def passedOnMade : World := ((create .default none none).perform passedOn).2

/-- The default configuration is strict, and this one is not. -/
def lenientConfig : Config := Config.default.withStrictness (.bool false)

/-- Nothing is done with the undefined value that a strict engine refuses. -/
theorem rendered_less_strictly_passedOn :
    ((render 0 (.text "a") []).perform passedOnMade).1 = .ok "yFalse" ∧
      ∃ w', (create lenientConfig none none).perform passedOn = (.ok 0, w') ∧
        TextOrStumble .default lenientConfig ⟨true, false⟩ passedOnMade.files
          (reachedNew ⟨.default, ⟨true, false⟩, [], some Config.default.cacheDir, []⟩
            passedOnMade.files (.text "a") [])
          "yFalse" ((render 0 (.text "a") []).perform w').1 := by
  have hmade : (create .default none none).perform passedOn = (.ok 0, passedOnMade) :=
    Prod.ext (by decide +kernel) rfl
  have he : passedOnMade.engine? 0 =
      some ⟨.default, ⟨true, false⟩, [], some Config.default.cacheDir, []⟩ := rfl
  have htext : ((render 0 (.text "a") []).perform passedOnMade).1 = .ok "yFalse" := by
    decide +kernel
  have hrendered : (render 0 (.text "a") []).perform passedOnMade =
      (.ok "yFalse", ((render 0 (.text "a") []).perform passedOnMade).2) := by rw [← htext]
  exact ⟨htext, (rendered_less_strictly (v := .bool false) (by decide) (by decide)
    (textFiles_edit _ _).tidy hmade he hrendered).1⟩

/-- A mapping that is put together when the template is compiled, if the length of an undefined
    value is known. The list cannot be a key, but nothing of it is ever reached. -/
def unreachedKey : World :=
  .ofFiles (textFiles [("templates/a.j2", "one\x7b% if false %\x7d\x7b\x7b " ++
    "-\x7b[]: [][0]|length\x7d \x7d\x7d\x7b% endif %\x7d")] 10) 0 "" ⟨.here, []⟩

/-- A strict engine may render a text where one that is not strict fails, because it cannot
    compile the template. -/
theorem not_rendered_less_strictly :
    ¬∀ (c : Config) (v : Value) (extensions : Option Extensions)
      (translations : Option Translations) (w w₁ w' : World) (id id' : EngineId) (name : Value)
      (data : Bindings) (text : String), c.isStrict = true →
      (c.withStrictness v).isStrict = false → Tidy w.files →
      (create c extensions translations).perform w = (.ok id, w₁) →
      (create (c.withStrictness v) extensions translations).perform w = (.ok id', w') →
      ((render id name data).perform w₁).1 = .ok text →
      ((render id' name data).perform w').1 = .ok text := by
  intro h
  have hmade : (create .default none none).perform unreachedKey =
      (.ok 0, ((create .default none none).perform unreachedKey).2) :=
    Prod.ext (by decide +kernel) rfl
  have hmade' : (create lenientConfig none none).perform unreachedKey =
      (.ok 0, ((create lenientConfig none none).perform unreachedKey).2) :=
    Prod.ext (by decide +kernel) rfl
  have htext : ((render 0 (.text "a") []).perform
      ((create .default none none).perform unreachedKey).2).1 = .ok "one" := by
    decide +kernel
  have hfails : ¬((render 0 (.text "a") []).perform
      ((create lenientConfig none none).perform unreachedKey).2).1 = .ok "one" := by
    decide +kernel
  exact hfails (h .default (.bool false) none none unreachedKey _ _ 0 0 (.text "a") [] "one"
    (by decide) (by decide) (textFiles_edit _ _).tidy hmade hmade' htext)

end Engine

end Stencil
