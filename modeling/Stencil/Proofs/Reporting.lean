import Stencil.Proofs.Coherence
import Stencil.Proofs.Confinement
import Stencil.Proofs.Erring

/-!
# What rendering reports

Whatever goes wrong, rendering by an engine is to fail with a fault of the library, which says
that there is no such template, or reports what went wrong inside. It is said here when that is
so. Three parties can fail: the name, which is made into a path; loading, by which the file of
the template is read, decoded, compiled and kept; and running what was loaded, with everything
that it includes. Each fails with faults of its own.

What running fails with is always reported, since it is never a request to end the program. So
an included template may be missing, not well formed, or no text at all. With the template that
is asked for it is not so. Of the faults of loading two kinds are caught, and the others come
through as they are: that of a file that is no text, that of a constant that cannot be computed,
and that of a directory of compiled templates which is gone. And nothing is caught of what goes
wrong with a name, unless it is refused as one.

## Main definitions

* `Engine.Rejected`: Values that are refused as names.
* `Engine.Unreadable`: Loading a template fails although its file is there.
* `Engine.NotFound`: There is no such template.
* `Engine.GoesWrong`: What is reported.
* `Engine.Unreported`: What is not.

## Theorems

* `Engine.fetch_fails`: The faults of loading are ordinary ones.
* `Engine.Unreadable.fetch`, `Engine.fetch_ends`: When loading fails, and with what.
* `Engine.fileOf?_innerName`: The file of a name is its compiled candidate.
* `Engine.render_reports`: What rendering fails with.
* `Engine.not_every_failure_reported`: It does not report everything.
-/

namespace Stencil

/-- The faults of loading a template by the name that inclusions use. -/
inductive Fault.OfLoading : Fault → Prop
  | markup {f : Fault} (h : f.OfMarkup) : OfLoading f
  | missing (name : String) (searched : Option String) : OfLoading (.includeMissing name searched)
  | undecodable (d : Text.Utf8.Fault) : OfLoading (.decoding d)
  | unkept (path : String) : OfLoading (.system .missing path)

/-- What goes wrong in loading is no request to end the program, and no report. -/
theorem Fault.OfLoading.kinds {f : Fault} (h : f.OfLoading) :
    f.isOrdinary = true ∧ f.kind ≠ "TemplateNotFoundError" ∧ f.kind ≠ "TemplateRenderError" := by
  have hkinds : ∀ k ∈ ["UndefinedError", "TypeError", "ValueError", "KeyError", "ZeroDivisionError",
      "OverflowError", "TemplateRuntimeError", "RecursionError", "TemplateSyntaxError",
      "TemplateNotFound", "UnicodeDecodeError", "UnicodeError", "FileNotFoundError"],
      Kind.isA k "Exception" = true ∧ k ≠ "TemplateNotFoundError" ∧ k ≠ "TemplateRenderError" := by
    decide
  refine hkinds f.kind ?_
  rcases h with ⟨h | ⟨line, rfl⟩⟩ | ⟨name, searched⟩ | d | path
  · cases f <;> first | exact h.elim | exact List.mem_of_elem_eq_true rfl
  all_goals exact List.mem_of_elem_eq_true rfl

namespace Engine

variable {w : World} {id : EngineId} {e : Engine} {n : String}

/-! ## Loading -/

/-- The template of a name is not remembered, and its file has a content. -/
structure Opens (w : World) (e : Engine) (n : String) (p : Path) (content : Content) : Prop where
  fresh : e.remembered? w.files n = none
  path : includedFile? e.config n = some p
  file : ∃ m, w.files.file? p = some (content, m)

/-- Loading the template of a name fails although its file is there: the file is no text, its
    text is new and does not compile, or what it compiles to cannot be kept. -/
inductive Unreadable (w : World) (e : Engine) (n : String) : Fault → Prop
  | undecodable {p : Path} {content : Content} {f : Fault} (h : Opens w e n p content)
      (hf : content.chars = .error f) : Unreadable w e n f
  | uncompiled {p : Path} {content : Content} {chars : List Char} {f : Fault}
      (h : Opens w e n p content) (hchars : content.chars = .ok chars)
      (hnew : stored? w.files e.store n (fileKey p) (String.ofList chars) = none)
      (hf : Template.compile (e.settings n) chars = .error f) : Unreadable w e n f
  | unkept {p dir : Path} {content : Content} {chars : List Char} {body : List Template.Stmt}
      (h : Opens w e n p content) (hchars : content.chars = .ok chars)
      (hnew : stored? w.files e.store n (fileKey p) (String.ofList chars) = none)
      (hbody : Template.compile (e.settings n) chars = .ok body) (hdir : e.store = some dir)
      (hgone : w.files.isDirectory dir ≠ .ok true) : Unreadable w e n (.system .missing dir.text)

/-- The fault of a template whose file is not there. -/
def missingFault (c : Config) (n : String) : Fault :=
  .includeMissing n ((includeSegments? n).map fun _ => c.templateRoot.text)

theorem chars_fails (content : Content) {f : Fault} (h : content.chars = .error f) :
    ∃ d, f = .decoding d := by
  cases content with
  | bytes bs =>
      rw [Content.chars] at h
      split at h
      · cases h
      · exact ⟨_, (Except.error.inj h).symm⟩
  | _ => cases h

theorem Unreadable.ofLoading {f : Fault} (h : Unreadable w e n f) : f.OfLoading := by
  rcases h with ⟨-, hf⟩ | ⟨-, -, -, hf⟩ | _
  · obtain ⟨d, rfl⟩ := chars_fails _ hf
    exact .undecodable d
  · exact .markup (Template.compile_fails _ f hf)
  · exact .unkept _

theorem Unreadable.ne_missing {f : Fault} (h : Unreadable w e n f) (name : String)
    (searched : Option String) : f ≠ .includeMissing name searched := by
  rintro rfl
  rcases h with ⟨-, hf⟩ | ⟨-, -, -, hf⟩
  · obtain ⟨d, hd⟩ := chars_fails _ hf
    cases hd
  · rcases Template.compile_fails _ _ hf with h | ⟨line, h⟩
    · exact h
    · cases h

/-- Keeping a compiled template fails if the directory is gone. -/
theorem keepStored_gone {store : Option Path} {dir : Path} (hdir : store = some dir)
    (hgone : w.files.isDirectory dir ≠ .ok true) (name file text : String)
    (body : List Template.Stmt) :
    (keepStored store name file text body).perform w = (.error (.system .missing dir.text), w) := by
  subst hdir
  simp only [keepStored]
  rw [Stateful.perform_bind_ok (Stateful.perform_get w)]
  split
  · rename_i hin
    exact absurd hin hgone
  · rfl

/-- If there is one, and it is not gone, then keeping succeeds. -/
theorem keepStored_ends (w : World) (store : Option Path) (name file text : String)
    (body : List Template.Stmt) :
    (∃ t, (keepStored store name file text body).perform w = (.ok (), { w with files := t })) ∨
      ∃ dir, store = some dir ∧ w.files.isDirectory dir ≠ .ok true := by
  cases store with
  | none => exact .inl ⟨w.files, rfl⟩
  | some dir =>
      by_cases hdir : w.files.isDirectory dir = .ok true
      · obtain ⟨-, l, hl, -⟩ := Files.isDirectory_iff.mp hdir
        have hat : storedAt? w.files (some dir) name file = some (l ++ [storedName name file]) := by
          simp only [storedAt?, Option.bind_eq_bind, Option.bind_some, hl]
        refine .inl ⟨w.files.put (l ++ [storedName name file])
          (.file (.compiled name file text body) w.clock), ?_⟩
        simp only [keepStored]
        rw [Stateful.perform_bind_ok (Stateful.perform_get w), hat, hdir]
        rfl
      · exact .inr ⟨dir, rfl, hdir⟩

/-- Loading a template whose file is there reads its content. -/
theorem Opens.fetch {p : Path} {content : Content} (h : Opens w e n p content)
    (hid : w.engine? id = some e) :
    ∃ m, (fetch id n).perform w = (loadContent id e n p content m).perform w := by
  obtain ⟨m, hfile⟩ := h.file
  obtain ⟨segments, hsegments, rfl⟩ := Option.map_eq_some_iff.mp h.path
  refine ⟨m, ?_⟩
  rw [fetch_perform hid, h.fresh]
  simp only [loadFresh, hsegments]
  rw [Stateful.perform_bind_ok (Stateful.perform_get w), hfile]

/-- Loading fails with what keeps a template from being read, and changes nothing. -/
theorem Unreadable.fetch {f : Fault} (h : Unreadable w e n f) (hid : w.engine? id = some e) :
    (fetch id n).perform w = (.error f, w) := by
  rcases h with ⟨hopens, hf⟩ | ⟨hopens, hchars, hnew, hf⟩ | ⟨hopens, hchars, hnew, hbody, hdir, hgone⟩
  all_goals
    obtain ⟨m, hfetch⟩ := hopens.fetch hid
    rw [hfetch, loadContent]
  · rw [hf]
    rfl
  · rw [hchars, Stateful.perform_bind_ok (Act.perform_ofExcept _ w), statements]
    refine Stateful.perform_bind_error ?_ _
    rw [Stateful.perform_bind_ok (Stateful.perform_get w), hnew, hf]
    rfl
  · rw [hchars, Stateful.perform_bind_ok (Act.perform_ofExcept _ w), statements]
    refine Stateful.perform_bind_error ?_ _
    rw [Stateful.perform_bind_ok (Stateful.perform_get w), hnew, hbody]
    simp only
    rw [Stateful.perform_bind_ok (Act.perform_ofExcept _ w)]
    exact Stateful.perform_bind_error (keepStored_gone hdir hgone ..) _

/-- A loaded template is kept in the memory of the engine, which stays. -/
theorem keepLoaded_ends (hid : w.engine? id = some e) (t : Files) (n : String)
    (body : List Template.Stmt) (m : Nat) :
    ∃ l w' e', (keepLoaded id n body m).perform { w with files := t } = (.ok l, w') ∧
      w'.engine? id = some e' := by
  refine ⟨_, _, { e with memory := Memory.keep e.memory n ⟨body, m, w.loads⟩ },
    keepLoaded_perform hid t n body m, ?_⟩
  have hlt := (List.getElem?_eq_some_iff.mp hid).1
  exact List.getElem?_set_self hlt

/-- Reading a content ends with a template, or fails for one of the reasons. -/
theorem loadContent_ends {p : Path} {content : Content} (h : Opens w e n p content)
    (hid : w.engine? id = some e) (m : Nat) :
    (∃ l w' e', (loadContent id e n p content m).perform w = (.ok l, w') ∧
      w'.engine? id = some e') ∨ ∃ f, Unreadable w e n f := by
  rw [loadContent]
  cases hchars : content.chars with
  | error f => exact .inr ⟨f, .undecodable h hchars⟩
  | ok chars =>
      rw [Stateful.perform_bind_ok (Act.perform_ofExcept _ w)]
      cases hnew : stored? w.files e.store n (fileKey p) (String.ofList chars) with
      | some body =>
          have hfound : (statements e n (fileKey p) chars).perform w = (.ok body, w) := by
            rw [statements, Stateful.perform_bind_ok (Stateful.perform_get w), hnew]
            rfl
          rw [Stateful.perform_bind_ok hfound]
          exact .inl (keepLoaded_ends hid w.files n body m)
      -- Nothing is kept for this text, so it is compiled and then kept, which may fail as well.
      | none =>
          cases hbody : Template.compile (e.settings n) chars with
          | error f => exact .inr ⟨f, .uncompiled h hchars hnew hbody⟩
          | ok body =>
              rcases keepStored_ends w e.store n (fileKey p) (String.ofList chars) body with
                ⟨t, hkept⟩ | ⟨dir, hdir, hgone⟩
              · have hcompiled : (statements e n (fileKey p) chars).perform w =
                    (.ok body, { w with files := t }) := by
                  rw [statements, Stateful.perform_bind_ok (Stateful.perform_get w), hnew, hbody]
                  simp only
                  rw [Stateful.perform_bind_ok (Act.perform_ofExcept _ w),
                    Stateful.perform_bind_ok hkept]
                  rfl
                rw [Stateful.perform_bind_ok hcompiled]
                exact .inl (keepLoaded_ends hid t n body m)
              · exact .inr ⟨_, .unkept h hchars hnew hbody hdir hgone⟩

/-- Loading fails if the file is not there, and changes nothing. -/
theorem fetch_missing (hid : w.engine? id = some e) (h : fileOf? e.config w.files n = none) :
    (fetch id n).perform w = (.error (missingFault e.config n), w) := by
  have hfresh : e.remembered? w.files n = none := by
    cases hsegments : includeSegments? n with
    | none => cases hmem : Memory.find? e.memory n <;> simp [remembered?, hmem, hsegments]
    | some segments =>
        rw [fileOf?, hsegments] at h
        cases hmem : Memory.find? e.memory n with
        | none => simp [remembered?, hmem]
        | some l => simp [remembered?, hmem, hsegments, show w.files.file? _ = none from h]
  rw [fetch_perform hid, hfresh, missingFault]
  simp only [loadFresh]
  cases hsegments : includeSegments? n with
  | none => rfl
  | some segments =>
      rw [fileOf?, hsegments] at h
      simp only
      rw [Stateful.perform_bind_ok (Stateful.perform_get w),
        show w.files.file? (includePath e.config segments) = none from h]
      rfl

/-- Loading ends with a template, or fails because the file is not there, or for one of the
    reasons. -/
theorem fetch_ends (hid : w.engine? id = some e) (n : String) :
    (∃ l w' e', (fetch id n).perform w = (.ok l, w') ∧ w'.engine? id = some e') ∨
      fileOf? e.config w.files n = none ∨ ∃ f, Unreadable w e n f := by
  cases hmem : e.remembered? w.files n with
  | some l => exact .inl ⟨l, w, e, by rw [fetch_perform hid, hmem], hid⟩
  | none =>
      cases hfile : fileOf? e.config w.files n with
      | none => exact .inr (.inl rfl)
      | some file =>
          obtain ⟨content, m⟩ := file
          obtain ⟨segments, hsegments, hfile⟩ := Option.bind_eq_some_iff.mp hfile
          have hopens : Opens w e n (includePath e.config segments) content :=
            ⟨hmem, by rw [includedFile?, hsegments]; rfl, m, hfile⟩
          obtain ⟨m, hfetch⟩ := hopens.fetch hid
          rw [hfetch]
          exact (loadContent_ends hopens hid m).imp_right .inr

/-- The faults of loading are ordinary ones. -/
theorem fetch_fails (id : EngineId) (n : String) : Stateful.Fails Fault.OfLoading (fetch id n) := by
  intro w
  cases hid : w.engine? id with
  | none =>
      rw [fetch, Stateful.perform_bind_error (find_missing hid)]
      exact .error (.markup (.inl trivial))
  | some e =>
      rcases fetch_ends hid n with ⟨l, w', e', hl, -⟩ | hnone | ⟨f, hf⟩
      · rw [hl]
        exact .ok
      · rw [fetch_missing hid hnone]
        exact .error (.missing ..)
      · rw [hf.fetch hid]
        exact .error hf.ofLoading

/-- Running a template fails of how values are used, or as loading what it includes fails. -/
theorem run_fails (id : EngineId) (e : Engine) (q : Template.Program) (data : Bindings) :
    Stateful.Fails Fault.OfLoading (Template.render (renderer id e) q data) :=
  Template.render_fails (fun _ h => .markup (.inl h))
    (fun n => (fetch_fails id n).bind fun _ => .pure _) q data

/-! ## Names -/

variable {c : Config} {name : Value} {data : Bindings} {p : Path} {f : Fault}

/-- The values that are refused as names: texts that are no names of templates, and whatever
    counts as false. -/
def Rejected : Value → Prop
  | .text s => Refused s
  | v => Value.isTrue v.truth = false

theorem cleanValue_rejected (h : Rejected name) :
    ∃ f, Resolution.cleanValue name = .error f ∧ f.kind = "TemplateNotFoundError" := by
  cases name with
  | text s => exact Resolution.cleanName_refused h
  | _ =>
      refine ⟨.emptyName, ?_, rfl⟩
      unfold Resolution.cleanValue
      exact if_neg (Bool.eq_false_iff.mp h)

theorem innerName_rejected (h : Resolution.cleanValue name = .error f) :
    innerName c name = .error f := by
  simp only [innerName, templatePath, Resolution.candidates, h]
  rfl

/-- A value that is not refused as a name fails as no name of a template does. -/
theorem innerName_misnamed (hname : ¬Rejected name) (h : innerName c name = .error f) :
    f.kind = "ValueError" ∨ f.kind = "AttributeError" := by
  cases name with
  | text s =>
      left
      cases hcs : Resolution.candidates c.templateRoot (.text s) c.extensions with
      | error g =>
          rw [innerName, templatePath, hcs] at h
          cases h
          exact Resolution.candidates_error hname hcs
      | ok cs =>
          rw [innerName, templatePath, hcs] at h
          -- The path is there, so it is the root that cannot be taken off.
          cases hrelative : cs.1.path.relativeTo c.templateRoot with
          | ok q => simp [bind, Except.bind, pure, Except.pure, hrelative] at h
          | error g =>
              have hg : g = f := by
                simpa [bind, Except.bind, pure, Except.pure, hrelative] using h
              rw [Path.relativeTo] at hrelative
              split at hrelative
              · cases hrelative
              · cases hrelative
                exact hg ▸ rfl
  | _ =>
      right
      -- What is no text and does not count as false has nothing to trim.
      have htrue := (Bool.not_eq_false _).mp hname
      simp only [innerName, templatePath, Resolution.candidates, Resolution.cleanValue, htrue] at h
      cases h
      rfl

/-- The path of a name and what is left of it behind the root. -/
theorem relativeTo_of_innerName (h : innerName c name = .ok (p, n)) :
    templatePath c name = .ok p ∧ ∃ q, p.relativeTo c.templateRoot = .ok q ∧ q.text = n := by
  rw [innerName] at h
  obtain ⟨p', hp, h⟩ := exists_of_bind_eq_ok h
  obtain ⟨q, hq, h⟩ := exists_of_bind_eq_ok h
  cases h
  exact ⟨hp, q, hq, rfl⟩

/-- The file by which loading knows a name is the compiled candidate, unless a slash in the
    extension makes a directory of it. -/
theorem fileOf?_innerName (hc : c.Sound) (hslash : '/' ∉ c.compiledExtension.toList) {s : String}
    (h : innerName c (.text s) = .ok (p, n)) (t : Files) : fileOf? c t n = t.file? p := by
  obtain ⟨hpath, q, hq, hn⟩ := relativeTo_of_innerName h
  rw [templatePath] at hpath
  obtain ⟨⟨a, b⟩, hcs, ha⟩ := exists_of_bind_eq_ok hpath
  obtain rfl : a.path = p := Except.ok.inj ha
  rcases (hc.candidates_cases hcs).2 with ⟨-, hlen, -⟩ | ⟨pre, m, hname, -, -, rfl, -⟩
  · -- A candidate that is as long as the root and starts with it is the root.
    rw [Path.relativeTo] at hq
    split at hq
    · rename_i hstarts
      rw [Bool.and_eq_true, decide_eq_true_eq, List.isPrefixOf_iff_prefix] at hstarts
      have hparts := hstarts.2.eq_of_length hlen.symm
      have hroot : a.path = c.templateRoot :=
        calc a.path = ⟨a.path.anchor, a.path.parts⟩ := rfl
          _ = ⟨c.templateRoot.anchor, c.templateRoot.parts⟩ := by rw [hstarts.1, hparts]
      cases hq
      rw [hroot, List.drop_length] at hn
      subst hn
      rw [fileOf?, hroot]
      simp [includePath, show includeSegments? (Path.text ⟨.here, []⟩) = some [] by decide]
    · cases hq
  -- A candidate with a segment behind the root is found again by that segment.
  · have hdots := dots_not_mem_of_segments (hc.candidates_cases hcs).1 hname hc.compiled
    obtain ⟨n', hinner, hincluded⟩ := innerName_of_under (by rw [templatePath]; exact hpath) rfl
      (isSegment_of_nameSegments hname hc.compiled hslash) hdots (by simp)
    obtain rfl : n = n' := by
      rw [h] at hinner
      cases hinner
      rfl
    obtain ⟨segments, hsegments, hp⟩ := Option.map_eq_some_iff.mp hincluded
    rw [fileOf?, hsegments, ← hp]
    rfl

/-! ## Reports -/

/-- There is no such template: the name is refused, or the file is not there by which loading
    knows it. -/
inductive NotFound (w : World) (e : Engine) (name : Value) : Fault → Prop
  | rejected {f : Fault} (hname : Rejected name) (hf : Resolution.cleanValue name = .error f) :
      NotFound w e name f
  | missing {p : Path} {n : String} (hname : innerName e.config name = .ok (p, n))
      (hfile : fileOf? e.config w.files n = none) :
      NotFound w e name (.templateMissing p.text (some (missingFault e.config n)))

/-- The event that a template is run. -/
def runEvent (name : Value) (data : Bindings) : Event :=
  ⟨.info, source, "rendering_compiled_template",
    [("name", name), ("context_keys", .list (data.keys.map Value.text))]⟩

/-- What goes wrong inside: the text of the template is not well formed, or running the template
    that was loaded fails. -/
inductive GoesWrong (w : World) (id : EngineId) (e : Engine) (name : Value) (data : Bindings) :
    Fault → Prop
  | malformed {p : Path} {n : String} {line : Nat} (hname : innerName e.config name = .ok (p, n))
      (h : Unreadable w e n (.markupSyntax line)) : GoesWrong w id e name data (.markupSyntax line)
  | running {n : String} {l : Loaded} {w' : World} {e' : Engine} {f : Fault}
      (hload : (load id name).perform w = (.ok (n, l), w')) (hid : w'.engine? id = some e')
      (hf : ((Template.render (renderer id e') ⟨n, l.body⟩ data).perform
        (w'.log (runEvent name data))).1 = .error f) : GoesWrong w id e name data f

/-- What comes through as it is: a fault of the path of a name that is not refused, and a fault
    of loading the template that is asked for, if it is not that its text is not well formed. -/
inductive Unreported (w : World) (e : Engine) (name : Value) : Fault → Prop
  | misnamed {f : Fault} (hname : ¬Rejected name) (hf : innerName e.config name = .error f) :
      Unreported w e name f
  | unreadable {p : Path} {n : String} {f : Fault} (hname : innerName e.config name = .ok (p, n))
      (h : Unreadable w e n f) (hf : ∀ line, f ≠ .markupSyntax line) : Unreported w e name f

theorem NotFound.kind_eq (h : NotFound w e name f) : f.kind = "TemplateNotFoundError" := by
  cases h with
  | rejected hname hf =>
      obtain ⟨g, hg, hkind⟩ := cleanValue_rejected hname
      rw [hf] at hg
      cases hg
      exact hkind
  | missing => rfl

theorem Unreported.kind_ne (h : Unreported w e name f) :
    f.kind ≠ "TemplateNotFoundError" ∧ f.kind ≠ "TemplateRenderError" := by
  cases h with
  | misnamed hname hf =>
      rcases innerName_misnamed hname hf with h | h <;> rw [h] <;> decide
  | unreadable _ h _ => exact h.ofLoading.kinds.2

/-- A fault of loading is reported in the words for it. -/
theorem reportLoading_perform (name : Value) (p : Path) (f : Fault) (w : World) :
    ((reportLoading name p f).perform w).1 = .error (loadingFault p f) := by
  cases f <;> rfl

theorem load_misnamed (hid : w.engine? id = some e) (h : innerName e.config name = .error f) :
    (load id name).perform w = (.error f, w) := by
  rw [load, Stateful.perform_bind_ok (find_perform hid), h]
  rfl

/-- Loading a template by its name fails with the report of what loading it by the name that
    inclusions use fails with. -/
theorem load_unfetched (hid : w.engine? id = some e)
    (hname : innerName e.config name = .ok (p, n))
    (hf : (fetch id n).perform w = (.error f, w)) :
    ((load id name).perform w).1 = .error (loadingFault p f) := by
  have hcaught : ((tryCatch (fetch id n) (reportLoading name p)).perform w).1 =
      .error (loadingFault p f) := by
    rw [Stateful.perform_tryCatch, hf]
    exact reportLoading_perform name p f w
  rw [load, Stateful.perform_bind_ok (find_perform hid), hname,
    Stateful.perform_bind_ok (Act.perform_ofExcept _ w)]
  exact Stateful.perform_bind_of_error hcaught _

theorem load_fetched {l : Loaded} {w' : World} (hid : w.engine? id = some e)
    (hname : innerName e.config name = .ok (p, n))
    (hl : (fetch id n).perform w = (.ok l, w')) :
    (load id name).perform w = (.ok (n, l), w') := by
  have hcaught : (tryCatch (fetch id n) (reportLoading name p)).perform w = (.ok l, w') := by
    rw [Stateful.perform_tryCatch, hl]
  rw [load, Stateful.perform_bind_ok (find_perform hid), hname,
    Stateful.perform_bind_ok (Act.perform_ofExcept _ w)]
  simp only
  rw [Stateful.perform_bind_ok hcaught]
  rfl

/-- What loading fails with rendering fails with. -/
theorem render_unloaded (h : ((load id name).perform w).1 = .error f) (data : Bindings) :
    ((render id name data).perform w).1 = .error f :=
  Stateful.perform_bind_of_error h _

/-- A template that is loaded gives its text or a report of what running it fails with. -/
theorem render_loaded {l : Loaded} {w' : World} {e' : Engine}
    (hload : (load id name).perform w = (.ok (n, l), w')) (hid : w'.engine? id = some e')
    (data : Bindings) :
    ((render id name data).perform w).1 =
      ((Template.render (renderer id e') ⟨n, l.body⟩ data).perform
        (w'.log (runEvent name data))).1.mapError .rendering := by
  have hfails := run_fails id e' ⟨n, l.body⟩ data (w'.log (runEvent name data))
  rw [render, Stateful.perform_bind_ok hload]
  simp only
  rw [Stateful.perform_bind_ok (find_perform hid),
    Stateful.perform_bind_ok (Act.perform_log _ _ _ _ w'), Stateful.perform_tryCatch]
  -- What running fails with is an ordinary fault, so it is reported.
  rw [← runEvent]
  cases hrun : (Template.render (renderer id e') ⟨n, l.body⟩ data).perform
      (w'.log (runEvent name data)) with
  | mk r w'' =>
      cases r with
      | ok text => rfl
      | error f =>
          rw [hrun] at hfails
          simp only [reportRendering, (hfails f rfl).kinds.1]
          rfl

/-- That there is no such template is what rendering fails with. -/
theorem NotFound.render (h : NotFound w e name f) (hid : w.engine? id = some e)
    (data : Bindings) : ((render id name data).perform w).1 = .error f := by
  cases h with
  | rejected _ hf =>
      exact render_unloaded (congrArg Prod.fst (load_misnamed hid (innerName_rejected hf))) data
  | missing hname hfile =>
      exact render_unloaded (load_unfetched hid hname (fetch_missing hid hfile)) data

/-- What goes wrong inside is reported. -/
theorem GoesWrong.render (h : GoesWrong w id e name data f) (hid : w.engine? id = some e) :
    ((render id name data).perform w).1 = .error (.rendering f) := by
  cases h with
  | malformed hname h => exact render_unloaded (load_unfetched hid hname (h.fetch hid)) data
  | running hload hid' hf =>
      rw [render_loaded hload hid' data, hf]
      rfl

/-- What is not reported comes through as it is. -/
theorem Unreported.render (h : Unreported w e name f) (hid : w.engine? id = some e)
    (data : Bindings) : ((render id name data).perform w).1 = .error f := by
  cases h with
  | misnamed _ hf => exact render_unloaded (congrArg Prod.fst (load_misnamed hid hf)) data
  | @unreadable p n _ hname h hmalformed =>
      have hsame : loadingFault p f = f := by
        cases f with
        | includeMissing m searched => exact absurd rfl (h.ne_missing m searched)
        | markupSyntax line => exact absurd rfl (hmalformed line)
        | _ => rfl
      exact render_unloaded (hsame ▸ load_unfetched hid hname (h.fetch hid)) data

/-- Rendering ends with a text, or for one of these reasons. -/
theorem render_ends (hid : w.engine? id = some e) (name : Value) (data : Bindings) :
    (∃ text, ((render id name data).perform w).1 = .ok text) ∨ (∃ f, NotFound w e name f) ∨
      (∃ f, GoesWrong w id e name data f) ∨ ∃ f, Unreported w e name f := by
  cases hname : innerName e.config name with
  | error f =>
      by_cases hrejected : Rejected name
      · obtain ⟨g, hg, -⟩ := cleanValue_rejected hrejected
        exact .inr (.inl ⟨g, .rejected hrejected hg⟩)
      · exact .inr (.inr (.inr ⟨f, .misnamed hrejected hname⟩))
  | ok r =>
      obtain ⟨p, n⟩ := r
      rcases fetch_ends hid n with ⟨l, w', e', hl, hid'⟩ | hfile | ⟨f, hf⟩
      · -- The template is loaded, so what is left is to run it.
        have hload := load_fetched hid hname hl
        cases hrun : ((Template.render (renderer id e') ⟨n, l.body⟩ data).perform
            (w'.log (runEvent name data))).1 with
        | ok text =>
            left
            rw [render_loaded hload hid' data, hrun]
            exact ⟨text, rfl⟩
        | error f => exact .inr (.inr (.inl ⟨f, .running hload hid' hrun⟩))
      · exact .inr (.inl ⟨_, .missing hname hfile⟩)
      -- A text that is no template is reported like a failing run. Other faults of loading are not.
      · by_cases hmalformed : ∃ line, f = .markupSyntax line
        · obtain ⟨line, rfl⟩ := hmalformed
          exact .inr (.inr (.inl ⟨_, .malformed hname hf⟩))
        · exact .inr (.inr (.inr ⟨f, .unreadable hname hf fun line hline =>
            hmalformed ⟨line, hline⟩⟩))

/-- Rendering gives a text, or fails in one of three ways. It says that the template is not
    found exactly if the name is refused or the file is not there, which is the compiled candidate
    of the name, unless the extension has a slash. It reports, with the message and as its cause,
    exactly what goes wrong when the text of the template is taken apart and when the template is
    run, with all that it includes. It fails with a fault of another kind exactly if that is a
    fault of the path of a name, or one of loading the template that is asked for. -/
theorem render_reports (hid : w.engine? id = some e) (name : Value) (data : Bindings) (f : Fault) :
    (((render id name data).perform w).1 = .error f ∧ f.kind = "TemplateNotFoundError" ↔
        NotFound w e name f) ∧
      (((render id name data).perform w).1 = .error f ∧ f.kind = "TemplateRenderError" ↔
        ∃ g, GoesWrong w id e name data g ∧ f = .rendering g ∧ f.message = g.message ∧
          f.cause? = some g) ∧
      (((render id name data).perform w).1 = .error f ∧ f.kind ≠ "TemplateNotFoundError" ∧
          f.kind ≠ "TemplateRenderError" ↔ Unreported w e name f) ∧
      ∀ s p n, name = .text s → e.config.Sound → '/' ∉ e.config.compiledExtension.toList →
        innerName e.config name = .ok (p, n) →
        fileOf? e.config w.files n = w.files.file? p := by
  -- Rendering ends in one of four ways, and each is what it fails with, so a fault is of one of
  -- three kinds.
  have hcases : ((render id name data).perform w).1 = .error f → NotFound w e name f ∨
      (∃ g, GoesWrong w id e name data g ∧ f = .rendering g) ∨ Unreported w e name f := by
    intro hf
    rcases render_ends hid name data with ⟨text, htext⟩ | ⟨g, hg⟩ | ⟨g, hg⟩ | ⟨g, hg⟩
    · rw [htext] at hf
      cases hf
    · obtain rfl := Except.error.inj (hf.symm.trans (hg.render hid data))
      exact .inl hg
    · exact .inr (.inl ⟨g, hg, Except.error.inj (hf.symm.trans (hg.render hid))⟩)
    · obtain rfl := Except.error.inj (hf.symm.trans (hg.render hid data))
      exact .inr (.inr hg)
  refine ⟨⟨fun ⟨hf, hkind⟩ => ?_, fun h => ⟨h.render hid data, h.kind_eq⟩⟩,
    ⟨fun ⟨hf, hkind⟩ => ?_, ?_⟩,
    ⟨fun ⟨hf, hfound, hreport⟩ => ?_, fun h => ⟨h.render hid data, h.kind_ne⟩⟩, ?_⟩
  · -- The kinds tell the three ways apart.
    rcases hcases hf with h | ⟨g, -, rfl⟩ | h
    · exact h
    · exact absurd hkind (by simp [Fault.kind])
    · exact absurd hkind h.kind_ne.1
  · rcases hcases hf with h | ⟨g, hg, rfl⟩ | h
    · rw [h.kind_eq] at hkind
      exact absurd hkind (by decide)
    · exact ⟨g, hg, rfl, rfl, rfl⟩
    · exact absurd hkind h.kind_ne.2
  · rintro ⟨g, hg, rfl, -⟩
    exact ⟨hg.render hid, rfl⟩
  · rcases hcases hf with h | ⟨g, -, rfl⟩ | h
    · exact absurd h.kind_eq hfound
    · exact absurd rfl hreport
    · exact h
  · rintro s p n rfl hc hslash hname
    exact fileOf?_innerName hc hslash hname w.files

/-- A template with a constant that cannot be computed, and one that includes it. -/
def impossible : World :=
  .ofFiles (textFiles [("templates/a.j2", including "b.j2"),
    ("templates/b.j2", "\x7b\x7b [][0] and 1 \x7d\x7d")] 10) 0 "" ⟨.here, []⟩

/-- The world after an engine was made for them, and the engine. -/
def impossibleMade : World := ((create .default none none).perform impossible).2
def impossibleEngine : Engine := ⟨.default, ⟨true, false⟩, [], some Config.default.cacheDir, []⟩

/-- The constant is computed as soon as the template is compiled. Where that is while another one
    is run, it is reported. -/
theorem render_reports_impossible :
    impossibleMade.engine? 0 = some impossibleEngine ∧
      (∃ f g, ((render 0 (.text "a") []).perform impossibleMade).1 = .error f ∧
        GoesWrong impossibleMade 0 impossibleEngine (.text "a") [] g ∧ f.cause? = some g ∧
        f.message = "list object has no element 0") ∧
      ∃ f, ((render 0 (.text "b") []).perform impossibleMade).1 = .error f ∧
        Unreported impossibleMade impossibleEngine (.text "b") f := by
  have hid : impossibleMade.engine? 0 = some impossibleEngine := rfl
  have hinside : ∃ f, ((render 0 (.text "a") []).perform impossibleMade).1 = .error f ∧
      f.kind = "TemplateRenderError" ∧ f.message = "list object has no element 0" := by
    decide +kernel
  have hasked : ∃ f, ((render 0 (.text "b") []).perform impossibleMade).1 = .error f ∧
      f.kind ≠ "TemplateNotFoundError" ∧ f.kind ≠ "TemplateRenderError" := by
    decide +kernel
  obtain ⟨f, hf, hkind, hmessage⟩ := hinside
  obtain ⟨g, hg, -, -, hcause⟩ := (render_reports hid (.text "a") [] f).2.1.mp ⟨hf, hkind⟩
  obtain ⟨f', hf', hkinds⟩ := hasked
  exact ⟨hid, ⟨f, g, hf, hg, hcause, hmessage⟩, f', hf',
    (render_reports hid (.text "b") [] f').2.2.1.mp ⟨hf', hkinds⟩⟩

/-- Not everything that goes wrong is reported. -/
theorem not_every_failure_reported :
    ¬∀ (w : World) (id : EngineId) (e : Engine) (name : Value) (data : Bindings) (f : Fault),
      w.engine? id = some e → ((render id name data).perform w).1 = .error f →
      f.kind = "TemplateNotFoundError" ∨ f.kind = "TemplateRenderError" := by
  intro h
  have hasked : ∃ f, ((render 0 (.text "b") []).perform impossibleMade).1 = .error f ∧
      f.kind = "UndefinedError" := by
    decide +kernel
  obtain ⟨f, hf, hkind⟩ := hasked
  have hkinds := h impossibleMade 0 impossibleEngine (.text "b") [] f rfl hf
  rw [hkind] at hkinds
  exact absurd hkinds (by decide)

end Engine

end Stencil
