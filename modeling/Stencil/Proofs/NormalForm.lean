import Mathlib.Logic.Relation
import Stencil.Proofs.Respelling

/-!
# The normal form of a configuration

A configuration is built from what is given for its fields, in any of the ways in which they
can be written: paths and extensions in all their spellings, a single language as a text, the
directory of compiled templates or nothing for it. What is built is in a normal form that all
of these come to, and the fields of a configuration, written out, are one of the ways to write
them. So building it again changes nothing, and two configurations can be compared field by
field.

## Main definitions

* `Config.Normal`: What is left of the freedom in writing the fields.
* `Config.Typed`: What is given for the fields is of the declared types.
* `Config.Respelled`: Another way to write the value of a field.
* `Config.Change`: Assignments that differ in the way in which one field is written.

## Theorems

* `Config.normal_of_ofFields`: What is built is in normal form.
* `Config.Normal.ofFields_fields`: What is in normal form is built again from its fields.
* `Config.Change.ofKnownFields`: It does not matter how the fields are written.
* `Config.equal_self`: A configuration of the declared types equals itself.
* `Config.normal_form`: Configurations are normal forms of what is given for the fields.
-/

namespace Stencil

namespace Config

/-! ## Building again -/

/-- The normal form: parts of paths are segments, extensions are different and have one dot, and
    languages are a list. -/
structure Normal (c : Config) : Prop where
  root : ∀ s ∈ c.templateRoot.parts, Path.IsSegment s
  cache : ∀ s ∈ c.cacheDir.parts, Path.IsSegment s
  locale : ∀ p ∈ c.localeDir, ∀ s ∈ p.parts, Path.IsSegment s
  compiled : SingleDotted c.compiledExtension
  raw : SingleDotted c.rawExtension
  distinct : c.compiledExtension ≠ c.rawExtension
  languages : languagesOf c.languages = c.languages

theorem singleDotted_of_extensionOf {v : Value} {e : String} (h : extensionOf v = .ok e) :
    SingleDotted e := by
  cases v with
  | text t =>
      rw [extensionOf, normalizeExtension_eq] at h
      split at h
      · cases h
      · exact Except.ok.inj h ▸ singleDotted_dotted t
  | _ => cases h

theorem isSegment_of_pathOf? {v : Value} {p? : Option Path} (h : pathOf? v = .ok p?) :
    ∀ p ∈ p?, ∀ s ∈ p.parts, Path.IsSegment s := by
  intro p hp
  cases v with
  | text t =>
      obtain rfl := Except.ok.inj h
      obtain rfl := Option.some.inj hp
      exact fun s hs => Path.isSegment_of_mem_ofChars hs
  | null =>
      obtain rfl := Except.ok.inj h
      cases hp
  | _ => cases h

theorem languagesOf_languagesOf (v : Value) : languagesOf (languagesOf v) = languagesOf v := by
  cases v <;> rfl

/-- What is built is in normal form. -/
theorem normal_of_ofFields {given : Bindings} {c : Config} (h : ofFields given = .ok c) :
    c.Normal := by
  rw [ofFields] at h
  split at h
  · cases h
  · obtain ⟨root, hroot, h⟩ := exists_of_bind_eq_ok h
    obtain ⟨cache, hcache, h⟩ := exists_of_bind_eq_ok h
    obtain ⟨locale, hlocale, h⟩ := exists_of_bind_eq_ok h
    obtain ⟨compiled, hcompiled, h⟩ := exists_of_bind_eq_ok h
    obtain ⟨raw, hraw, h⟩ := exists_of_bind_eq_ok h
    by_cases hne : compiled = raw
    · rw [if_pos hne] at h
      cases h
    · rw [if_neg hne] at h
      obtain rfl := Except.ok.inj h
      refine ⟨isSegment_of_pathOf hroot, ?_, isSegment_of_pathOf? hlocale,
        singleDotted_of_extensionOf hcompiled, singleDotted_of_extensionOf hraw, hne,
        languagesOf_languagesOf _⟩
      intro s hs
      cases cache with
      | some p => exact isSegment_of_pathOf? hcache p rfl s hs
      | none =>
          -- The directory that is taken otherwise is one segment below the root.
          rcases List.mem_append.mp hs with hs | hs
          · exact isSegment_of_pathOf hroot s hs
          · obtain rfl := List.mem_singleton.mp hs
            exact ⟨by decide, by decide, by decide⟩

/-- What is in normal form is built again from its fields. -/
theorem Normal.ofFields_fields {c : Config} (h : c.Normal) : ofFields c.fields = .ok c := by
  have hlocale : pathOf? ((c.localeDir.map fun p => Value.text p.text).getD .null) =
      .ok c.localeDir := by
    cases hl : c.localeDir with
    | none => rfl
    | some p => exact congrArg (Except.ok ∘ some) (Path.ofString_text (h.locale p hl))
  have hextension {ext : String} (hext : SingleDotted ext) :
      extensionOf (.text ext) = .ok ext := by
    rw [extensionOf, normalizeExtension_eq, hext.not_blank, hext.dotted_eq]
    rfl
  have hunknown : unknownField? c.fields = none := by
    rw [unknownField?, fields_keys]
    decide
  rw [ofFields, hunknown]
  simp only [ofKnownFields, fields, Bindings.get?, List.lookup_cons, String.reduceBEq,
    Option.getD_some, hlocale, hextension h.compiled, hextension h.raw, h.languages]
  simp only [pathOf, pathOf?, Path.ofString_text h.root, Path.ofString_text h.cache, bind,
    Except.bind, pure, Except.pure, Except.map, if_neg h.distinct]
  rfl

/-! ## What is given -/

/-- The fields that are paths, those that may be left out with null, the extensions, and the
    switches. -/
def pathFields : List String := ["template_root", "cache_dir", "locale_dir"]

def optionalFields : List String := ["cache_dir", "locale_dir"]

def extensionFields : List String := ["compiled_extension", "raw_extension"]

def switchFields : List String := ["enable_i18n", "strict_undefined"]

/-- Whether a value is of the type that is declared for a field. Texts stand for paths, and
    one stands for a list of languages. -/
def fits (name : String) : Value → Bool
  | .text _ => name ∉ switchFields
  | .null => name ∈ optionalFields
  | .list vs => name = "languages" && vs.all isText
  | .bool _ => name ∈ switchFields
  | _ => false

/-- What is given is given for fields, and is of the types that are declared for them. -/
structure Typed (given : Bindings) : Prop where
  known : ∀ k ∈ given.keys, k ∈ fieldNames
  fits : ∀ k ∈ fieldNames, ∀ v ∈ given.get? k, fits k v

instance (given : Bindings) : Decidable (Typed given) :=
  decidable_of_iff ((∀ k ∈ given.keys, k ∈ fieldNames) ∧
      ∀ k ∈ fieldNames, ∀ v ∈ given.get? k, Config.fits k v)
    ⟨fun ⟨hknown, hfits⟩ => ⟨hknown, hfits⟩, fun h => ⟨h.known, h.fits⟩⟩

/-- Another way to write the value of a field. -/
inductive Respelled : String → Value → Value → Prop where
  | path {name s t : String} (hname : name ∈ pathFields) (h : Path.Change s.toList t.toList) :
      Respelled name (.text s) (.text t)
  | extension {name s t : String} (hname : name ∈ extensionFields) (h : ExtensionChange s t) :
      Respelled name (.text s) (.text t)
  | language (s : String) : Respelled "languages" (.text s) (.list [.text s])

/-- Assignments that differ in the way in which one field is written: with another spelling, or
    with the directory that is taken for compiled templates in the place of none. -/
inductive Change (given given' : Bindings) : Prop where
  | field {name : String} {v v' : Value} (h : Respelled name v v') (hv : given.get? name = some v)
      (hv' : given'.get? name = some v') (hrest : ∀ k ≠ name, given'.get? k = given.get? k)
  | cache {t : String}
      (hnone : given.get? "cache_dir" = none ∨ given.get? "cache_dir" = some .null)
      (ht : given'.get? "cache_dir" = some (.text t))
      (hdefault : Path.ofString t =
        Path.ofString (textOf given.get? "template_root" "templates") ++ defaultCacheName)
      (hrest : ∀ k ≠ "cache_dir", given'.get? k = given.get? k)

variable {given given' : Bindings}

theorem Respelled.name_mem {name : String} {v v' : Value} (h : Respelled name v v') :
    name ∈ fieldNames := by
  cases h with
  | path hname =>
      have hsub : ∀ k ∈ pathFields, k ∈ fieldNames := by decide
      exact hsub name hname
  | extension hname =>
      have hsub : ∀ k ∈ extensionFields, k ∈ fieldNames := by decide
      exact hsub name hname
  | language => decide

/-- One field can be set in two spellings. -/
theorem Change.set (b : Bindings) {name : String} {v v' : Value} (h : Respelled name v v') :
    Change (b.set name v) (b.set name v') := by
  refine .field h (b.get?_set_self name v) (b.get?_set_self name v') fun k hk => ?_
  rw [b.get?_set_of_ne v hk, b.get?_set_of_ne v' hk]

/-- Only fields are written differently. -/
theorem Change.get?_other (h : Change given given') {k : String} (hk : k ∉ fieldNames) :
    given'.get? k = given.get? k := by
  cases h with
  | field h _ _ hrest => exact hrest k fun heq => hk (heq ▸ h.name_mem)
  | cache _ _ _ hrest => exact hrest k fun heq => hk (heq ▸ by decide)

/-- Paths, extensions and languages are built alike in all their spellings. -/
theorem ofKnownFields_respelled {name : String} {v v' : Value} (h : Respelled name v v')
    (hv : given.get? name = some v) (hv' : given'.get? name = some v')
    (hrest : ∀ k ≠ name, given'.get? k = given.get? k) :
    ofKnownFields given' = ofKnownFields given := by
  unfold ofKnownFields
  cases h with
  | path hname h =>
      have hpath := h.ofChars
      simp only [pathFields, List.mem_cons, List.not_mem_nil, or_false] at hname
      rcases hname with rfl | rfl | rfl <;>
        simp (disch := decide) only [hrest, hv, hv', Option.getD_some, pathOf?, pathOf,
          Path.ofString, hpath]
  | extension hname h =>
      simp only [extensionFields, List.mem_cons, List.not_mem_nil, or_false] at hname
      rcases hname with rfl | rfl <;>
        simp (disch := decide) only [hrest, hv, hv', Option.getD_some, extensionOf, h.normalize]
  | language s =>
      simp (disch := decide) only [hrest, hv, hv', Option.getD_some, languagesOf]

/-- It does not matter how the fields are written. -/
theorem Change.ofKnownFields (h : Change given given') :
    Config.ofKnownFields given' = Config.ofKnownFields given := by
  cases h with
  | field h hv hv' hrest => exact ofKnownFields_respelled h hv hv' hrest
  | @cache t hnone ht hdefault hrest =>
      have hcache : pathOf? ((given.get? "cache_dir").getD .null) = .ok none := by
        rcases hnone with hnone | hnone <;> rw [hnone] <;> rfl
      have hcache' : pathOf? (.text t) = .ok (some (Path.ofString t)) := rfl
      unfold Config.ofKnownFields
      simp (disch := decide) only [hrest, ht, hcache, hcache', Option.getD_some]
      -- The directory depends on the root, which has to be a path in the first place.
      cases hroot : pathOf ((given.get? "template_root").getD (.text "templates")) with
      | error f => rfl
      | ok root =>
          have hroot : Path.ofString t = root ++ defaultCacheName := by
            rw [hdefault, textOf]
            cases hv : given.get? "template_root" with
            | none =>
                rw [hv] at hroot
                exact congrArg (· ++ defaultCacheName) (Except.ok.inj hroot)
            | some v =>
                rw [hv] at hroot
                cases v with
                | text s => exact congrArg (· ++ defaultCacheName) (Except.ok.inj hroot)
                | _ => cases hroot
          rw [hroot]
          rfl

/-- Only fields are given exactly if nothing is found for other names. -/
theorem known_iff : (∀ k ∈ given.keys, k ∈ fieldNames) ↔ ∀ k ∉ fieldNames, given.get? k = none := by
  simp only [← isSome_get?_iff]
  refine forall_congr' fun k => ?_
  rw [← Option.not_isSome_iff_eq_none, not_imp_not]

/-- Assignments to fields that differ only in the way in which the fields are written. -/
theorem ofFields_of_eqvGen (hgiven : ∀ k ∈ given.keys, k ∈ fieldNames)
    (h : Relation.EqvGen Change given given') : ofFields given' = ofFields given := by
  have halike : ((∀ k ∉ fieldNames, given.get? k = none) ↔ ∀ k ∉ fieldNames, given'.get? k = none) ∧
      Config.ofKnownFields given' = Config.ofKnownFields given := by
    clear hgiven
    induction h with
    | rel a b h => exact ⟨forall₂_congr fun k hk => by rw [h.get?_other hk], h.ofKnownFields⟩
    | refl a => exact ⟨Iff.rfl, rfl⟩
    | symm a b _ ih => exact ⟨ih.1.symm, ih.2.symm⟩
    | trans a b c _ _ hab hbc => exact ⟨hab.1.trans hbc.1, hbc.2.trans hab.2⟩
  have hnone {b : Bindings} (hb : ∀ k ∈ b.keys, k ∈ fieldNames) : unknownField? b = none :=
    List.find?_eq_none.mpr fun k hk => by simpa using hb k hk
  rw [ofFields, ofFields, hnone hgiven, hnone (known_iff.mpr (halike.1.mp (known_iff.mp hgiven))),
    halike.2]

/-! ## Comparing -/

/-- What is built keeps the values that are not paths or extensions. -/
theorem values_of_ofFields {c : Config} (h : ofFields given = .ok c) :
    c.translationDomain = (given.get? "translation_domain").getD (.text "messages") ∧
      c.languages = languagesOf ((given.get? "languages").getD (.list [])) ∧
      c.enableI18n = (given.get? "enable_i18n").getD (.bool true) ∧
      c.strictUndefined = (given.get? "strict_undefined").getD (.bool true) := by
  rw [ofFields] at h
  split at h
  · cases h
  · obtain ⟨root, -, h⟩ := exists_of_bind_eq_ok h
    obtain ⟨cache, -, h⟩ := exists_of_bind_eq_ok h
    obtain ⟨locale, -, h⟩ := exists_of_bind_eq_ok h
    obtain ⟨compiled, -, h⟩ := exists_of_bind_eq_ok h
    obtain ⟨raw, -, h⟩ := exists_of_bind_eq_ok h
    by_cases hne : compiled = raw
    · rw [if_pos hne] at h
      cases h
    · rw [if_neg hne] at h
      obtain rfl := Except.ok.inj h
      exact ⟨rfl, rfl, rfl, rfl⟩

theorem equal_texts {vs : List Value} (h : ∀ v ∈ vs, isText v) :
    Value.equalItems vs vs = .ok true := by
  induction vs with
  | nil => rfl
  | cons v vs ih =>
      obtain ⟨s, rfl⟩ := exists_of_isText (h v List.mem_cons_self)
      have hs : Value.equal (.text s) (.text s) = .ok true := by
        rw [Value.equal, Value.text?, beq_self_eq_true]
        intro _ h
        cases h
      rw [Value.equalItems, hs]
      exact ih fun w hw => h w (List.mem_cons_of_mem _ hw)

/-- A value of a declared type equals itself, which not every value does. -/
theorem equal_of_fits {name : String} {v : Value} (h : fits name v) :
    Value.equal v v = .ok true := by
  cases v with
  | text s =>
      rw [Value.equal, Value.text?, beq_self_eq_true]
      intro _ h
      cases h
  | null => rfl
  | list vs =>
      have hvs := List.all_eq_true.mp (Bool.and_eq_true_iff.mp h).2
      rw [Value.equal, if_pos rfl, equal_texts hvs]
  | bool b => cases b <;> decide +kernel
  | _ => cases h

theorem fits_languagesOf {v : Value} (h : fits "languages" v) :
    fits "languages" (languagesOf v) := by
  cases v with
  | text s => rfl
  | _ => exact h

/-- A configuration of the declared types equals itself. -/
theorem equal_self (hgiven : Typed given) {c : Config} (h : ofFields given = .ok c) :
    c.equal c = true := by
  obtain ⟨hdomain, hlanguages, hi18n, hstrict⟩ := values_of_ofFields h
  have hfits (name : String) (default : Value) (hname : name ∈ fieldNames)
      (hdefault : fits name default) : fits name ((given.get? name).getD default) := by
    cases hv : given.get? name with
    | none => exact hdefault
    | some v => exact hgiven.fits name hname v hv
  have htext :=
    equal_of_fits (hfits "translation_domain" (.text "messages") (by decide) (by decide))
  have hlist := equal_of_fits
    (fits_languagesOf (hfits "languages" (.list []) (by decide) (by decide)))
  have hfirst := equal_of_fits (hfits "enable_i18n" (.bool true) (by decide) (by decide))
  have hsecond := equal_of_fits (hfits "strict_undefined" (.bool true) (by decide) (by decide))
  simp only [equal, beq_self_eq_true, hdomain, htext, hlanguages, hlist, hi18n, hfirst, hstrict,
    hsecond, Value.isTrue, Bool.and_self]

/-! ## The normal form -/

/-- Configurations are normal forms of what is given for the fields. Where values of the declared
    types are accepted, the configuration that they give is given by its own fields, too, with its
    paths written as texts, and equals itself. Its extensions have exactly one dot in front and
    no white space at their ends, and are different. And assignments that differ only in the way
    in which the fields are written are accepted alike and give the same configuration. -/
theorem normal_form (hgiven : Typed given) :
    (∀ c, ofFields given = .ok c →
      (∃ c', ofFields c.fields = .ok c' ∧ c'.equal c = true ∧ c' = c) ∧
        SingleDotted c.compiledExtension ∧ SingleDotted c.rawExtension ∧
        c.compiledExtension ≠ c.rawExtension) ∧
      ∀ given', Relation.EqvGen Change given given' →
        ofFields given' = ofFields given ∧
          ∀ c c', ofFields given = .ok c → ofFields given' = .ok c' → c.equal c' = true := by
  refine ⟨fun c hc => ?_, fun given' h => ?_⟩
  · have hnormal := normal_of_ofFields hc
    exact ⟨⟨c, hnormal.ofFields_fields, equal_self hgiven hc, rfl⟩, hnormal.compiled, hnormal.raw,
      hnormal.distinct⟩
  · have halike := ofFields_of_eqvGen hgiven.known h
    refine ⟨halike, fun c c' hc hc' => ?_⟩
    rw [halike, hc] at hc'
    exact Except.ok.inj hc' ▸ equal_self hgiven hc

/-- What is given for a root, an extension and languages, and possibly for more. -/
def givenViews (root ext : String) (languages : Value) (more : Bindings) : Bindings :=
  [("template_root", .text root), ("compiled_extension", .text ext), ("languages", languages)] ++
    more

/-- Templates in German under `views`. A slash behind the root, a dot and a blank in front of
    the extension, a list for the language and the directory that is taken anyway for compiled
    templates change nothing. -/
theorem normal_form_views :
    let given := givenViews "views" ".tpl" (.text "de") []
    let given' := givenViews "views/" " ..tpl" (.list [.text "de"])
      [("cache_dir", .text "views/cache")]
    Typed given ∧ Relation.EqvGen Change given given' ∧
      ∃ c, ofFields given = .ok c ∧ ofFields given' = .ok c ∧ ofFields c.fields = .ok c ∧
        c.compiledExtension = ".tpl" := by
  intro given given'
  have htyped : Typed given := by decide
  have hroot : Change given (givenViews "views/" ".tpl" (.text "de") []) :=
    .set given (@Respelled.path "template_root" _ _ (by decide)
      (.trailing (a := "views".toList) ⟨'v', by decide, by decide⟩))
  have hdot : Change (givenViews "views/" ".tpl" (.text "de") [])
      (givenViews "views/" "..tpl" (.text "de") []) :=
    .set (givenViews "views/" ".tpl" (.text "de") []) (@Respelled.extension "compiled_extension"
      _ _ (by decide) (.dots 1 ".tpl" ⟨'.', rfl, rfl⟩))
  have hblank : Change (givenViews "views/" "..tpl" (.text "de") [])
      (givenViews "views/" " ..tpl" (.text "de") []) :=
    .set (givenViews "views/" "..tpl" (.text "de") []) (@Respelled.extension "compiled_extension"
      _ _ (by decide) (.blanks " " "..tpl" ""
        (fun c hc => by obtain rfl := List.mem_singleton.mp hc; rfl) nofun))
  have hlanguage : Change (givenViews "views/" " ..tpl" (.text "de") [])
      (givenViews "views/" " ..tpl" (.list [.text "de"]) []) :=
    .set (givenViews "views/" " ..tpl" (.text "de") []) (.language "de")
  have hcache : Change (givenViews "views/" " ..tpl" (.list [.text "de"]) []) given' := by
    refine .cache (.inl rfl) rfl (by decide +kernel) fun k hk => ?_
    have hother : (k == "cache_dir") = false := beq_eq_false_iff_ne.mpr hk
    simp only [given', givenViews, Bindings.get?, List.lookup_append, List.lookup_cons, hother,
      List.lookup_nil]
  have hchange : Relation.EqvGen Change given given' :=
    .trans _ _ _ (.rel _ _ hroot) (.trans _ _ _ (.rel _ _ hdot) (.trans _ _ _ (.rel _ _ hblank)
      (.trans _ _ _ (.rel _ _ hlanguage) (.rel _ _ hcache))))
  obtain ⟨hform, halike⟩ := normal_form htyped
  obtain ⟨c, hc, hext⟩ : ∃ c, ofFields given = .ok c ∧ c.compiledExtension = ".tpl" :=
    ⟨_, rfl, by decide +kernel⟩
  obtain ⟨⟨c', hc', -, rfl⟩, -⟩ := hform c hc
  exact ⟨htyped, hchange, c', hc, (halike given' hchange).1.trans hc, hc', hext⟩

end Config

end Stencil
