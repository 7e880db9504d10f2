import Stencil.Proofs.Precedence

/-!
# Bad configurations that are not reported

Loading a configuration reports what is wrong with it as a fault of one kind, but only where
it expects something to be wrong: a file that is not well formed, fields that cannot be
built from, and extensions that cannot stand together. The files hold whatever was written
into them, the host reads them by whatever reader it has, and on some of what comes of that the
loader stumbles before it comes to look. Then the fault it stumbles with goes through.

It is said here exactly when. The user's file, or a file of the project that is asked, is
spoiled; the first file of the project that says anything holds no table; a profile is asked
for where the user has profiles that are none; or an extension is no text. The last comes up
only after everything that would have been reported before it: an override for no field, a
path that is no text, and, for the second extension, a first one that is blank.

## Main definitions

* `Config.Untrimmed`: The fault of an extension that is no text.
* `Config.Unreported`: All faults that go through.

## Theorems

* `Config.ofKnownFields_untrimmed`: What building a configuration fails with.
* `Config.load_unreported_iff`: Loading fails with a fault of another kind exactly if it is one
  of these.
* `Config.not_reported`: It does fail so.
-/

namespace Stencil

namespace Config

open Loader

/-! ## Building -/

section

variable (find : String → Option Value)

/-- The fields that are read as paths can be. Two of them may be null instead. -/
structure PathsFound : Prop where
  root : ∀ v ∈ find "template_root", isText v
  others : ∀ k ∈ ["cache_dir", "locale_dir"], ∀ v ∈ find k, isText v ∨ v = .null

/-- The fault of an extension that is to be trimmed and is no text, where nothing that is looked
    at before is wrong. -/
inductive Untrimmed : Fault → Prop
  | compiled {v : Value} (hpaths : PathsFound find) (hv : find "compiled_extension" = some v)
      (hno : ¬ isText v) : Untrimmed (.noAttribute v.kindName "strip")
  | raw {v : Value} (hpaths : PathsFound find)
      (hcompiled : ∀ v ∈ find "compiled_extension", ∃ s, v = .text s ∧ ¬ isBlank s)
      (hv : find "raw_extension" = some v) (hno : ¬ isText v) :
      Untrimmed (.noAttribute v.kindName "strip")

end

/-- A fault that says that the settings are wrong. -/
inductive Wrong : Fault → Prop
  | misuse (m : Misuse) : Wrong (.misuse m)
  | refused (r : Refusal) : Wrong (.refused r)

theorem pathOf_cases (v : Value) : isText v ∧ (∃ p, pathOf v = .ok p) ∨
    ¬ isText v ∧ ∃ f, pathOf v = .error f ∧ Wrong f := by
  cases v with
  | text s => exact .inl ⟨rfl, _, rfl⟩
  | _ => exact .inr ⟨nofun, _, rfl, .misuse _⟩

theorem pathOf?_cases (v : Value) : (isText v ∨ v = .null) ∧ (∃ p, pathOf? v = .ok p) ∨
    ¬ (isText v ∨ v = .null) ∧ ∃ f, pathOf? v = .error f ∧ Wrong f := by
  cases v with
  | text s => exact .inl ⟨.inl rfl, _, rfl⟩
  | null => exact .inl ⟨.inr rfl, _, rfl⟩
  | _ => exact .inr ⟨fun h => h.elim nofun nofun, _, rfl, .misuse _⟩

/-- An extension is trimmed, found blank, or no text at all. -/
theorem extensionOf_cases (v : Value) :
    (∃ s, v = .text s ∧ ¬ isBlank s ∧ extensionOf v = .ok (dotted s)) ∨
      (∃ s, v = .text s ∧ isBlank s ∧ ∃ f, extensionOf v = .error f ∧ Wrong f) ∨
      ¬ isText v ∧ extensionOf v = .error (.noAttribute v.kindName "strip") := by
  cases v with
  | text s =>
      by_cases hblank : isBlank s
      · exact .inr (.inl ⟨s, rfl, hblank, _, by rw [extensionOf, normalizeExtension_eq,
          if_pos hblank], .refused _⟩)
      · exact .inl ⟨s, rfl, hblank, by rw [extensionOf, normalizeExtension_eq, if_neg hblank]⟩
  | _ => exact .inr (.inr ⟨Bool.false_ne_true, rfl⟩)

/-- A condition on the value of a field is one on the value that is found or the default. -/
theorem forall_found_iff {P : Value → Prop} {d : Value} (hd : P d) (found : Option Value) :
    (∀ v ∈ found, P v) ↔ P (found.getD d) := by
  cases found with
  | none => exact ⟨fun _ => hd, fun _ => nofun⟩
  | some v => exact ⟨fun h => h v rfl, fun h w hw => Option.some.inj hw ▸ h⟩

/-- The value of a field is no default if no default is like it. -/
theorem eq_some_of_getD {P : Value → Prop} {d : Value} (hd : P d) {found : Option Value}
    (h : ¬ P (found.getD d)) : found = some (found.getD d) := by
  cases found with
  | none => exact absurd hd h
  | some v => rfl

variable {find : String → Option Value} {given : Bindings}

theorem pathsFound_iff : PathsFound find ↔
    isText ((find "template_root").getD (.text "templates")) ∧
      (isText ((find "cache_dir").getD .null) ∨ (find "cache_dir").getD .null = .null) ∧
      (isText ((find "locale_dir").getD .null) ∨ (find "locale_dir").getD .null = .null) := by
  have hnull : (fun v => isText v ∨ v = Value.null) .null := .inr rfl
  refine ⟨fun h => ⟨?_, ?_, ?_⟩, fun ⟨hroot, hcache, hlocale⟩ => ⟨?_, ?_⟩⟩
  · exact (forall_found_iff (P := fun v => isText v) rfl _).mp h.root
  · exact (forall_found_iff hnull _).mp (h.others _ (List.mem_cons_self ..))
  · exact (forall_found_iff hnull _).mp
      (h.others _ (List.mem_cons_of_mem _ (List.mem_cons_self ..)))
  · exact (forall_found_iff (P := fun v => isText v) rfl _).mpr hroot
  · exact List.forall_mem_cons.mpr ⟨(forall_found_iff hnull _).mpr hcache,
      List.forall_mem_singleton.mpr ((forall_found_iff hnull _).mpr hlocale)⟩

/-- What is done after a step fails, and does not say that the settings are wrong, only where
    the step goes well. -/
theorem bind_unreported {α β : Type} {r : Except Fault α} {k : α → Except Fault β} {p q : Prop}
    {f : Fault} (h : p ∧ (∃ x, r = .ok x) ∨ ¬ p ∧ ∃ g, r = .error g ∧ Wrong g)
    (hk : ∀ x, k x = .error f ∧ ¬ Wrong f ↔ q) : (r >>= k) = .error f ∧ ¬ Wrong f ↔ p ∧ q := by
  rcases h with ⟨hp, x, rfl⟩ | ⟨hp, g, rfl, hg⟩
  · exact (hk x).trans (and_iff_right hp).symm
  · exact ⟨fun ⟨hf, hno⟩ => absurd (Except.error.inj hf ▸ hg) hno, fun h => absurd h.1 hp⟩

/-- The extensions are trimmed one after the other, the second only if the first is not blank. -/
theorem extensions_unreported {v w : Value} {k : String → String → Except Fault Config}
    (hk : ∀ a b f, k a b = .error f → Wrong f) {f : Fault} :
    (extensionOf v >>= fun a => extensionOf w >>= k a) = .error f ∧ ¬ Wrong f ↔
      (¬ isText v ∧ f = .noAttribute v.kindName "strip") ∨
        ((∃ s, v = .text s ∧ ¬ isBlank s) ∧ ¬ isText w ∧ f = .noAttribute w.kindName "strip") := by
  have hattribute (kind : String) : ¬ Wrong (.noAttribute kind "strip") := nofun
  -- Each of the two is a text, or a blank one, which is reported, or no text at all.
  rcases extensionOf_cases v with ⟨s, rfl, hs, hv⟩ | ⟨s, rfl, hs, g, hv, hg⟩ | ⟨hno, hv⟩
  · have hfirst : ∃ s', Value.text s = .text s' ∧ ¬ isBlank s' := ⟨s, rfl, hs⟩
    have htext : ¬ (¬ isText (.text s) ∧ f = .noAttribute (Value.text s).kindName "strip") :=
      fun h => h.1 rfl
    rw [hv]
    rcases extensionOf_cases w with ⟨s', rfl, -, hw⟩ | ⟨s', rfl, -, g, hw, hg⟩ | ⟨hno, hw⟩
    · rw [hw]
      exact ⟨fun ⟨hf, hwrong⟩ => absurd (hk _ _ _ hf) hwrong,
        fun h => h.elim (fun h => absurd h htext) fun h => absurd rfl h.2.1⟩
    · rw [hw]
      exact ⟨fun ⟨hf, hwrong⟩ => absurd (Except.error.inj hf ▸ hg) hwrong,
        fun h => h.elim (fun h => absurd h htext) fun h => absurd rfl h.2.1⟩
    · rw [hw]
      refine ⟨fun ⟨hf, _⟩ => .inr ⟨hfirst, hno, (Except.error.inj hf).symm⟩, ?_⟩
      rintro (h | ⟨-, -, rfl⟩)
      · exact absurd h htext
      · exact ⟨rfl, hattribute _⟩
  · rw [hv]
    refine ⟨fun ⟨hf, hwrong⟩ => absurd (Except.error.inj hf ▸ hg) hwrong, ?_⟩
    rintro (⟨hno, -⟩ | ⟨⟨s', hs', hblank⟩, -⟩)
    · exact absurd rfl hno
    · cases hs'
      exact absurd hs hblank
  · rw [hv]
    refine ⟨fun ⟨hf, _⟩ => .inl ⟨hno, (Except.error.inj hf).symm⟩, ?_⟩
    rintro (⟨-, rfl⟩ | ⟨⟨s, rfl, -⟩, -⟩)
    · exact ⟨rfl, hattribute _⟩
    · exact absurd rfl hno

/-- What building fails with, and does not say that the settings are wrong, in terms of the
    values that are found. -/
theorem untrimmed_iff {f : Fault} : Untrimmed find f ↔ PathsFound find ∧
    ((¬ isText ((find "compiled_extension").getD (.text ".j2")) ∧
        f = .noAttribute ((find "compiled_extension").getD (.text ".j2")).kindName "strip") ∨
      ((∃ s, (find "compiled_extension").getD (.text ".j2") = .text s ∧ ¬ isBlank s) ∧
        ¬ isText ((find "raw_extension").getD (.text ".pyt")) ∧
        f = .noAttribute ((find "raw_extension").getD (.text ".pyt")).kindName "strip")) := by
  have hfirst := forall_found_iff (P := fun v => ∃ s, v = .text s ∧ ¬ isBlank s)
    (d := .text ".j2") ⟨_, rfl, by decide⟩ (find "compiled_extension")
  constructor
  · rintro (⟨hpaths, hv, hno⟩ | ⟨hpaths, hcompiled, hv, hno⟩)
    · exact ⟨hpaths, .inl (by rw [hv]; exact ⟨hno, rfl⟩)⟩
    · exact ⟨hpaths, .inr ⟨hfirst.mp hcompiled, by rw [hv]; exact ⟨hno, rfl⟩⟩⟩
  · rintro ⟨hpaths, ⟨hno, rfl⟩ | ⟨hcompiled, hno, rfl⟩⟩
    · exact .compiled hpaths (eq_some_of_getD (P := fun v => isText v) rfl hno) hno
    · exact .raw hpaths (hfirst.mpr hcompiled) (eq_some_of_getD (P := fun v => isText v) rfl hno)
        hno

/-- Building a configuration fails with an extension that is no text, or with a fault that says
    that the settings are wrong. -/
theorem ofKnownFields_untrimmed (hgiven : ∀ k ∈ fieldNames, given.get? k = find k) {f : Fault} :
    ofKnownFields given = .error f ∧ ¬ Wrong f ↔ Untrimmed find f := by
  unfold ofKnownFields
  simp only [hgiven "template_root" (by decide), hgiven "cache_dir" (by decide),
    hgiven "locale_dir" (by decide), hgiven "compiled_extension" (by decide),
    hgiven "raw_extension" (by decide)]
  rw [untrimmed_iff, pathsFound_iff, and_assoc, and_assoc]
  refine bind_unreported (pathOf_cases _) fun _ => bind_unreported (pathOf?_cases _) fun _ =>
    bind_unreported (pathOf?_cases _) fun _ => extensions_unreported fun a b g h => ?_
  -- Extensions that are the same are reported.
  by_cases hsame : a = b
  · rw [if_pos hsame] at h
    cases h
    exact .refused _
  · rw [if_neg hsame] at h
    cases h

/-! ## Loading -/

/-- What building a configuration fails with says that the settings are wrong, or is not
    reported. -/
theorem reported_error_iff {r : Except Fault Config} {f : Fault}
    (hr : ∀ g, r = .error g → ¬ Wrong g → g.kind ≠ reportedKind) :
    reported r = .error f ∧ f.kind ≠ reportedKind ↔ r = .error f ∧ ¬ Wrong f := by
  cases r with
  | ok c => exact ⟨fun h => (nomatch h.1), fun h => (nomatch h.1)⟩
  | error g =>
      by_cases hwrong : Wrong g
      · refine ⟨fun ⟨hf, hkind⟩ => absurd ?_ hkind,
          fun ⟨hf, hno⟩ => absurd (Except.error.inj hf ▸ hwrong) hno⟩
        cases hwrong <;> cases hf <;> rfl
      · have hsame : reported (.error g) = .error g := by
          unfold reported
          split
          · rename_i heq
            exact absurd (Except.error.inj heq ▸ .misuse _) hwrong
          · rename_i heq
            exact absurd (Except.error.inj heq ▸ .refused _) hwrong
          · rfl
        rw [hsame]
        exact ⟨fun ⟨hf, _⟩ => ⟨hf, Except.error.inj hf ▸ hwrong⟩,
          fun ⟨hf, hno⟩ => ⟨hf, hr f hf hno⟩⟩

theorem Untrimmed.kind_ne {f : Fault} (h : Untrimmed find f) : f.kind ≠ reportedKind := by
  cases h <;> exact fun h => absurd h (by simp [Fault.kind, reportedKind])

/-- The faults with which loading a configuration stumbles before it comes to report anything. -/
inductive Unreported (w : World) (profile : Option String) (overrides : Bindings)
    (searchDir : Option Path) : Fault → Prop
  /-- The file of the user is spoiled. -/
  | user {f : Fault} (h : Spoils w.host.toml w.files w.settings f) :
      Unreported w profile overrides searchDir f
  /-- A file of the project that is asked is spoiled, or the one that counts holds no table. -/
  | project {v : Value} {f : Fault} (hv : Says w.host.toml w.files w.settings v)
      (h : Search w.host.toml w.files (projectBase w.directory searchDir).1 projectFiles
        (.error f)) : Unreported w profile overrides searchDir f
  /-- The profile that is asked for is looked up in something that is no table. -/
  | profiles {s : Sources} {name : String} {v : Value} (hs : s.Found w searchDir)
      (hprofile : profile = some name) (hname : name ≠ "")
      (hv : s.user.get? profilesKey = some v) (hno : ¬ isTable v) :
      Unreported w profile overrides searchDir (.noAttribute v.kindName "get")
  /-- An extension is no text. -/
  | extension {s : Sources} {f : Fault} (hs : s.Found w searchDir) (hprofile : s.profile = profile)
      (hoverrides : s.overrides = overrides) (hasked : s.CanBeAsked)
      (hknown : ∀ name v, s.override? name = some v → name ∈ fieldNames)
      (hf : Untrimmed s.find? f) : Unreported w profile overrides searchDir f

variable {w : World} {profile : Option String} {overrides : Bindings} {searchDir : Option Path}

theorem Unreported.kind_ne {f : Fault} (h : Unreported w profile overrides searchDir f) :
    f.kind ≠ reportedKind := by
  cases h with
  | user h => exact h.kind_ne
  | project _ h => exact h.kind_ne
  | profiles => exact fun h => absurd h (by simp [Fault.kind, reportedKind])
  | extension _ _ _ _ _ hf => exact hf.kind_ne

/-- Where the files say something and the profiles can be asked, loading goes through with an
    extension that is no text. -/
theorem load_extension_iff {s : Sources} (hs : s.Found w searchDir) (hasked : s.CanBeAsked)
    (ho : s.overrides.keys.Nodup) {f : Fault} :
    ((load s.profile s.overrides searchDir).perform w).1 = .error f ∧ f.kind ≠ reportedKind ↔
      (∀ name v, s.override? name = some v → name ∈ fieldNames) ∧ Untrimmed s.find? f := by
  obtain ⟨chosen, hfields, hvalues, hload⟩ := load_found hs hasked
  have hgiven : ∀ k ∈ fieldNames, (chosen.update (givenOverrides s.overrides)).get? k = s.find? k :=
    fun k hk => update_givenOverrides_get? ho (hvalues k hk)
  have hunknown := unknownField?_update ho hfields
  have hbuild : ∀ g, ofFields (chosen.update (givenOverrides s.overrides)) = .error g ∧ ¬ Wrong g ↔
      (∀ name v, s.override? name = some v → name ∈ fieldNames) ∧ Untrimmed s.find? g := by
    intro g
    unfold ofFields
    cases hfirst : unknownField? (chosen.update (givenOverrides s.overrides)) with
    | some name =>
        obtain ⟨name, v, hv, hno⟩ := hunknown.mp (Option.isSome_iff_exists.mpr ⟨_, hfirst⟩)
        refine ⟨fun ⟨hg, hwrong⟩ => absurd ?_ hwrong, fun h => absurd (h.1 name v hv) hno⟩
        cases hg
        exact .misuse _
    | none =>
        have hknown : ∀ name v, s.override? name = some v → name ∈ fieldNames := by
          intro name v hv
          by_contra hno
          have hsome := hunknown.mpr ⟨name, v, hv, hno⟩
          rw [hfirst] at hsome
          cases hsome
        exact (ofKnownFields_untrimmed hgiven).trans (and_iff_right hknown).symm
  rw [hload, reported_error_iff fun g hg hwrong => ((hbuild g).mp ⟨hg, hwrong⟩).2.kind_ne, hbuild]

theorem load_of_readAll {f : Fault} (h : ((readAll searchDir).perform w).1 = .error f) :
    ((load profile overrides searchDir).perform w).1 = .error f :=
  Stateful.perform_bind_of_error h _

theorem readAll_user {f : Fault} (h : (userSettings.perform w).1 = .error f) :
    ((readAll searchDir).perform w).1 = .error f :=
  Stateful.perform_bind_of_error h _

/-- What the search of the project ends with is what reading the files ends with. -/
theorem readAll_project {b : Bindings} {w' : World} {f : Fault}
    (huser : userSettings.perform w = (.ok b, w'))
    (h : ((projectSettings (projectBase w'.directory searchDir).1
      (projectBase w'.directory searchDir).2 projectFiles).perform w').1 = .error f) :
    ((readAll searchDir).perform w).1 = .error f := by
  unfold readAll
  rw [Stateful.perform_bind_ok huser, Stateful.perform_bind_ok (Stateful.perform_get _)]
  exact Stateful.perform_bind_of_error h _

theorem projectSettings_error {base : Path} {names : List String} {f : Fault}
    (h : Search w.host.toml w.files base names (.error f)) (shownBase : String) :
    ((projectSettings base shownBase names).perform w).1 = .error f := by
  have hresult := (projectSettings_search h shownBase rfl rfl).1
  cases hr : ((projectSettings base shownBase names).perform w).1 with
  | ok found =>
      rw [hr] at hresult
      cases hresult
  | error g =>
      rw [hr] at hresult
      cases hresult
      rfl

/-- A profile that is looked up in something that is no table ends loading. -/
theorem load_profiles {s : Sources} {name : String} {v : Value} (hs : s.Found w searchDir)
    (hname : name ≠ "") (hv : s.user.get? profilesKey = some v) (hno : ¬ isTable v) :
    ((load (some name) overrides searchDir).perform w).1 =
      .error (.noAttribute v.kindName "get") := by
  obtain ⟨-, hproject, hread⟩ := readAll_found hs
  obtain ⟨es, hes⟩ := perform_of_quiet (readAll_quiet searchDir) hread
  obtain ⟨es', hwarn⟩ := warnUnknown_perform "config_file" s.together
    { w with events := es ++ w.events }
  have hsettings : profileSettings s.together name = .error (.noAttribute v.kindName "get") := by
    rw [profileSettings, together_noProfiles hproject hv hno, Option.getD_some]
    cases v with
    | dict es => exact absurd rfl hno
    | _ => rfl
  unfold load
  rw [Stateful.perform_bind_ok hes, Stateful.perform_bind_ok hwarn]
  refine Stateful.perform_bind_of_error ?_ _
  simp only [chosenSettings, hsettings]
  rfl

/-- Loading a configuration fails with a fault that is no report exactly if it is one of these;
    so with these exceptions there is a configuration or a report. -/
theorem load_unreported_iff (ho : overrides.keys.Nodup) (f : Fault) :
    ((load profile overrides searchDir).perform w).1 = .error f ∧ f.kind ≠ reportedKind ↔
      Unreported w profile overrides searchDir f := by
  constructor
  · rintro ⟨hload, hkind⟩
    -- The sources are read in their order, and reading one goes well, fails without a report, or is
    -- reported.
    rcases userSettings_cases w with ⟨v, hv⟩ | ⟨g, hg⟩ | ⟨g, hg, hgkind⟩
    · obtain ⟨es, huser⟩ := perform_of_quiet userSettings_quiet (userSettings_said hv)
      rcases search_cases (projectBase w.directory searchDir).1
        (projectBase w.directory searchDir).2 projectFiles { w with events := es ++ w.events } with
        ⟨g | project, hr⟩ | ⟨g, hg, hgkind⟩
      · rw [load_of_readAll (readAll_project huser (projectSettings_error hr _))] at hload
        cases hload
        exact .project hv hr
      · let s : Sources := ⟨tableOf v, project, profile, overrides⟩
        have hs : s.Found w searchDir := ⟨⟨v, hv, rfl⟩, hr⟩
        by_cases hasked : s.CanBeAsked
        · obtain ⟨hknown, hf⟩ := (load_extension_iff hs hasked ho).mp ⟨hload, hkind⟩
          exact .extension hs rfl rfl hasked hknown hf
        · unfold Sources.CanBeAsked at hasked
          push Not at hasked
          obtain ⟨name, hprofile, hname, u, hu, hno⟩ := hasked
          rw [show profile = some name from hprofile, load_profiles hs hname hu hno] at hload
          cases hload
          exact .profiles hs hprofile hname hu hno
      · rw [load_of_readAll (readAll_project huser hg)] at hload
        cases hload
        exact absurd hgkind hkind
    · rw [load_of_readAll (readAll_user (userSettings_spoils hg))] at hload
      cases hload
      exact .user hg
    · rw [load_of_readAll (readAll_user hg)] at hload
      cases hload
      exact absurd hgkind hkind
  · intro h
    refine ⟨?_, h.kind_ne⟩
    cases h with
    | user h => exact load_of_readAll (readAll_user (userSettings_spoils h))
    | project hv h =>
        obtain ⟨es, huser⟩ := perform_of_quiet userSettings_quiet (userSettings_said hv)
        exact load_of_readAll (readAll_project huser
          (projectSettings_error (w := { w with events := es ++ w.events }) h _))
    | profiles hs hprofile hname hv hno =>
        subst hprofile
        exact load_profiles hs hname hv hno
    | extension hs hprofile hoverrides hasked hknown hf =>
        subst hprofile hoverrides
        exact ((load_extension_iff hs hasked ho).mpr ⟨hknown, hf⟩).1

/-- A user whose settings give a number for an extension. -/
def numbered : World :=
  let settings := Path.ofString "home/config.toml"
  .ofFiles (Files.empty.writeDeep settings (.file (.text "compiled_extension = 5\n") 10)) 0 ""
    settings

/-- The kind and the message of what loading fails with. -/
def failure (r : Except Fault Config) : Option (String × String) :=
  match r with
  | .ok _ => none
  | .error f => some (f.kind, f.message)

theorem load_numbered : failure ((load none [] none).perform numbered).1 =
    some ("AttributeError", "'int' object has no attribute 'strip'") := by decide +kernel

/-- A number for an extension goes through as the fault of what is asked of it. -/
theorem load_unreported_numbered :
    (Bindings.keys []).Nodup ∧
      ∃ f, ((load none [] none).perform numbered).1 = .error f ∧ f.kind = "AttributeError" ∧
        Unreported numbered none [] none f := by
  have hgiven : (Bindings.keys []).Nodup := List.nodup_nil
  have hfailure := load_numbered
  rcases hload : ((load none [] none).perform numbered).1 with f | c
  · rw [hload] at hfailure
    have hkind : f.kind = "AttributeError" := congrArg Prod.fst (Option.some.inj hfailure)
    exact ⟨hgiven, f, rfl, hkind, (load_unreported_iff hgiven f).mp
      ⟨hload, by rw [hkind]; decide⟩⟩
  · rw [hload] at hfailure
    cases hfailure

/-- Not every bad configuration is reported as one. -/
theorem not_reported :
    ¬∀ (w : World) (profile : Option String) (overrides : Bindings) (searchDir : Option Path),
      overrides.keys.Nodup →
      (∃ c, ((load profile overrides searchDir).perform w).1 = .ok c) ∨
        ∃ f, ((load profile overrides searchDir).perform w).1 = .error f ∧
          f.kind = reportedKind := by
  intro h
  have hfailure := load_numbered
  rcases h numbered none [] none List.nodup_nil with ⟨c, hc⟩ | ⟨f, hf, hkind⟩
  · rw [hc] at hfailure
    cases hfailure
  · rw [hf] at hfailure
    have hattribute : f.kind = "AttributeError" := congrArg Prod.fst (Option.some.inj hfailure)
    rw [hattribute] at hkind
    exact absurd hkind (by decide)

end Config

end Stencil
