import Stencil.Proofs.Consulting

/-!
# Precedence of the sources of a configuration

A configuration is put together from five sources: the user's settings, the settings of the
project, a profile that either of them may hold, and overrides, and what none of them says
has a default. For every field the source that comes first in the order override, profile,
project, user decides alone. A profile is taken as a whole from the project if the project
has one of its name, and a default depends on another field only for the directory of
compiled templates, which is under the root that was found.

How a file is read is up to the host: it may be any reader that gives tables. Loading goes about
it the other way round. It starts with the last source and lays the
others over it, takes the profiles out of the tables and puts them back, and leaves out what
is no field. What is shown here is that this comes to the rule, and that loading fails
exactly if the two extensions that the rule gives cannot stand together or an override is
for no field.

## Main definitions

* `Config.tableIn?`: The settings in a file.
* `Config.Sources`: What a configuration is put together from.
* `Config.Sources.find?`: The rule by which the value of a field is found.
* `Config.Sources.config`, `Config.Sources.Refused`: What the rule gives, and when it does
  not give anything.

## Theorems

* `Config.ofKnownFields_declared`: Building a configuration normalizes field by field.
* `Config.readAll_found`: The settings that are read from the files.
* `Config.chosenSettings_found`: What is left when everything was laid over everything.
* `Config.load_precedence`: Loading follows the rule.
-/

namespace Stencil

namespace Config

open Loader

/-! ## Normalizing -/

/-- The fields that are read as texts. -/
def textFields : List String :=
  ["template_root", "cache_dir", "compiled_extension", "raw_extension", "locale_dir"]

/-- Whether a value is a text, and whether it is a table. -/
def isText : Value → Bool
  | .text _ => true
  | _ => false

def isTable : Value → Bool
  | .dict _ => true
  | _ => false

theorem exists_of_isText {v : Value} (h : isText v) : ∃ s, v = .text s := by
  cases v with
  | text s => exact ⟨s, rfl⟩
  | _ => cases h

theorem exists_of_isTable {v : Value} (h : isTable v) : ∃ es, v = .dict es := by
  cases v with
  | dict es => exact ⟨es, rfl⟩
  | _ => cases h

/-- Whether an extension is blank. -/
def isBlank (ext : String) : Bool := (Text.trim ext.toList).isEmpty

/-- An extension with exactly one leading dot. -/
def dotted (ext : String) : String :=
  String.ofList ('.' :: (Text.trim ext.toList).dropWhile (· == '.'))

section

variable (find : String → Option Value)

/-- The text of a field. -/
def textOf (name default : String) : String :=
  match find name with
  | some (.text s) => s
  | _ => default

/-- The path of a field, if it has a value. -/
def pathAt? (name : String) : Option Path :=
  match find name with
  | some (.text s) => some (Path.ofString s)
  | _ => none

/-- The configuration with the values that are found for the fields. -/
def declared : Config where
  templateRoot := Path.ofString (textOf find "template_root" "templates")
  cacheDir := (pathAt? find "cache_dir").getD
    (Path.ofString (textOf find "template_root" "templates") ++ defaultCacheName)
  compiledExtension := dotted (textOf find "compiled_extension" ".j2")
  rawExtension := dotted (textOf find "raw_extension" ".pyt")
  translationDomain := (find "translation_domain").getD (.text "messages")
  localeDir := pathAt? find "locale_dir"
  languages := languagesOf ((find "languages").getD (.list []))
  enableI18n := (find "enable_i18n").getD (.bool true)
  strictUndefined := (find "strict_undefined").getD (.bool true)

/-- The extensions that are found cannot stand together: one is blank, or they are the same
    in the end. -/
def ExtensionsRefused : Prop :=
  isBlank (textOf find "compiled_extension" ".j2") ∨ isBlank (textOf find "raw_extension" ".pyt") ∨
    dotted (textOf find "compiled_extension" ".j2") = dotted (textOf find "raw_extension" ".pyt")

/-- Every field that is read as a text has one, if it has a value. -/
def TextsFound : Prop := ∀ k ∈ textFields, ∀ v ∈ find k, isText v

end

theorem normalizeExtension_eq (ext : String) :
    normalizeExtension ext =
      if isBlank ext then .error (.refused .blankExtension) else .ok (dotted ext) := rfl

variable {find : String → Option Value}

/-- A field that is read as a text has its text or the default. -/
theorem getD_found (hfind : TextsFound find) {name : String} (hname : name ∈ textFields)
    (default : String) : (find name).getD (.text default) = .text (textOf find name default) := by
  unfold textOf
  cases h : find name with
  | none => rfl
  | some v =>
      obtain ⟨s, rfl⟩ := exists_of_isText (hfind name hname v h)
      rfl

theorem pathOf?_found (hfind : TextsFound find) {name : String} (hname : name ∈ textFields) :
    pathOf? ((find name).getD .null) = .ok (pathAt? find name) := by
  unfold pathAt?
  cases h : find name with
  | none => rfl
  | some v =>
      obtain ⟨s, rfl⟩ := exists_of_isText (hfind name hname v h)
      rfl

/-- Building a configuration from known fields normalizes field by field, and refuses the
    extensions that cannot stand together. -/
theorem ofKnownFields_declared {given : Bindings} (hgiven : ∀ k ∈ fieldNames, given.get? k = find k)
    (hfind : TextsFound find) :
    ofKnownFields given =
      if isBlank (textOf find "compiled_extension" ".j2") then .error (.refused .blankExtension)
      else if isBlank (textOf find "raw_extension" ".pyt") then .error (.refused .blankExtension)
      else if (declared find).compiledExtension = (declared find).rawExtension then
        .error (.refused (.sharedExtension (declared find).rawExtension))
      else .ok (declared find) := by
  have htext (name default : String) (hname : name ∈ textFields) (hfield : name ∈ fieldNames) :
      (given.get? name).getD (.text default) = .text (textOf find name default) := by
    rw [hgiven name hfield, getD_found hfind hname]
  have hpath (name : String) (hname : name ∈ textFields) (hfield : name ∈ fieldNames) :
      pathOf? ((given.get? name).getD .null) = .ok (pathAt? find name) := by
    rw [hgiven name hfield, pathOf?_found hfind hname]
  unfold ofKnownFields
  simp only [htext "template_root" _ (by decide) (by decide),
    htext "compiled_extension" _ (by decide) (by decide),
    htext "raw_extension" _ (by decide) (by decide), hpath "cache_dir" (by decide) (by decide),
    hpath "locale_dir" (by decide) (by decide), hgiven "translation_domain" (by decide),
    hgiven "languages" (by decide), hgiven "enable_i18n" (by decide),
    hgiven "strict_undefined" (by decide), extensionOf, normalizeExtension_eq, pathOf]
  simp only [bind, Except.bind, pure, Except.pure, throw, throwThe, MonadExceptOf.throw]
  -- The extensions are looked at one after the other, and then together.
  by_cases hcompiled : isBlank (textOf find "compiled_extension" ".j2")
  · simp only [hcompiled, if_true]
  · by_cases hraw : isBlank (textOf find "raw_extension" ".pyt")
    · simp only [hcompiled, hraw, if_true, if_false, Bool.false_eq_true]
    · simp only [hcompiled, hraw, if_false, Bool.false_eq_true, declared]
      rfl

/-! ## The rule -/

/-- The settings in a file: none if it is not there, and else the table that is read from it. -/
def tableIn? (reader : Toml.Reader) (files : Files) (file : Path) : Option Bindings := do
  if ← (files.isFile file).toOption then
    let data ← (files.read file >>= reader.read).toOption
    match ← (settingsIn file.name data).toOption with
    | .dict es => some (Bindings.ofEntries es)
    | _ => none
  else some []

/-- What a configuration is put together from: the settings of the user, those of the
    project, the profile that is asked for, and overrides. -/
structure Sources where
  user : Bindings
  project : Bindings
  profile : Option String
  overrides : Bindings

namespace Sources

/-- The sources in the files. The project's settings are the first ones that say
    anything. -/
def inFiles? (w : World) (profile : Option String) (overrides : Bindings)
    (searchDir : Option Path) : Option Sources := do
  let user ← tableIn? w.host.toml w.files w.settings
  let tables ← projectFiles.mapM fun name =>
    tableIn? w.host.toml w.files ((projectBase w.directory searchDir).1 ++ Path.ofString name)
  return ⟨user, (tables.find? (!·.isEmpty)).getD [], profile, overrides⟩

/-- The profiles in some settings. -/
def profilesIn (b : Bindings) : Bindings :=
  match b.get? profilesKey with
  | some (.dict es) => Bindings.ofEntries es
  | _ => []

variable (s : Sources)

/-- What stands under a name among the profiles: what the project has, and else what the
    user has. -/
def profileEntry? (name : String) : Option Value :=
  ((profilesIn s.project).get? name).or ((profilesIn s.user).get? name)

/-- The settings of the profile that is asked for. -/
def profileTable : Bindings :=
  match s.profile with
  | none | some "" => []
  | some name =>
    match s.profileEntry? name with
    | some (.dict es) => Bindings.ofEntries es
    | _ => []

/-- The override for a field. Null is none. -/
def override? (name : String) : Option Value :=
  match s.overrides.get? name with
  | some .null => none
  | found => found

/-- The value of a field: the override, else that of the profile, else that of the project,
    else that of the user. -/
def find? (name : String) : Option Value :=
  (s.override? name).or ((s.profileTable.get? name).or
    ((s.project.get? name).or (s.user.get? name)))

/-- The configuration that the sources give. -/
def config : Config := declared s.find?

/-- The sources give none: an override is for no field, or the extensions cannot stand
    together. -/
def Refused : Prop :=
  (∃ name v, s.override? name = some v ∧ name ∉ fieldNames) ∨ ExtensionsRefused s.find?

/-- Sources of the form that is expected: overrides without repeated keys, profiles that are
    tables, and texts where texts are read. -/
structure WellFormed : Prop where
  overrides : s.overrides.keys.Nodup
  profiles : ∀ b ∈ [s.user, s.project], ∀ v ∈ Bindings.get? b profilesKey, isTable v
  texts : TextsFound s.find?

instance : Decidable s.WellFormed :=
  decidable_of_iff (s.overrides.keys.Nodup ∧
      (∀ b ∈ [s.user, s.project], ∀ v ∈ Bindings.get? b profilesKey, isTable v) ∧
      ∀ k ∈ textFields, ∀ v ∈ s.find? k, isText v)
    ⟨fun ⟨ho, hp, ht⟩ => ⟨ho, hp, ht⟩, fun h => ⟨h.overrides, h.profiles, h.texts⟩⟩

/-- The settings of the user and the project together. -/
def together : Bindings := if s.project.isEmpty then s.user else merge s.user s.project

end Sources

/-! ## Reading the files -/

/-- What the sources hold is what is found in the files, whatever that is. -/
structure Sources.Found (w : World) (searchDir : Option Path) (s : Sources) : Prop where
  user : ∃ v, Says w.host.toml w.files w.settings v ∧ tableOf v = s.user
  project : Search w.host.toml w.files (projectBase w.directory searchDir).1 projectFiles
    (.ok s.project)

theorem toOption_eq_some {ε α : Type} {r : Except ε α} {x : α} (h : r.toOption = some x) :
    r = .ok x := by
  cases r with
  | error e => cases h
  | ok y => exact congrArg Except.ok (Option.some.inj h)

theorem tableOf_toValue (b : Bindings) : tableOf b.toValue = b := Bindings.ofEntries_toValue b

theorem tableOf_table {v : Value} (h : Toml.Proper v) : Toml.Table (tableOf v) := by
  cases v with
  | dict es => exact h.entries.1
  | _ => exact .nil

/-- A file that holds a table says it. -/
theorem said_of_tableIn? {reader : Toml.Reader} {files : Files} {file : Path} {b : Bindings}
    (h : tableIn? reader files file = some b) : Says reader files file b.toValue := by
  obtain ⟨there, hthere, h⟩ := Option.bind_eq_some_iff.mp h
  split at h
  · rename_i hfile
    subst hfile
    obtain ⟨data, hdata, h⟩ := Option.bind_eq_some_iff.mp h
    obtain ⟨v, hv, h⟩ := Option.bind_eq_some_iff.mp h
    have hsaid : Says reader files file v := .settings
      ⟨toOption_eq_some hthere, toOption_eq_some hdata⟩ (toOption_eq_some hv)
    split at h
    · cases h
      rw [hsaid.proper.entries.2]
      exact hsaid
    · cases h
  · rename_i hfile
    cases h
    exact .nothing (by rw [toOption_eq_some hthere, Bool.eq_false_iff.mpr hfile])

/-- Where all files of a project hold tables, the first that says anything is found. -/
theorem search_of_tables {reader : Toml.Reader} {files : Files} {base : Path}
    {names : List String} {tables : List Bindings}
    (h : names.mapM (fun n => tableIn? reader files (base ++ Path.ofString n)) = some tables) :
    Search reader files base names (.ok ((tables.find? (!·.isEmpty)).getD [])) := by
  induction names generalizing tables with
  | nil =>
      cases h
      exact .silent
  | cons n names ih =>
      rw [List.mapM_cons] at h
      obtain ⟨b, hb, h⟩ := Option.bind_eq_some_iff.mp h
      obtain ⟨bs, hbs, h⟩ := Option.bind_eq_some_iff.mp h
      cases h
      have hsaid := said_of_tableIn? hb
      -- A file that is there counts only if it says anything.
      cases b with
      | nil =>
          have hrest := ih hbs
          exact .passed hsaid rfl hrest
      | cons e b =>
          have hfound : Search reader files base (n :: names)
              (.ok (tableOf (Bindings.toValue (e :: b)))) := .found hsaid rfl rfl
          rwa [tableOf_toValue] at hfound

theorem Sources.found_of_inFiles? {w : World} {profile : Option String} {overrides : Bindings}
    {searchDir : Option Path} {s : Sources}
    (h : Sources.inFiles? w profile overrides searchDir = some s) : s.Found w searchDir := by
  obtain ⟨user, huser, h⟩ := Option.bind_eq_some_iff.mp h
  obtain ⟨tables, htables, h⟩ := Option.bind_eq_some_iff.mp h
  cases h
  exact ⟨⟨_, said_of_tableIn? huser, tableOf_toValue user⟩, search_of_tables htables⟩

/-- The settings of the user and the project are read, and are tables. -/
theorem readAll_found {w : World} {searchDir : Option Path} {s : Sources}
    (h : s.Found w searchDir) :
    Toml.Table s.user ∧ Toml.Table s.project ∧
      ((readAll searchDir).perform w).1 = .ok s.together := by
  obtain ⟨v, hsaid, huser⟩ := h.user
  refine ⟨huser ▸ tableOf_table hsaid.proper, h.project.table, ?_⟩
  obtain ⟨es, hes⟩ := perform_of_quiet userSettings_quiet (userSettings_said hsaid)
  obtain ⟨hresult, hset⟩ := projectSettings_search (w := { w with events := es ++ w.events })
    h.project (projectBase w.directory searchDir).2 rfl rfl
  obtain ⟨found, hfound, hproject⟩ :
      ∃ found, ((projectSettings (projectBase w.directory searchDir).1
        (projectBase w.directory searchDir).2 projectFiles).perform
          { w with events := es ++ w.events }).1 = .ok found ∧ foundTable found = s.project := by
    cases hr : ((projectSettings (projectBase w.directory searchDir).1
        (projectBase w.directory searchDir).2 projectFiles).perform
          { w with events := es ++ w.events }).1 with
    | error f =>
        rw [hr] at hresult
        cases hresult
    | ok found =>
        rw [hr] at hresult
        exact ⟨found, rfl, Except.ok.inj hresult⟩
  obtain ⟨es', hes'⟩ := perform_of_quiet (projectSettings_quiet _ _ _) hfound
  have htogether : (found.map fun p => merge (tableOf v) p.2).getD (tableOf v) = s.together := by
    rw [huser, Sources.together, ← hproject]
    cases found with
    | none => rfl
    | some p =>
        -- What was found says something.
        exact (if_neg fun hempty => hset p hfound (List.isEmpty_iff.mp hempty)).symm
  unfold readAll
  rw [Stateful.perform_bind_ok hes, Stateful.perform_bind_ok (Stateful.perform_get _)]
  simp only
  rw [Stateful.perform_bind_ok hes', ← htogether]
  split
  · rw [Stateful.perform_bind_ok (Act.perform_log _ _ _ _ _)]
    rfl
  · rfl

/-! ## What is laid over what -/

section

variable {s : Sources}

/-- The settings of the project lie over those of the user. -/
theorem together_get? (hproject : Toml.Table s.project) {k : String} (hk : k ≠ profilesKey) :
    s.together.get? k = (s.project.get? k).or (s.user.get? k) := by
  unfold Sources.together
  split
  · rename_i hempty
    rw [List.isEmpty_iff.mp hempty]
    rfl
  · have hnodup : (withoutProfiles s.project).keys.Nodup :=
      Bindings.nodup_filter _ hproject.keys
    simp only [merge]
    rw [Bindings.get?_update_of_nodup _ hnodup, withoutProfiles,
      Bindings.get?_filter_keys _ (· != profilesKey) (bne_iff_ne.mpr hk)]
    split
    · rw [Bindings.get?_set_of_ne _ _ hk]
    · rfl

theorem withoutProfiles_get? (b : Bindings) : (withoutProfiles b).get? profilesKey = none := by
  refine Option.eq_none_iff_forall_ne_some.mpr fun v hv => ?_
  have hkept := (List.mem_filter.mp (Bindings.mem_of_get? hv)).2
  exact bne_iff_ne.mp hkept rfl

/-- The profiles are a table, like all settings. -/
theorem profilesIn_table {b : Bindings} (hb : Toml.Table b) :
    Toml.Table (Sources.profilesIn b) := by
  unfold Sources.profilesIn
  split
  · rename_i hes
    exact (hb.get? hes).entries.1
  · exact .nil

/-- Profiles that are a table, or none at all. -/
theorem getD_profiles {b : Bindings} (hb : Toml.Table b)
    (h : ∀ v ∈ b.get? profilesKey, isTable v) :
    (b.get? profilesKey).getD (.dict []) = (Sources.profilesIn b).toValue := by
  unfold Sources.profilesIn
  cases hv : b.get? profilesKey with
  | none => rfl
  | some v =>
      obtain ⟨es, rfl⟩ := exists_of_isTable (h v hv)
      exact (hb.get? hv).entries.2.symm

/-- The profiles that the settings of the user and the project have together. Those of the
    project count only if they are a table. -/
theorem together_profiles (huser : Toml.Table s.user) (hproject : Toml.Table s.project)
    (hprofiles : ∀ v ∈ s.user.get? profilesKey, isTable v) :
    (s.together.get? profilesKey).getD (.dict []) =
      ((Sources.profilesIn s.user).update (Sources.profilesIn s.project)).toValue := by
  have husers := getD_profiles huser hprofiles
  unfold Sources.together
  split
  · rename_i hempty
    rw [husers, List.isEmpty_iff.mp hempty]
    rfl
  · have hnodup : (withoutProfiles s.project).keys.Nodup :=
      Bindings.nodup_filter _ hproject.keys
    simp only [merge]
    rw [Bindings.get?_update_of_nodup _ hnodup, withoutProfiles_get?, Option.none_or, husers]
    -- What is no table counts as no profiles at all.
    by_cases hps : ∀ v ∈ s.project.get? profilesKey, isTable v
    · rw [getD_profiles hproject hps]
      simp only [Bindings.toValue, Bindings.ofEntries_toValue, Bindings.get?_set_self,
        Option.getD_some]
    · push Not at hps
      obtain ⟨v, hv, hno⟩ := hps
      have hnone : Sources.profilesIn s.project = [] := by
        unfold Sources.profilesIn
        rw [hv]
        cases v with
        | dict es => exact absurd rfl hno
        | _ => rfl
      rw [hnone, hv, Option.getD_some]
      cases v with
      | dict es => exact absurd rfl hno
      | _ => exact husers

/-- What is no table under the name of the profiles stays what the user has there. -/
theorem together_noProfiles {v : Value} (hproject : Toml.Table s.project)
    (hv : s.user.get? profilesKey = some v) (hno : ¬ isTable v) :
    s.together.get? profilesKey = some v := by
  unfold Sources.together
  split
  · exact hv
  · have hnodup : (withoutProfiles s.project).keys.Nodup :=
      Bindings.nodup_filter _ hproject.keys
    simp only [merge]
    rw [Bindings.get?_update_of_nodup _ hnodup, withoutProfiles_get?, Option.none_or, hv,
      Option.getD_some]
    cases v with
    | dict es => exact absurd rfl hno
    | _ => exact hv

/-- The profiles of the project lie over those of the user, each as a whole. -/
theorem profileSettings_together (huser : Toml.Table s.user) (hproject : Toml.Table s.project)
    (hprofiles : ∀ v ∈ s.user.get? profilesKey, isTable v) (name : String) :
    profileSettings s.together name = .ok ((s.profileEntry? name).getD .null) := by
  have hentry : s.profileEntry? name =
      ((Sources.profilesIn s.user).update (Sources.profilesIn s.project)).get? name :=
    (Bindings.get?_update_of_nodup _ (profilesIn_table hproject).keys name).symm
  rw [profileSettings, together_profiles huser hproject hprofiles]
  exact congrArg (fun v => Except.ok (v.getD Value.null))
    ((Value.findEntry_toValue name _).trans hentry.symm)

/-- The settings of a profile are a table, like all settings. -/
theorem profileTable_table (huser : Toml.Table s.user) (hproject : Toml.Table s.project) :
    Toml.Table s.profileTable := by
  have hentry (name : String) {es : List (Value × Value)}
      (h : s.profileEntry? name = some (.dict es)) : Toml.Table (Bindings.ofEntries es) := by
    rcases Option.or_eq_some_iff.mp h with h | ⟨-, h⟩
    · exact ((profilesIn_table hproject).get? h).entries.1
    · exact ((profilesIn_table huser).get? h).entries.1
  unfold Sources.profileTable
  split
  · exact .nil
  · exact .nil
  · split
    · rename_i h
      exact hentry _ h
    · exact .nil

theorem warnUnknown_perform (origin : String) (b : Bindings) (w : World) :
    ∃ es, (warnUnknown origin b).perform w = (.ok (), { w with events := es ++ w.events }) := by
  refine perform_of_quiet (warnUnknown_quiet origin b) ?_
  induction b generalizing w with
  | nil => rfl
  | cons e b ih =>
      rw [warnUnknown]
      split
      · exact ih _
      · exact ih _

theorem knownSettings_get? (raw : Bindings) {k : String} (hk : k ∈ fieldNames) :
    (knownSettings raw).get? k = raw.get? k :=
  Bindings.get?_filter_keys raw (fieldNames.contains ·) (List.contains_iff_mem.mpr hk)

theorem mem_keys_update {b ws : Bindings} {k : String} (h : k ∈ (b.update ws).keys) :
    k ∈ b.keys ∨ k ∈ ws.keys := by
  rw [Bindings.keys_update, List.mem_append, List.mem_eraseDups] at h
  exact h.imp_right fun h => (List.mem_filter.mp h).1

/-- If a profile is asked for, the user's profiles are a table that can be asked. -/
def Sources.CanBeAsked (s : Sources) : Prop :=
  ∀ name, s.profile = some name → name ≠ "" → ∀ v ∈ s.user.get? profilesKey, isTable v

theorem Sources.WellFormed.canBeAsked (hs : s.WellFormed) : s.CanBeAsked :=
  fun _ _ _ => hs.profiles _ (List.mem_cons_self ..)

/-- The profile lies over the project, the project over the user, and only fields are left. -/
theorem chosenSettings_found (hs : s.CanBeAsked) (huser : Toml.Table s.user)
    (hproject : Toml.Table s.project) (w : World) :
    ∃ chosen, ((chosenSettings s.together s.profile).perform w).1 = .ok chosen ∧
      (∀ k ∈ chosen.keys, k ∈ fieldNames) ∧
      ∀ k ∈ fieldNames, chosen.get? k =
        (s.profileTable.get? k).or ((s.project.get? k).or (s.user.get? k)) := by
  have hfields : profilesKey ∉ fieldNames := by decide
  have hbase (k : String) (hk : k ∈ fieldNames) : (knownSettings s.together).get? k =
      (s.project.get? k).or (s.user.get? k) := by
    rw [knownSettings_get? _ hk, together_get? hproject fun h => hfields (h ▸ hk)]
  have hknown := knownSettings_keys s.together
  have htable := profileTable_table huser hproject
  unfold Sources.profileTable at htable ⊢
  cases hprofile : s.profile with
  | none => exact ⟨_, rfl, hknown, hbase⟩
  | some name =>
      rw [hprofile] at htable
      by_cases hname : name = ""
      · subst hname
        exact ⟨_, rfl, hknown, hbase⟩
      · simp only [chosenSettings] at htable ⊢
        rw [profileSettings_together huser hproject (hs name hprofile hname),
          Stateful.perform_bind_ok (Act.perform_ofExcept _ w)]
        -- Only a table is laid over the others.
        rcases hentry : s.profileEntry? name with _ | v
        · exact ⟨_, rfl, hknown, hbase⟩
        · cases v with
          | dict es =>
              rw [hentry] at htable
              replace htable : Toml.Table (Bindings.ofEntries es) := htable
              obtain ⟨es', hwarn⟩ := warnUnknown_perform ("profile:" ++ name)
                (Bindings.ofEntries es)
                (w.log ⟨.info, source, "applying_profile_settings", [("profile", .text name)]⟩)
              simp only [Option.getD_some]
              rw [Stateful.perform_bind_ok (Act.perform_log _ _ _ _ w),
                Stateful.perform_bind_ok hwarn]
              refine ⟨_, rfl, fun k hk => ?_, fun k hk => ?_⟩
              · exact (mem_keys_update hk).elim (hknown k) (knownSettings_keys _ k)
              · have hnodup : (knownSettings (Bindings.ofEntries es)).keys.Nodup :=
                  Bindings.nodup_filter _ htable.keys
                rw [Bindings.get?_update_of_nodup _ hnodup, knownSettings_get? _ hk, hbase k hk]
          | _ => exact ⟨_, rfl, hknown, hbase⟩

theorem isSome_get?_iff {b : Bindings} {k : String} : (b.get? k).isSome ↔ k ∈ b.keys := by
  refine ⟨fun h => ?_, fun h => ?_⟩
  · obtain ⟨v, hv⟩ := Option.isSome_iff_exists.mp h
    exact List.mem_map_of_mem (Bindings.mem_of_get? hv)
  · obtain ⟨⟨_, v⟩, he, rfl⟩ := List.mem_map.mp h
    rw [Bindings.get?, Option.isSome_iff_ne_none, ne_eq, List.lookup_eq_none_iff]
    exact fun hnone => absurd (hnone _ he) (by simp)

/-- The overrides that are given: all that are not null. -/
def givenOverrides (overrides : Bindings) : Bindings :=
  overrides.filter fun e =>
    match e.2 with
    | .null => false
    | _ => true

variable (ho : s.overrides.keys.Nodup)

include ho

theorem givenOverrides_nodup : (givenOverrides s.overrides).keys.Nodup :=
  Bindings.nodup_filter _ ho

theorem givenOverrides_get? (k : String) :
    (givenOverrides s.overrides).get? k = s.override? k := by
  refine Option.ext fun v => ?_
  rw [Bindings.get?_eq_some_iff (givenOverrides_nodup ho), givenOverrides, List.mem_filter,
    ← Bindings.get?_eq_some_iff ho, Sources.override?]
  cases s.overrides.get? k with
  | none => exact ⟨fun h => (nomatch h.1), nofun⟩
  | some w =>
      cases w with
      | null =>
          refine ⟨fun ⟨h, hv⟩ => ?_, nofun⟩
          cases h
          exact nomatch hv
      | _ =>
          refine ⟨fun h => h.1, fun h => ⟨h, ?_⟩⟩
          cases h
          rfl

/-- What the override for a field is laid over, for all fields. -/
theorem update_givenOverrides_get? {chosen : Bindings} {k : String}
    (hchosen : chosen.get? k = (s.profileTable.get? k).or ((s.project.get? k).or (s.user.get? k))) :
    (chosen.update (givenOverrides s.overrides)).get? k = s.find? k := by
  rw [Bindings.get?_update_of_nodup _ (givenOverrides_nodup ho), givenOverrides_get? ho, hchosen]
  rfl

/-- A key that is no field can only come from an override. -/
theorem unknownField?_update {chosen : Bindings}
    (hchosen : ∀ k ∈ chosen.keys, k ∈ fieldNames) :
    (unknownField? (chosen.update (givenOverrides s.overrides))).isSome ↔
      ∃ name v, s.override? name = some v ∧ name ∉ fieldNames := by
  rw [unknownField?, List.find?_isSome]
  refine ⟨fun ⟨name, hname, hfield⟩ => ?_, fun ⟨name, v, hv, hfield⟩ => ?_⟩
  · rw [Bool.not_eq_true', ← Bool.not_eq_true, List.contains_iff_mem] at hfield
    -- It is no key of the settings, which are fields.
    have hgiven := (mem_keys_update hname).resolve_left fun h => hfield (hchosen name h)
    obtain ⟨v, hv⟩ := Option.isSome_iff_exists.mp (isSome_get?_iff.mpr hgiven)
    exact ⟨name, v, givenOverrides_get? ho name ▸ hv, hfield⟩
  · have hsome : ((chosen.update (givenOverrides s.overrides)).get? name).isSome := by
      rw [Bindings.get?_update_of_nodup _ (givenOverrides_nodup ho), givenOverrides_get? ho, hv]
      rfl
    refine ⟨name, isSome_get?_iff.mp hsome, ?_⟩
    rw [Bool.not_eq_true', ← Bool.not_eq_true, List.contains_iff_mem]
    exact hfield

end

/-- The configuration of the settings that were chosen, or a fault that says what is wrong
    with them. -/
theorem ofFields_found {s : Sources} (hs : s.WellFormed) {chosen : Bindings}
    (hfields : ∀ k ∈ chosen.keys, k ∈ fieldNames)
    (hchosen : ∀ k ∈ fieldNames, chosen.get? k =
      (s.profileTable.get? k).or ((s.project.get? k).or (s.user.get? k))) :
    (ofFields (chosen.update (givenOverrides s.overrides)) = .ok s.config ∧ ¬ s.Refused) ∨
      ((∃ m, ofFields (chosen.update (givenOverrides s.overrides)) = .error (.misuse m)) ∨
        ∃ r, ofFields (chosen.update (givenOverrides s.overrides)) = .error (.refused r)) ∧
        s.Refused := by
  have hunknown := unknownField?_update hs.overrides hfields
  have hgiven : ∀ k ∈ fieldNames, (chosen.update (givenOverrides s.overrides)).get? k = s.find? k :=
    fun k hk => update_givenOverrides_get? hs.overrides (hchosen k hk)
  have hknown := ofKnownFields_declared hgiven hs.texts
  unfold ofFields
  cases hfirst : unknownField? (chosen.update (givenOverrides s.overrides)) with
  | some name =>
      have hsome := Option.isSome_iff_exists.mpr ⟨_, hfirst⟩
      exact Or.inr ⟨Or.inl ⟨_, rfl⟩, Or.inl (hunknown.mp hsome)⟩
  | none =>
      have hno : ¬ ∃ name v, s.override? name = some v ∧ name ∉ fieldNames := by
        rw [← hunknown, hfirst]
        exact nofun
      -- The extensions are checked one after the other, and then against each other. The first
      -- check that fails is the fault.
      simp only [hknown]
      split
      · rename_i hblank
        exact Or.inr ⟨Or.inr ⟨_, rfl⟩, Or.inr (Or.inl hblank)⟩
      · rename_i hcompiled
        split
        · rename_i hblank
          exact Or.inr ⟨Or.inr ⟨_, rfl⟩, Or.inr (Or.inr (Or.inl hblank))⟩
        · rename_i hraw
          split
          · rename_i hsame
            exact Or.inr ⟨Or.inr ⟨_, rfl⟩, Or.inr (Or.inr (Or.inr hsame))⟩
          · rename_i hdiffer
            refine Or.inl ⟨rfl, ?_⟩
            rintro (h | h | h | h)
            · exact hno h
            · exact hcompiled h
            · exact hraw h
            · exact hdiffer h

/-- What loading reports of the fault with which building a configuration ends. -/
def reported (r : Except Fault Config) : Except Fault Config :=
  match r with
  | .error (.misuse m) => .error (.invalidConfig (.misuse m))
  | .error (.refused m) => .error (.invalidConfig (.refused m))
  | r => r

/-- That is how loading ends, whatever it logs. -/
theorem reported_perform (r : Except Fault Config) (level : Level) (source name : String)
    (fields : Config → Bindings) (w : World) :
    (Stateful.perform (match r with
      | .ok config => do Act.log level source name (fields config); return config
      | .error (.misuse m) => throw (.invalidConfig (.misuse m))
      | .error (.refused m) => throw (.invalidConfig (.refused m))
      | .error f => throw f) w).1 = reported r := by
  cases r with
  | ok config => rfl
  | error f => cases f <;> rfl

/-- Loading a configuration builds it from what is left when everything was laid over
    everything. -/
theorem load_found {w : World} {searchDir : Option Path} {s : Sources}
    (hfound : s.Found w searchDir) (hs : s.CanBeAsked) :
    ∃ chosen : Bindings, (∀ k ∈ chosen.keys, k ∈ fieldNames) ∧
      (∀ k ∈ fieldNames, chosen.get? k =
        (s.profileTable.get? k).or ((s.project.get? k).or (s.user.get? k))) ∧
      ((load s.profile s.overrides searchDir).perform w).1 =
        reported (ofFields (chosen.update (givenOverrides s.overrides))) := by
  obtain ⟨huser, hproject, hread⟩ := readAll_found hfound
  obtain ⟨es, hes⟩ := perform_of_quiet (readAll_quiet searchDir) hread
  obtain ⟨es', hwarn⟩ := warnUnknown_perform "config_file" s.together
    { w with events := es ++ w.events }
  obtain ⟨chosen, hchosen, hfields, hvalues⟩ := chosenSettings_found hs huser hproject
    { w with events := es' ++ (es ++ w.events) }
  obtain ⟨es'', hes''⟩ := perform_of_quiet (chosenSettings_quiet _ _) hchosen
  refine ⟨chosen, hfields, hvalues, ?_⟩
  unfold load
  rw [Stateful.perform_bind_ok hes, Stateful.perform_bind_ok hwarn, Stateful.perform_bind_ok hes'']
  exact reported_perform _ _ _ _ _ _

/-- Loading a configuration follows the rule: for every field the override decides, else the
    profile, else the project, else the user, and else there is a default. It fails exactly if
    an override is for no field, an extension is blank, or the two are the same. -/
theorem load_precedence {w : World} {profile : Option String} {overrides : Bindings}
    {searchDir : Option Path} {s : Sources}
    (hfiles : Sources.inFiles? w profile overrides searchDir = some s) (hs : s.WellFormed) :
    (¬ s.Refused → ((load profile overrides searchDir).perform w).1 = .ok s.config) ∧
      ((∃ f, ((load profile overrides searchDir).perform w).1 = .error f ∧
        f.kind = "ConfigError") ↔ s.Refused) := by
  have hasked : s.profile = profile ∧ s.overrides = overrides := by
    obtain ⟨user, -, h⟩ := Option.bind_eq_some_iff.mp hfiles
    obtain ⟨tables, -, h⟩ := Option.bind_eq_some_iff.mp h
    cases h
    exact ⟨rfl, rfl⟩
  obtain ⟨rfl, rfl⟩ := hasked
  obtain ⟨chosen, hfields, hvalues, hload⟩ :=
    load_found (Sources.found_of_inFiles? hfiles) hs.canBeAsked
  -- What was read and chosen is a configuration or is refused, and it cannot be both.
  rw [hload]
  rcases ofFields_found hs hfields hvalues with ⟨hok, hgood⟩ | ⟨⟨m, herror⟩ | ⟨r, herror⟩, hbad⟩
  · rw [hok]
    exact ⟨fun _ => rfl, fun ⟨f, hf, _⟩ => (nomatch hf), fun hbad => absurd hbad hgood⟩
  · rw [herror]
    exact ⟨fun hgood => absurd hbad hgood, fun _ => hbad, fun _ => ⟨_, rfl, rfl⟩⟩
  · rw [herror]
    exact ⟨fun hgood => absurd hbad hgood, fun _ => hbad, fun _ => ⟨_, rfl, rfl⟩⟩

/-- A user with settings, and a project with an empty file and two others that say something;
    both have a profile for administrators. -/
def layered : World :=
  let files := [
    ("home/config.toml", "languages = \"de\"\n[profiles.admin]\nstrict_undefined = false\n"),
    (".templateview.toml", "# nothing\n"),
    ("templateview.toml",
      "compiled_extension = \"tpl\"\n[profiles.admin]\ntemplate_root = \"admin\"\n"),
    ("pyproject.toml", "[tool.templateview]\nlanguages = \"fr\"\n")]
  .ofFiles (files.foldl (fun t f =>
    t.writeDeep (Path.ofString f.1) (.file (.text f.2) 10)) .empty) 0 ""
    (Path.ofString "home/config.toml")

/-- The overrides that come with them. One of them is null. -/
def layeredOverrides : Bindings := [("raw_extension", .text "..py"), ("languages", .null)]

/-- The first file that says anything counts, its profile replaces that of the user, and the
    directory of compiled templates is under the root of the profile. -/
theorem load_precedence_layered :
    (∃ s, Sources.inFiles? layered (some "admin") layeredOverrides none = some s ∧ s.WellFormed ∧
      (¬ s.Refused →
        ((load (some "admin") layeredOverrides none).perform layered).1 = .ok s.config)) ∧
    ((load (some "admin") layeredOverrides none).perform layered).1.toOption.map
        (fun c => (c.templateRoot.text, c.cacheDir.text, c.compiledExtension, c.rawExtension)) =
      some ("admin", "admin/cache", ".tpl", ".py") := by
  have hsome : (Sources.inFiles? layered (some "admin") layeredOverrides none).any
      (fun s => decide s.WellFormed) = true := by decide +kernel
  refine ⟨?_, by decide +kernel⟩
  rcases hfiles : Sources.inFiles? layered (some "admin") layeredOverrides none with _ | s
  · rw [hfiles] at hsome
    cases hsome
  · rw [hfiles] at hsome
    have hformed : s.WellFormed := of_decide_eq_true hsome
    exact ⟨s, rfl, hformed, (load_precedence hfiles hformed).1⟩

end Config

end Stencil
