import Stencil.World

/-!
# Loading a configuration

A configuration is put together from the user's settings file, the first settings
file of the project that says anything, a profile, and explicit overrides; the
later source wins field by field. A project keeps its settings in one of three
files, and in the last of them under a table of its own.

Profiles are tables of settings by name. Those of the project are added to those
of the user, and one of the same name replaces the other as a whole. If either
side holds something else under that name, the project's is dropped.

Keys that are no fields are left out and logged. An override of null counts as not
given.

## Main definitions

* `Config.Loader.readSettings`: The settings in one file.
* `Config.Loader.merge`: The settings of the user and the project together.
* `Config.Loader.knownSettings`: The settings that are fields.
* `Config.load`: Loading a configuration.

## Theorems

* `knownSettings_keys`: Only fields are left.
-/

namespace Stencil

namespace Config

namespace Loader

/-- The part of the library that logs here. -/
def source : String := "templateview.config.loader"

/-- The settings files of a project, in the order in which they are looked for. -/
def projectFiles : List String := [".templateview.toml", "templateview.toml", "pyproject.toml"]

/-- The settings file that keeps the settings in a table of its own. -/
def sharedFile : String := "pyproject.toml"

/-- The key of the profiles. -/
def profilesKey : String := "profiles"

/-- The member of a table under a key, or the empty table. Only a table can be
    asked. -/
def memberOf (v : Value) (key : String) : Except Fault Value :=
  match v with
  | .dict es => .ok ((Value.findEntry (.text key) es).getD (.dict []))
  | v => .error (.noAttribute v.kindName "get")

/-- The settings in a text; the shared file has them in a table of its own. -/
def settingsIn (file : String) (data : Bindings) : Except Fault Value :=
  if file = sharedFile then do
    let tool ← memberOf data.toValue "tool"
    memberOf tool "templateview"
  else .ok data.toValue

/-- Whether a fault of reading a file is one that the loader reports: the file cannot be
    opened, or is not well formed. -/
def isReported (f : Fault) : Bool := f.isA "OSError" || f.isA "TomlDecodeError"

/-- The settings in a file, which is shown as `shown` in messages. A file that is
    not there has none. -/
def readSettings (file : Path) (shown : String) : Act Value := do
  let w ← get
  if ← Act.ofExcept (w.files.isFile file) then
    Act.log .debug source "loading_toml_config_file" [("path", .text shown)]
    match w.files.read file >>= w.host.toml.read with
    | .ok data => Act.ofExcept (settingsIn file.name data)
    | .error f =>
      -- Whatever else reading comes to grief with goes through.
      if isReported f then
        Act.log .error source "config_file_load_error"
          [("path", .text shown), ("error", .text f.message)]
        throw (.unreadableConfig shown f)
      else throw f
  else return .dict []

/-- The settings of a table, without its profiles. -/
def withoutProfiles (b : Bindings) : Bindings := b.filter (·.1 != profilesKey)

/-- The settings of the project laid over those of the user. -/
def merge (user project : Bindings) : Bindings :=
  let both :=
    match (user.get? profilesKey).getD (.dict []), (project.get? profilesKey).getD (.dict []) with
    | .dict us, .dict ps =>
      user.set profilesKey (Bindings.toValue ((Bindings.ofEntries us).update (Bindings.ofEntries ps)))
    -- Profiles that are no tables are not merged, those of the user stay.
    | _, _ => user
  both.update (withoutProfiles project)

/-- The first project file that says anything, and its settings. Settings that are
    no table cannot be taken apart. -/
def projectSettings (base : Path) (shownBase : String) :
    List String → Act (Option (String × Bindings))
  | [] => return none
  | name :: names => do
    let file := base ++ Path.ofString name
    let shown := shownBase ++ name
    if ← Act.ofExcept ((← get).files.isFile file) then
      let settings ← readSettings file shown
      -- A file that says nothing is passed over, so the next one is asked.
      if isSet settings then
        Act.log .info source "loading_project_local_config" [("path", .text shown)]
        match settings with
        | .dict es => return some (shown, Bindings.ofEntries es)
        | .list _ => throw (.misuse (.arguments "pop expected at most 1 argument, got 2"))
        | v => throw (.noAttribute v.kindName "pop")
      else projectSettings base shownBase names
    else projectSettings base shownBase names

/-- The path in which the project files are looked for, and how it is shown in
    front of their names. -/
def projectBase (directory : String) (searchDir : Option Path) : Path × String :=
  match searchDir with
  | none => (⟨.here, []⟩, directory ++ "/")
  | some p =>
    (p, if p.text = "." then "" else if p.parts.isEmpty then p.text else p.text ++ "/")

/-- The settings of the user's file. -/
def userSettings : Act Bindings := do
  let w ← get
  if ← Act.ofExcept (w.files.isFile w.settings) then
    Act.log .info source "loading_user_global_config" [("path", .text w.settings.text)]
    match ← readSettings w.settings w.settings.text with
    | .dict es => return Bindings.ofEntries es
    -- The user file counts only if it holds a table.
    | _ => return []
  else return []

/-- The settings of the user's file and of the project. -/
def readAll (searchDir : Option Path) : Act Bindings := do
  let user ← userSettings
  let (base, shownBase) := projectBase (← get).directory searchDir
  let project ← projectSettings base shownBase projectFiles
  let all := (project.map fun p => merge user p.2).getD user
  if all.isEmpty then Act.log .debug source "no_configuration_files_loaded" []
  return all

/-- The settings that are fields. -/
def knownSettings (raw : Bindings) : Bindings := raw.filter fun e => fieldNames.contains e.1

theorem knownSettings_keys (raw : Bindings) (k : String) (h : k ∈ (knownSettings raw).keys) :
    k ∈ fieldNames := by
  simp only [knownSettings, Bindings.keys, List.mem_map, List.mem_filter] at h
  obtain ⟨e, ⟨_, he⟩, rfl⟩ := h
  simpa using he

/-- Logs the keys that are no fields. -/
def warnUnknown (origin : String) : Bindings → Act Unit
  | [] => return ()
  | (k, _) :: rest => do
    if k != profilesKey && !fieldNames.contains k then
      Act.log .warning source "unknown_config_key_ignored"
        [("key", .text k), ("source", .text origin)]
    warnUnknown origin rest

/-- The settings of a profile. -/
def profileSettings (raw : Bindings) (profile : String) : Except Fault Value :=
  match (raw.get? profilesKey).getD (.dict []) with
  | .dict es => .ok ((Value.findEntry (.text profile) es).getD .null)
  | v => .error (.noAttribute v.kindName "get")

/-- The settings that are fields, with those of a profile laid over them if one is
    named. -/
def chosenSettings (raw : Bindings) (profile : Option String) : Act Bindings := do
  let base := knownSettings raw
  match profile with
  | none | some "" => return base
  | some name =>
    match ← Act.ofExcept (profileSettings raw name) with
    | .dict es =>
      Act.log .info source "applying_profile_settings" [("profile", .text name)]
      let settings := Bindings.ofEntries es
      -- Unknown keys are warned of here too, and left out.
      warnUnknown ("profile:" ++ name) settings
      return base.update (knownSettings settings)
    | _ =>
      Act.log .warning source "profile_not_found_in_config_files"
        [("profile_name", .text name)]
      return base

end Loader

open Loader

/-- Loads a configuration from the settings files, a profile if one is named, and
    overrides. -/
def load (profile : Option String) (overrides : Bindings) (searchDir : Option Path) :
    Act Config := do
  let raw ← readAll searchDir
  warnUnknown "config_file" raw
  let chosen ← chosenSettings raw profile
  -- An override of null leaves the setting as it was.
  let given := overrides.filter fun e =>
    match e.2 with
    | .null => false
    | _ => true
  match Config.ofFields (chosen.update given) with
  | .ok config =>
    Act.log .debug source "view_config_loaded"
      [("template_root", .text config.templateRoot.text),
        ("profile", (profile.map Value.text).getD .null)]
    return config
  -- Only these two kinds of faults say that the settings are wrong.
  | .error (.misuse m) => throw (.invalidConfig (.misuse m))
  | .error (.refused r) => throw (.invalidConfig (.refused r))
  | .error f => throw f

end Config

end Stencil
