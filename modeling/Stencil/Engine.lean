import Stencil.Resolution
import Stencil.Template.Render

/-!
# Engines

An engine compiles the templates under a root and renders them. It keeps what it
compiled in two places. In memory a template is good as long as its file has the
modification time it had when it was read. In a directory of compiled templates,
which several engines may share, one is good for exactly the source it was compiled
from, and is kept by the name and the file of the template.

A template that fails to compile leaves both as they were. Clearing an engine
empties its memory and removes the compiled templates in its directory, also those
of others.

Whatever goes wrong when a template is rendered, the engine reports as a fault of
its own that wraps it. When a template is loaded it does so for a missing file and
for text that is not well formed; other faults of loading come through as they are.

## Main definitions

* `Engine.create`: Making an engine.
* `Engine.templatePath`: The compiled candidate of a name.
* `Engine.fetch`: A template by the name that inclusions use.
* `Engine.load`, `Engine.render`: Loading and rendering by template name.
* `Engine.clear`: Forgetting everything compiled.

## Theorems

* `Memory.find?_keep_self`, `Memory.find?_keep_of_ne`: Looking after keeping a
  template.
-/

namespace Stencil

/-- Templates in memory by name. -/
abbrev Memory := List (String × Loaded)

namespace Memory

/-- The template of a name. -/
def find? (m : Memory) (name : String) : Option Loaded := m.lookup name

/-- Keeps a template under a name. -/
def keep (m : Memory) (name : String) (l : Loaded) : Memory :=
  (name, l) :: m.filter (·.1 != name)

theorem find?_keep_self (m : Memory) (name : String) (l : Loaded) :
    (m.keep name l).find? name = some l := by
  simp [find?, keep]

theorem find?_keep_of_ne (m : Memory) {j name : String} (l : Loaded) (h : j ≠ name) :
    (m.keep name l).find? j = m.find? j := by
  have hj : (j == name) = false := by simpa using h
  simp only [find?, keep, List.lookup_cons, hj]
  induction m with
  | nil => rfl
  | cons e m ih =>
    obtain ⟨k, v⟩ := e
    by_cases hk : k = name
    · subst hk
      simp [List.lookup_cons, hj, ih]
    · have : (k != name) = true := by simpa using hk
      simp only [List.filter_cons, this, if_true, List.lookup_cons]
      split <;> simp_all

end Memory

namespace Extensions

/-- The name of the library's own extension. -/
def ownName : String := "templateview.core.i18n.I18nExtension"

/-- The name of the plain one, and the name it is asked for by. -/
def plainName : String := "jinja2.ext.InternationalizationExtension"
def plainShortName : String := "jinja2.ext.i18n"

/-- The extensions asked for by name. -/
def ofNames (names : List String) : Extensions where
  own := names.contains ownName
  plain := names.contains plainName || names.contains plainShortName

/-- Their names in order. -/
def names (e : Extensions) : List String :=
  (if e.plain then [plainName] else []) ++ (if e.own then [ownName] else [])

/-- Whether there are translations at all. -/
def any (e : Extensions) : Bool := e.own || e.plain

/-- The tags and filters that the extensions add. -/
def tags (e : Extensions) : Template.Tags := ⟨e.any, e.own⟩

/-- The functions that the extensions add. -/
def globals (e : Extensions) : Bindings :=
  if e.any then
    [("_", .function .byName), ("gettext", .function .gettext),
      ("ngettext", .function .ngettext), ("pgettext", .function .pgettext),
      ("npgettext", .function .npgettext)]
  else []

end Extensions

namespace Engine

/-- The parts of the library that log here. -/
def source : String := "templateview.core.engine"
def translationSource : String := "templateview.core.i18n"

/-- The languages of a configuration as names. -/
def languageNames (v : Value) : Except Fault (List String) := do
  (← v.items).mapM fun l =>
    match l.text? with
    | some s => .ok s
    | none => .error (.noAttribute l.kindName "lower")

/-- The catalog of a domain for a language. -/
def catalogPath (localeDir : Path) (domain language : String) : Path :=
  localeDir ++ Path.ofString language ++ (⟨.here, ["LC_MESSAGES", domain ++ ".mo"]⟩ : Path)

/-- The catalogs that are found for the languages, in order. -/
def catalogs (files : Files) (localeDir : Path) (domain : String) (languages : List String) :
    Translations :=
  (searchedLanguages languages).filterMap fun l =>
    match files.file? (catalogPath localeDir domain l) with
    | some (.catalog c, _) => some c
    -- A file that is no catalog is passed over like one that is not there.
    | _ => none

/-- Loads the translations of a configuration. -/
def loadTranslations (c : Config) : Act Translations := do
  let items ← Act.ofExcept c.languages.items
  let names ← Act.ofExcept (languageNames c.languages)
  let files := (← get).files
  let t : Translations :=
    match c.localeDir with
    | some dir => catalogs files dir c.translationDomain.shown names
    | none => []
  Act.log .debug translationSource "translations_loaded"
    [("domain", c.translationDomain),
      ("locale_dir", (c.localeDir.map fun p => Value.text p.text).getD .null),
      ("languages", .list items),
      ("catalog", .text (if t.isEmpty then "NullTranslations" else "GNUTranslations"))]
  return t

/-- Makes the directory of compiled templates, if the root is there and nothing
    stands in the way. -/
def prepareStore (c : Config) : Act (Option Path) := do
  let files := (← get).files
  if ← Act.ofExcept (files.isDirectory c.templateRoot) then
    match files.makeDirectories c.cacheDir with
    | .ok files =>
      modify fun w => { w with files }
      return some c.cacheDir
    -- What the file system refuses is done without, any other fault is not.
    | .error (.system r p) =>
      Act.log .warning source "bytecode_cache_dir_unwritable"
        [("cache_dir", .text c.cacheDir.text), ("error", .text (Fault.system r p).message)]
      return none
    | .error f => throw f
  else
    Act.log .debug source "bytecode_cache_disabled_missing_root"
      [("root", .text c.templateRoot.text)]
    return none

/-- The extensions that a configuration asks for. -/
def defaultExtensions (c : Config) : Extensions := ⟨Config.isSet c.enableI18n, false⟩

/-- The translations of an engine: those that are given, else those of the
    configuration, and none without an extension for them. -/
def chooseTranslations (c : Config) (x : Extensions) (given : Option Translations) :
    Act Translations :=
  if x.any then
    match given with
    | some t => pure t
    | none => loadTranslations c
  else pure []

/-- Makes an engine. Extensions and translations that are not given are those of
    the configuration. -/
def create (c : Config) (extensions : Option Extensions) (translations : Option Translations) :
    Act EngineId := do
  let extensions := extensions.getD (defaultExtensions c)
  -- The directory is made before the translations are read, so it stays if they fail.
  let store ← prepareStore c
  let translations ← chooseTranslations c extensions translations
  Act.log .debug source "template_engine_ready"
    [("root", .text c.templateRoot.text), ("bytecode_cache", .bool store.isSome),
      ("extensions", .list (extensions.names.map Value.text))]
  let w ← get
  let e : Engine := ⟨c, extensions, translations, store, []⟩
  set { w with engines := w.engines ++ [e] }
  return w.engines.length

/-- The engine of a name. -/
def find (id : EngineId) : Act Engine := do
  match (← get).engine? id with
  | some e => return e
  | none => throw (.missingKey (.int id))

/-- The compiled candidate of a name. -/
def templatePath (c : Config) (name : Value) : Except Fault Path := do
  return (← Resolution.candidates c.templateRoot name c.extensions).1.path

/-- The segments of a name that inclusions use, unless it leads upwards. -/
def includeSegments? (name : String) : Option (List String) :=
  let ps := (Path.splitOn '/' name.toList).map String.ofList
  if ps.contains ".." then none else some (ps.filter fun p => p != "" && p != ".")

/-- The file that an inclusion names. -/
def includePath (c : Config) (segments : List String) : Path :=
  ⟨c.templateRoot.anchor, c.templateRoot.parts ++ segments⟩

/-- The steps of a path with its double dots taken back where they can be. -/
def collapse (absolute : Bool) (steps : List String) : List String :=
  steps.foldl (fun done s =>
    if s = ".." then
      match done.getLast? with
      -- Above the root is the root, above the start only another step up.
      | none => if absolute then done else done ++ [s]
      | some ".." => done ++ [s]
      | some _ => done.dropLast
    else done ++ [s]) []

/-- The name of a file by which its compiled template is kept. -/
def fileKey (p : Path) : String :=
  (⟨p.anchor, collapse p.isAbsolute ((Files.steps p).filter (· != "."))⟩ : Path).text

/-- What the compiled template of a name and a file is called in its directory. The
    slash in it keeps it out of the reach of paths. -/
def storedName (name file : String) : String := name ++ "|/" ++ file

/-- Where the compiled template of a name and a file is kept. -/
def storedAt? (files : Files) (store : Option Path) (name file : String) : Option Location := do
  let dir ← store
  match files.locate dir with
  -- The name is put behind the directory as one segment, slash and all.
  | .ok l => some (l ++ [storedName name file])
  | .error _ => none

/-- The compiled template kept for a name and a file, if its source is this. -/
def stored? (files : Files) (store : Option Path) (name file text : String) :
    Option (List Template.Stmt) := do
  match files.node? (← storedAt? files store name file) with
  | some (.file (.compiled n f source body) _) =>
    -- The directory is looked up by name and file, but what counts is the source.
    if n = name ∧ f = file ∧ source = text then some body else none
  | _ => none

/-- Keeps a compiled template in the directory of compiled templates. -/
def keepStored (store : Option Path) (name file text : String) (body : List Template.Stmt) :
    Act Unit := do
  match store with
  | none => return ()
  | some dir =>
    let w ← get
    match storedAt? w.files store name file, w.files.isDirectory dir with
    | some l, .ok true =>
      set { w with files := w.files.put l (.file (.compiled name file text body) w.clock) }
    -- The directory was there when the engine was made and may be gone since.
    | _, _ => throw (.system .missing dir.text)

/-- Keeps a template in the memory of an engine. -/
def remember (id : EngineId) (name : String) (l : Loaded) : Act Unit := do
  let w ← get
  match w.engine? id with
  | some e => set (w.setEngine id { e with memory := Memory.keep e.memory name l })
  | none => return ()

/-- How an engine compiles. -/
def settings (e : Engine) (name : String) : Template.Settings :=
  ⟨e.config.isStrict, name, e.extensions.tags⟩

/-- The template in memory, if its file is as it was when it was read. -/
def remembered? (e : Engine) (files : Files) (name : String) : Option Loaded := do
  let l ← Memory.find? e.memory name
  let segments ← includeSegments? name
  -- A file that is gone has no time, so nothing is remembered of it.
  let (_, modified) ← files.file? (includePath e.config segments)
  if modified = l.modified then some l else none

/-- Numbers a template that was loaded, and keeps it in the memory of an engine. -/
def keepLoaded (id : EngineId) (name : String) (body : List Template.Stmt) (modified : Nat) :
    Act Loaded := do
  let l : Loaded := ⟨body, modified, (← get).loads⟩
  modify fun w => { w with loads := w.loads + 1 }
  remember id name l
  return l

/-- The statements of a text: those that are kept for it, or else what compiling it
    gives, which is kept from then on. -/
def statements (e : Engine) (name file : String) (chars : List Char) :
    Act (List Template.Stmt) := do
  let text := String.ofList chars
  match stored? (← get).files e.store name file text with
  | some body => return body
  | none =>
    let body ← Act.ofExcept (Template.compile (e.settings name) chars)
    -- A text that does not compile has ended this before anything is kept.
    keepStored e.store name file text body
    return body

/-- Compiles a template whose file holds a content, or takes it from the directory of
    compiled ones, and keeps it in both places. -/
def loadContent (id : EngineId) (e : Engine) (name : String) (path : Path) (content : Content)
    (modified : Nat) : Act Loaded := do
  let chars ← Act.ofExcept content.chars
  let body ← statements e name (fileKey path) chars
  keepLoaded id name body modified

/-- Reads a template and compiles it. -/
def loadFresh (id : EngineId) (e : Engine) (name : String) : Act Loaded := do
  match includeSegments? name with
  | none => throw (.includeMissing name none)
  | some segments =>
    let path := includePath e.config segments
    match (← get).files.file? path with
    | none => throw (.includeMissing name (some e.config.templateRoot.text))
    | some (content, modified) => loadContent id e name path content modified

/-- The template of a name as inclusions use it. -/
def fetch (id : EngineId) (name : String) : Act Loaded := do
  let e ← find id
  match e.remembered? (← get).files name with
  | some l => return l
  | none => loadFresh id e name

/-- The name by which inclusions know the template of a name, and its file. -/
def innerName (c : Config) (name : Value) : Except Fault (Path × String) := do
  let path ← templatePath c name
  return (path, (← path.relativeTo c.templateRoot).text)

/-- Reports a fault of loading: a missing file by its path, and text that is not
    well formed. -/
def reportLoading (name : Value) (path : Path) (f : Fault) : Act Loaded := do
  match f with
  -- The template itself is missing, so it is named by its path and not by its inner name.
  | .includeMissing .. => throw (.templateMissing path.text (some f))
  | .markupSyntax line =>
    Act.log .error source "template_compilation_failed"
      [("name", name), ("line", .int line), ("error", .text f.message)]
    throw (.rendering f)
  | f => throw f

/-- The template of a name, and the name by which inclusions know it. -/
def load (id : EngineId) (name : Value) : Act (String × Loaded) := do
  let e ← find id
  let (path, inner) ← Act.ofExcept (innerName e.config name)
  let l ← tryCatch (fetch id inner) (reportLoading name path)
  return (inner, l)

/-- What rendering by an engine depends on. -/
def renderer (id : EngineId) (e : Engine) : Template.Renderer Act where
  load name := do return ⟨name, (← fetch id name).body⟩
  strict := e.config.isStrict
  globals := e.extensions.globals
  translations := e.translations
  transFilter := e.extensions.own

/-- Reports a fault of rendering. -/
def reportRendering (name : Value) (f : Fault) : Act String := do
  if f.isOrdinary then
    Act.log .error source "template_rendering_error_occurred"
      [("name", name), ("error_message", .text f.message)]
    throw (.rendering f)
  else throw f

/-- Renders the template of a name over data. -/
def render (id : EngineId) (name : Value) (data : Bindings) : Act String := do
  let (inner, l) ← load id name
  -- Loading changed the memory of the engine, so it is looked up once more.
  let e ← find id
  Act.log .info source "rendering_compiled_template"
    [("name", name), ("context_keys", .list (data.keys.map Value.text))]
  tryCatch (Template.render (renderer id e) ⟨inner, l.body⟩ data) (reportRendering name)

/-- Whether a node is a compiled template. -/
def isStored : Node → Bool
  | .file (.compiled ..) _ => true
  | _ => false

/-- A tree without the compiled templates in a directory. -/
def withoutStored (files : Files) (l : Location) : Files :=
  ⟨files.nodes.filter fun e =>
    !(e.1 != [] && e.1.dropLast == l && (files.node? e.1).any isStored)⟩

/-- Removes the compiled templates in the directory for them, if there is one. -/
def clearStore (store : Option Path) : Act Unit := do
  match store with
  | none => return ()
  | some dir =>
    let w ← get
    match w.files.stat dir, w.files.locate dir with
    | .ok .directory, .ok l => set { w with files := withoutStored w.files l }
    -- The directory has to be one still, anything else is a fault.
    | .ok (.file ..), _ => throw (.system .notDirectory dir.text)
    | .error r, _ => throw (.system r dir.text)
    | _, .error r => throw (.system r dir.text)

/-- Forgets everything compiled. -/
def clear (id : EngineId) : Act Unit := do
  let e ← find id
  -- The memory is gone even if the directory cannot be cleared.
  modify fun w => w.setEngine id { e with memory := [] }
  clearStore e.store
  Act.log .debug source "compiled_template_cache_cleared"
    [("root", .text e.config.templateRoot.text)]

/-- What can be seen of the directory of compiled templates. -/
structure StoreState where
  enabled : Bool
  directory : Bool
  files : Bool
deriving DecidableEq

/-- The state of the directory of compiled templates. -/
def storeState (id : EngineId) : Act StoreState := do
  let e ← find id
  let files := (← get).files
  let directory ← Act.ofExcept (files.isDirectory e.config.cacheDir)
  let holds :=
    match files.locate e.config.cacheDir with
    | .ok l => directory && (files.children l).any fun n => n.2.isFile
    | .error _ => false
  return ⟨e.store.isSome, directory, holds⟩

end Engine

end Stencil
