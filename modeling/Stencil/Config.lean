import Stencil.Path
import Stencil.Text.Blank
import Stencil.Value.Order

/-!
# Configuration

Where templates are looked up, which extensions mark the two kinds of them, where
compiled ones are kept, and how names without a value and translations are treated.

A configuration is built from named fields, each of which may be missing and may
hold any value. Paths are brought into normal form and extensions get exactly one
leading dot; a single language may be given as a text. The remaining fields are
taken as they are and only asked for their truth, so they keep the value they were
given.

## Main definitions

* `normalizeExtension`: An extension with exactly one leading dot.
* `Config`: A configuration.
* `Config.ofFields`: Building one.
* `Config.fields`: Its fields as named values, paths as texts.
* `Config.equal`: Whether two configurations agree in every field.

## Theorems

* `Config.fields_keys`: A configuration has exactly the known fields.
-/

namespace Stencil

/-- An extension trimmed and brought to exactly one leading dot. A blank one is
    refused. -/
def normalizeExtension (ext : String) : Except Fault String :=
  let s := Text.trim ext.toList
  if s.isEmpty then .error (.refused .blankExtension)
  else .ok (String.ofList ('.' :: s.dropWhile (· == '.')))

/-- Where templates are and how they are treated. -/
structure Config where
  templateRoot : Path
  cacheDir : Path
  compiledExtension : String
  rawExtension : String
  translationDomain : Value
  localeDir : Option Path
  languages : Value
  enableI18n : Value
  strictUndefined : Value

namespace Config

/-- The names of the fields, in order. -/
def fieldNames : List String :=
  ["template_root", "cache_dir", "compiled_extension", "raw_extension", "translation_domain",
    "locale_dir", "languages", "enable_i18n", "strict_undefined"]

/-- The directory of compiled templates under the root, unless told otherwise. -/
def defaultCacheName : Path := ⟨.here, ["cache"]⟩

/-- A value as a path. -/
def pathOf (v : Value) : Except Fault Path :=
  match v with
  | .text s => .ok (Path.ofString s)
  | v => .error (.misuse (.notPath v.className))

/-- A value as a path, where null stands for none. -/
def pathOf? (v : Value) : Except Fault (Option Path) :=
  match v with
  | .null => .ok none
  | v => (pathOf v).map some

/-- A value as an extension. -/
def extensionOf (v : Value) : Except Fault String :=
  match v with
  | .text s => normalizeExtension s
  | v => .error (.noAttribute v.kindName "strip")

/-- A single language as a list of one. -/
def languagesOf (v : Value) : Value :=
  match v with
  | .text s => .list [.text s]
  | v => v

/-- The first name that is no field. -/
def unknownField? (given : Bindings) : Option String :=
  given.keys.find? fun k => !fieldNames.contains k

/-- The configuration of known fields; missing ones have their defaults. -/
def ofKnownFields (given : Bindings) : Except Fault Config := do
  let field (name : String) (default : Value) : Value := (given.get? name).getD default
  -- The fields are read in this order, so the first that is wrong is the one reported.
  let templateRoot ← pathOf (field "template_root" (.text "templates"))
  let cacheDir ← pathOf? (field "cache_dir" .null)
  let localeDir ← pathOf? (field "locale_dir" .null)
  let compiledExtension ← extensionOf (field "compiled_extension" (.text ".j2"))
  let rawExtension ← extensionOf (field "raw_extension" (.text ".pyt"))
  if compiledExtension = rawExtension then
    throw (.refused (.sharedExtension rawExtension))
  return {
    templateRoot
    cacheDir := cacheDir.getD (templateRoot ++ defaultCacheName)
    compiledExtension
    rawExtension
    translationDomain := field "translation_domain" (.text "messages")
    localeDir
    languages := languagesOf (field "languages" (.list []))
    enableI18n := field "enable_i18n" (.bool true)
    strictUndefined := field "strict_undefined" (.bool true) }

/-- The configuration that some fields give. -/
def ofFields (given : Bindings) : Except Fault Config :=
  match unknownField? given with
  | some name =>
    .error (.misuse (.arguments
      ("ViewConfig.__init__() got an unexpected keyword argument " ++ Text.quoted name)))
  | none => ofKnownFields given

/-- The configuration without any field given. -/
def default : Config where
  templateRoot := ⟨.here, ["templates"]⟩
  cacheDir := ⟨.here, ["templates", "cache"]⟩
  compiledExtension := ".j2"
  rawExtension := ".pyt"
  translationDomain := .text "messages"
  localeDir := none
  languages := .list []
  enableI18n := .bool true
  strictUndefined := .bool true

instance : Inhabited Config := ⟨default⟩

/-- The fields of a configuration, paths as texts. -/
def fields (c : Config) : Bindings :=
  [("template_root", .text c.templateRoot.text),
    ("cache_dir", .text c.cacheDir.text),
    ("compiled_extension", .text c.compiledExtension),
    ("raw_extension", .text c.rawExtension),
    ("translation_domain", c.translationDomain),
    ("locale_dir", (c.localeDir.map fun p => Value.text p.text).getD .null),
    ("languages", c.languages),
    ("enable_i18n", c.enableI18n),
    ("strict_undefined", c.strictUndefined)]

theorem fields_keys (c : Config) : c.fields.keys = fieldNames := rfl

/-- Whether two configurations agree in every field. -/
def equal (a b : Config) : Bool :=
  a.templateRoot == b.templateRoot && a.cacheDir == b.cacheDir &&
    a.compiledExtension == b.compiledExtension && a.rawExtension == b.rawExtension &&
    Value.isTrue (Value.equal a.translationDomain b.translationDomain) &&
    a.localeDir == b.localeDir && Value.isTrue (Value.equal a.languages b.languages) &&
    Value.isTrue (Value.equal a.enableI18n b.enableI18n) &&
    Value.isTrue (Value.equal a.strictUndefined b.strictUndefined)

/-- Whether a value counts as true. -/
def isSet (v : Value) : Bool := Value.isTrue v.truth

/-- Whether names without a value are refused. -/
def isStrict (c : Config) : Bool := isSet c.strictUndefined

end Config

end Stencil
