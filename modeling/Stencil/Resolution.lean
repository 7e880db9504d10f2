import Stencil.World

/-!
# Which file a name stands for

A template name is a relative path under the root, without extension; a backslash
separates segments too. Each name has two candidates, one for the templates that
are compiled and one for the scripts, and the first that is a file owns the name.

A name is refused if it is blank, absolute, or holds a double dot. It is compared
by its segments only, so empty ones and single dots make no difference. A name
without any segment stands for the root itself, and its candidates lie beside the
root.

## Main definitions

* `Kind`, `Resolution`: The two kinds of templates, and the owner of a name.
* `cleanName`: The path that a name is read as.
* `candidates`: The two candidates of a name.
* `resolve`: The owner of a name.

## Theorems

* `candidates_kinds`: The compiled candidate comes first.
* `owner?_isFile`: The owner is a file.
-/

namespace Stencil

/-- The two kinds of templates. -/
inductive TemplateKind where
  | compiled
  | rawScript
deriving DecidableEq

def TemplateKind.name : TemplateKind → String
  | .compiled => "compiled"
  | .rawScript => "raw_script"

/-- A kind and the file that has it. -/
structure Resolution where
  kind : TemplateKind
  path : Path
deriving DecidableEq

namespace Resolution

/-- The part of the library that logs here. -/
def source : String := "templateview.core.resolution"

/-- The path that a name is read as. -/
def cleanName (name : String) : Except Fault Path :=
  if (Text.trim name.toList).isEmpty then .error .emptyName
  else
    -- The check is made on the path, in which dots and empty pieces are gone already.
    let p := Path.ofChars (Text.replaceAll '\\' ['/'] name.toList)
    if p.isAbsolute || p.parts.contains ".." then .error (.escapingName name) else .ok p

/-- The path that a value is read as when it stands for a name. -/
def cleanValue (name : Value) : Except Fault Path :=
  match name with
  | .text s => cleanName s
  | v =>
    -- A value that counts as false passes for an empty name before it is found to be no text.
    if Value.isTrue v.truth then .error (.noAttribute v.kindName "strip") else .error .emptyName

/-- The two extensions of a configuration. -/
structure Extensions where
  compiled : String
  raw : String

/-- The two candidates of a name, in the order in which they are tried. -/
def candidates (root : Path) (name : Value) (ext : Extensions) :
    Except Fault (Resolution × Resolution) := do
  let base := root ++ (← cleanValue name)
  -- The extension goes behind the last segment of root and name, whichever that is.
  let compiled ← base.withName (base.name ++ ext.compiled)
  let raw ← base.withName (base.name ++ ext.raw)
  return (⟨.compiled, compiled⟩, ⟨.rawScript, raw⟩)

theorem candidates_kinds {root : Path} {name : Value} {ext : Extensions} {a b : Resolution}
    (h : candidates root name ext = .ok (a, b)) : a.kind = .compiled ∧ b.kind = .rawScript := by
  simp only [candidates, bind, Except.bind, pure, Except.pure] at h
  split at h
  · cases h
  · split at h
    · cases h
    · split at h
      · cases h
      · injection h with h
        injection h with h1 h2
        subst h1 h2
        exact ⟨rfl, rfl⟩

/-- The first of two candidates that is a file, if one is. -/
def owner? (files : Files) (cs : Resolution × Resolution) : Except Fault (Option Resolution) := do
  if ← files.isFile cs.1.path then return some cs.1
  else if ← files.isFile cs.2.path then return some cs.2
  else return none

theorem owner?_isFile {files : Files} {cs : Resolution × Resolution} {r : Resolution}
    (h : owner? files cs = .ok (some r)) : files.isFile r.path = .ok true := by
  simp only [owner?, bind, Except.bind, pure, Except.pure] at h
  split at h
  · cases h
  · rename_i b hb
    cases b with
    | true =>
      simp only [if_true, Except.ok.injEq, Option.some.injEq] at h
      subst h
      exact hb
    | false =>
      simp only [Bool.false_eq_true, if_false] at h
      split at h
      · cases h
      · rename_i b hb
        cases b with
        | true =>
          simp only [if_true, Except.ok.injEq, Option.some.injEq] at h
          subst h
          exact hb
        | false => simp at h

/-- The owner of a name. If neither candidate is a file the script is said to be
    missing. -/
def resolve (root : Path) (name : Value) (ext : Extensions) : Act Resolution := do
  let cs ← Act.ofExcept (candidates root name ext)
  match ← Act.ofExcept (owner? (← get).files cs) with
  | some r =>
    Act.log .debug source "template_resolved"
      [("name", name), ("kind", .text r.kind.name), ("path", .text r.path.text)]
    return r
  | none =>
    Act.log .warning source "template_not_found"
      [("name", name),
        ("checked", .list [.text cs.1.path.text, .text cs.2.path.text])]
    throw (.templateMissing cs.2.path.text none)

end Resolution

namespace Config

/-- The extensions of a configuration. -/
def extensions (c : Config) : Resolution.Extensions := ⟨c.compiledExtension, c.rawExtension⟩

end Config

end Stencil
