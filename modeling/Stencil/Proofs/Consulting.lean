import Stencil.Proofs.Logging
import Stencil.Proofs.Tables
import Stencil.Proofs.Tree

/-!
# Consulting settings files

What reading the settings files comes to, said of the files and the reader alone. A file
says something, or it cannot be read and that is reported as a fault of the configuration, or
it spoils everything: its bytes are no text, the reader comes to grief with something that it
does not call malformed, or what is looked up in it is no table. A fault of the last kind goes
through as it is.

The files of a project are asked one after the other, up to the first that says anything.
That one has to hold a table, and if it holds something else the search ends with a fault
that goes through too. What comes after it is never looked at, so nothing there spoils
anything.

## Main definitions

* `Config.Says`, `Config.Spoils`: What a file says, and the fault it goes through with.
* `Config.Search`: What asking the files of a project comes to.

## Theorems

* `Config.readSettings_cases`: A file says something, spoils everything, or is reported.
* `Config.search_cases`: So is the search through the files of a project.
* `Config.Spoils.kind_ne`, `Config.Search.kind_ne`: What goes through is not reported.
-/

namespace Stencil

namespace Config

open Loader

/-- The kind of the faults that report a configuration. -/
def reportedKind : String := "ConfigError"

section

variable (reader : Toml.Reader) (files : Files) (file : Path)

/-- The file is there and a table can be read from it. -/
structure Parses (data : Bindings) : Prop where
  there : files.isFile file = .ok true
  read : files.read file >>= reader.read = .ok data

/-- What a file says. One that is not there says nothing. -/
inductive Says : Value → Prop
  | nothing (h : files.isFile file = .ok false) : Says (.dict [])
  | settings {data : Bindings} {v : Value} (h : Parses reader files file data)
      (hv : settingsIn file.name data = .ok v) : Says v

/-- The fault with which a file ends everything, and which is not reported in other words. -/
inductive Spoils : Fault → Prop
  /-- Nothing can be said of the path. -/
  | unasked {f : Fault} (h : files.isFile file = .error f) : Spoils f
  /-- The file is no text, or what the reader makes of it is no report. -/
  | misread {f : Fault} (h : files.isFile file = .ok true)
      (hf : files.read file >>= reader.read = .error f) (hthrough : isReported f = false) : Spoils f
  /-- The settings are looked up in something that is no table. -/
  | noTable {data : Bindings} {f : Fault} (h : Parses reader files file data)
      (hf : settingsIn file.name data = .error f) : Spoils f

end

/-- The table of a value; what is none has nothing in it. -/
def tableOf (v : Value) : Bindings :=
  match v with
  | .dict es => Bindings.ofEntries es
  | _ => []

/-- What is met when the profiles are taken out of something that is no table. -/
def popFault? (v : Value) : Option Fault :=
  match v with
  | .dict _ => none
  | .list _ => some (.misuse (.arguments "pop expected at most 1 argument, got 2"))
  | v => some (.noAttribute v.kindName "pop")

/-- What asking the files of a project comes to, one after the other: the table of the first
    that says anything, or the fault that ends it. -/
inductive Search (reader : Toml.Reader) (files : Files) (base : Path) :
    List String → Except Fault Bindings → Prop
  | silent : Search reader files base [] (.ok [])
  | passed {n : String} {ns : List String} {v : Value} {r : Except Fault Bindings}
      (hv : Says reader files (base ++ Path.ofString n) v) (hset : isSet v = false)
      (h : Search reader files base ns r) : Search reader files base (n :: ns) r
  | found {n : String} {ns : List String} {v : Value}
      (hv : Says reader files (base ++ Path.ofString n) v) (hset : isSet v = true)
      (htable : popFault? v = none) : Search reader files base (n :: ns) (.ok (tableOf v))
  | noTable {n : String} {ns : List String} {v : Value} {f : Fault}
      (hv : Says reader files (base ++ Path.ofString n) v) (hset : isSet v = true)
      (hf : popFault? v = some f) : Search reader files base (n :: ns) (.error f)
  | spoiled {n : String} {ns : List String} {f : Fault}
      (hf : Spoils reader files (base ++ Path.ofString n) f) : Search reader files base (n :: ns) (.error f)

/-! ## One file -/

theorem findEntry_proper {k : String} {es : List (Value × Value)} {v : Value}
    (h : Toml.Proper (.dict es)) (hv : Value.findEntry (.text k) es = some v) :
    Toml.Proper v := by
  obtain ⟨htable, heq⟩ := h.entries
  rw [← Value.dict.inj heq, Value.findEntry_toValue] at hv
  exact htable.get? hv

/-- What is asked of settings is settings again. -/
theorem memberOf_proper {v w : Value} {key : String} (h : Toml.Proper v)
    (hw : memberOf v key = .ok w) : Toml.Proper w := by
  unfold memberOf at hw
  split at hw
  · rename_i es
    cases hw
    cases hfound : Value.findEntry (.text key) es with
    | none => exact Toml.Table.nil.proper
    | some w => exact findEntry_proper h hfound
  · cases hw

theorem settingsIn_proper {name : String} {data : Bindings} (h : Toml.Table data) {v : Value}
    (hv : settingsIn name data = .ok v) : Toml.Proper v := by
  unfold settingsIn at hv
  split at hv
  · obtain ⟨tool, htool, hv⟩ := exists_of_bind_eq_ok hv
    exact memberOf_proper (memberOf_proper h.proper htool) hv
  · cases hv
    exact h.proper

variable {reader : Toml.Reader} {files : Files} {file base : Path} {v : Value} {f : Fault}

theorem Says.proper (h : Says reader files file v) : Toml.Proper v := by
  cases h with
  | nothing => exact Toml.Table.nil.proper
  | settings hdata hv =>
      obtain ⟨cs, -, hread⟩ := exists_of_bind_eq_ok hdata.read
      exact settingsIn_proper (reader.table hread) hv

/-- Only the lookup in something that is no table fails. -/
theorem memberOf_error {key : String} (h : memberOf v key = .error f) :
    f = .noAttribute v.kindName "get" := by
  unfold memberOf at h
  split at h <;> cases h
  rfl

theorem settingsIn_error {name : String} {data : Bindings} (h : settingsIn name data = .error f) :
    ∃ kind, f = .noAttribute kind "get" := by
  unfold settingsIn at h
  split at h
  · cases htool : memberOf data.toValue "tool" with
    | error g =>
        rw [htool] at h
        cases h
        exact ⟨_, memberOf_error htool⟩
    | ok tool =>
        rw [htool] at h
        exact ⟨_, memberOf_error h⟩
  · cases h

/-- A fault that is none of the library does not report a configuration. -/
theorem kind_ne_of_foreign (h : f.Foreign) : f.kind ≠ reportedKind := by
  cases f with
  | system r p => cases r <;> exact fun h => absurd h (by simp [Fault.kind, SystemReason.kind,
      reportedKind])
  | _ => first | exact h.elim | exact fun h => absurd h (by simp [Fault.kind, reportedKind])

/-- A file that is there can be read, but for the bytes in it. -/
theorem read_of_isFile (h : files.isFile file = .ok true) :
    (∃ cs, files.read file = .ok cs) ∨ ∃ d, files.read file = .error (.decoding d) := by
  obtain ⟨c, hc⟩ := Files.contentAt_of_isFile h
  rw [Files.read, hc]
  cases c with
  | bytes bs =>
      show (∃ cs, Content.chars (.bytes bs) = .ok cs) ∨ _
      simp only [Content.chars]
      cases hbs : Text.Utf8.decode bs with
      | error d => exact .inr ⟨d, by simp only [bind, Except.bind, hbs]⟩
      | ok cs => exact .inl ⟨_, rfl⟩
  | _ => exact .inl ⟨_, rfl⟩

/-- What a file goes through with is no report. -/
theorem Spoils.kind_ne (h : Spoils reader files file f) : f.kind ≠ reportedKind := by
  cases h with
  | unasked h =>
      rw [Files.asks_error h]
      exact kind_ne_of_foreign trivial
  | misread h hf _ =>
      rcases read_of_isFile h with ⟨cs, hcs⟩ | ⟨d, hd⟩
      · rw [hcs] at hf
        exact kind_ne_of_foreign (reader.foreign hf)
      · rw [hd] at hf
        cases hf
        exact kind_ne_of_foreign trivial
  | noTable _ hf =>
      obtain ⟨kind, rfl⟩ := settingsIn_error hf
      exact kind_ne_of_foreign trivial

variable {w : World}

/-- Reading the settings of a file that is there, once that is logged. -/
theorem readSettings_there (hthere : w.files.isFile file = .ok true) (shown : String) :
    ((readSettings file shown).perform w).1 =
      match w.files.read file >>= w.host.toml.read with
      | .ok data => settingsIn file.name data
      | .error f => .error (if isReported f then .unreadableConfig shown f else f) := by
  unfold readSettings
  rw [Stateful.perform_bind_ok (Stateful.perform_get w), hthere,
    Stateful.perform_bind_ok (Act.perform_ofExcept _ w), if_pos rfl,
    Stateful.perform_bind_ok (Act.perform_log _ _ _ _ w)]
  cases w.files.read file >>= w.host.toml.read with
  | ok data => exact congrArg Prod.fst (Act.perform_ofExcept _ _)
  | error f =>
      simp only
      split
      · rfl
      · rfl

/-- Reading the settings of a file gives what it says. -/
theorem readSettings_said (h : Says w.host.toml w.files file v) (shown : String) :
    ((readSettings file shown).perform w).1 = .ok v := by
  cases h with
  | nothing h =>
      unfold readSettings
      rw [Stateful.perform_bind_ok (Stateful.perform_get w)]
      simp only [h]
      rfl
  | settings h hv =>
      rw [readSettings_there h.there, h.read]
      exact hv

/-- It fails with what a file goes through with. -/
theorem readSettings_spoils (h : Spoils w.host.toml w.files file f) (shown : String) :
    ((readSettings file shown).perform w).1 = .error f := by
  cases h with
  | unasked h =>
      unfold readSettings
      rw [Stateful.perform_bind_ok (Stateful.perform_get w)]
      simp only [h]
      rfl
  | misread h hf hthrough =>
      rw [readSettings_there h, hf]
      simp only [hthrough, Bool.false_eq_true, if_false]
  | noTable h hf =>
      rw [readSettings_there h.there, h.read]
      exact hf

/-- A file says something, or goes through with a fault, or is reported. -/
theorem readSettings_cases (file : Path) (shown : String) (w : World) :
    (∃ v, Says w.host.toml w.files file v) ∨ (∃ f, Spoils w.host.toml w.files file f) ∨
      ∃ f, ((readSettings file shown).perform w).1 = .error f ∧ f.kind = reportedKind := by
  rcases hthere : w.files.isFile file with f | (- | -)
  · exact .inr (.inl ⟨f, .unasked hthere⟩)
  · exact .inl ⟨_, .nothing hthere⟩
  · rcases hread : w.files.read file >>= w.host.toml.read with f | data
    · cases hreported : isReported f with
      | false => exact .inr (.inl ⟨f, .misread hthere hread hreported⟩)
      | true =>
          refine .inr (.inr ⟨.unreadableConfig shown f, ?_, rfl⟩)
          rw [readSettings_there hthere, hread]
          simp only [hreported, if_true]
    · have hdata : Parses w.host.toml w.files file data := ⟨hthere, hread⟩
      cases hv : settingsIn file.name data with
      | ok v => exact .inl ⟨v, .settings hdata hv⟩
      | error f => exact .inr (.inl ⟨f, .noTable hdata hv⟩)

/-- An action that only logs and gives a result. -/
theorem perform_of_quiet {α : Type} {a : Act α} (ha : Quiet a) {w : World} {x : α}
    (h : (a.perform w).1 = .ok x) :
    ∃ es, a.perform w = (.ok x, { w with events := es ++ w.events }) := by
  obtain ⟨es, hes⟩ := ha w
  exact ⟨es, Prod.ext h hes⟩

/-! ## The file of the user -/

theorem isFile_of_said (h : Says reader files file v) :
    files.isFile file = .ok true ∨ files.isFile file = .ok false ∧ v = .dict [] := by
  cases h with
  | nothing h => exact .inr ⟨h, rfl⟩
  | settings h _ => exact .inl h.there

/-- Only a file that is there is asked for more. -/
theorem isFile_of_spoils (h : Spoils reader files file f) :
    files.isFile file = .ok true ∨ files.isFile file = .error f := by
  cases h with
  | unasked h => exact .inr h
  | misread h => exact .inl h
  | noTable h => exact .inl h.there

theorem userSettings_said (h : Says w.host.toml w.files w.settings v) :
    (userSettings.perform w).1 = .ok (tableOf v) := by
  unfold userSettings
  rw [Stateful.perform_bind_ok (Stateful.perform_get w)]
  have hread := readSettings_said (w := w.log ⟨.info, source, "loading_user_global_config",
    [("path", .text w.settings.text)]⟩) h w.settings.text
  rcases isFile_of_said h with hthere | ⟨hthere, rfl⟩
  · obtain ⟨es, hes⟩ := perform_of_quiet (readSettings_quiet _ _) hread
    rw [hthere, Stateful.perform_bind_ok (Act.perform_ofExcept _ w), if_pos rfl,
      Stateful.perform_bind_ok (Act.perform_log _ _ _ _ w), Stateful.perform_bind_ok hes]
    cases v <;> rfl
  · rw [hthere, Stateful.perform_bind_ok (Act.perform_ofExcept _ w)]
    rfl

theorem userSettings_spoils (h : Spoils w.host.toml w.files w.settings f) :
    (userSettings.perform w).1 = .error f := by
  unfold userSettings
  rw [Stateful.perform_bind_ok (Stateful.perform_get w)]
  have hread := readSettings_spoils (w := w.log ⟨.info, source, "loading_user_global_config",
    [("path", .text w.settings.text)]⟩) h w.settings.text
  rcases isFile_of_spoils h with hthere | hthere
  · rw [hthere, Stateful.perform_bind_ok (Act.perform_ofExcept _ w), if_pos rfl,
      Stateful.perform_bind_ok (Act.perform_log _ _ _ _ w)]
    exact Stateful.perform_bind_of_error hread _
  · rw [hthere]
    rfl

theorem userSettings_cases (w : World) :
    (∃ v, Says w.host.toml w.files w.settings v) ∨ (∃ f, Spoils w.host.toml w.files w.settings f) ∨
      ∃ f, (userSettings.perform w).1 = .error f ∧ f.kind = reportedKind := by
  rcases readSettings_cases w.settings w.settings.text (w.log ⟨.info, source,
    "loading_user_global_config", [("path", .text w.settings.text)]⟩) with h | h | ⟨f, hf, hkind⟩
  · exact .inl h
  · exact .inr (.inl h)
  · rcases hthere : w.files.isFile w.settings with g | (- | -)
    · exact .inr (.inl ⟨g, .unasked hthere⟩)
    · exact .inl ⟨_, .nothing hthere⟩
    · refine .inr (.inr ⟨f, ?_, hkind⟩)
      unfold userSettings
      rw [Stateful.perform_bind_ok (Stateful.perform_get w), hthere,
        Stateful.perform_bind_ok (Act.perform_ofExcept _ w), if_pos rfl,
        Stateful.perform_bind_ok (Act.perform_log _ _ _ _ w)]
      exact Stateful.perform_bind_of_error hf _

/-! ## The files of the project -/

/-- What was found of the project, none being nothing. -/
def foundTable (found : Option (String × Bindings)) : Bindings := (found.map Prod.snd).getD []

variable {names : List String} {r : Except Fault Bindings}

/-- Settings that are set and are a table say something. -/
theorem tableOf_ne_nil (hv : Toml.Proper v) (hset : isSet v = true) (htable : popFault? v = none) :
    tableOf v ≠ [] := by
  cases v with
  | dict es =>
      intro hnil
      have heq := hv.entries.2
      rw [show Bindings.ofEntries es = [] from hnil] at heq
      cases heq
      cases hset
  | _ => cases htable

/-- A file that says nothing is passed over. -/
theorem projectSettings_passed {n : String} (hv : Says w.host.toml w.files (base ++ Path.ofString n) v)
    (hset : isSet v = false) (shownBase : String) (names : List String) :
    ∃ es, (projectSettings base shownBase (n :: names)).perform w =
      (projectSettings base shownBase names).perform { w with events := es ++ w.events } := by
  rw [projectSettings, Stateful.perform_bind_ok (Stateful.perform_get w)]
  rcases isFile_of_said hv with hthere | ⟨hthere, -⟩
  · obtain ⟨es, hes⟩ := perform_of_quiet (readSettings_quiet _ _)
      (readSettings_said hv (shownBase ++ n))
    rw [hthere, Stateful.perform_bind_ok (Act.perform_ofExcept _ w), if_pos rfl,
      Stateful.perform_bind_ok hes, hset, if_neg Bool.false_ne_true]
    exact ⟨es, rfl⟩
  · rw [hthere, Stateful.perform_bind_ok (Act.perform_ofExcept _ w), if_neg Bool.false_ne_true]
    exact ⟨[], rfl⟩

/-- The first file that says anything has to hold a table. -/
theorem projectSettings_set {n : String} (hv : Says w.host.toml w.files (base ++ Path.ofString n) v)
    (hset : isSet v = true) (shownBase : String) (names : List String) :
    ((projectSettings base shownBase (n :: names)).perform w).1 =
      match popFault? v with
      | none => .ok (some (shownBase ++ n, tableOf v))
      | some f => .error f := by
  obtain ⟨es, hes⟩ := perform_of_quiet (readSettings_quiet _ _)
    (readSettings_said hv (shownBase ++ n))
  have hthere : w.files.isFile (base ++ Path.ofString n) = .ok true :=
    (isFile_of_said hv).resolve_right fun h => by
      rw [h.2] at hset
      cases hset
  rw [projectSettings, Stateful.perform_bind_ok (Stateful.perform_get w), hthere,
    Stateful.perform_bind_ok (Act.perform_ofExcept _ w), if_pos rfl,
    Stateful.perform_bind_ok hes, hset, if_pos rfl,
    Stateful.perform_bind_ok (Act.perform_log _ _ _ _ _)]
  cases v <;> rfl

theorem projectSettings_failed {n : String} (shownBase : String)
    (hthere : w.files.isFile (base ++ Path.ofString n) = .ok true)
    (hread : ((readSettings (base ++ Path.ofString n) (shownBase ++ n)).perform w).1 = .error f) :
    ((projectSettings base shownBase (n :: names)).perform w).1 = .error f := by
  rw [projectSettings, Stateful.perform_bind_ok (Stateful.perform_get w), hthere,
    Stateful.perform_bind_ok (Act.perform_ofExcept _ w), if_pos rfl]
  exact Stateful.perform_bind_of_error hread _

/-- Asking the files of a project comes to what is said of the files alone. What is found says
    something. -/
theorem projectSettings_search (h : Search reader files base names r) (shownBase : String)
    (hfiles : w.files = files) (hreader : w.host.toml = reader) :
    (((projectSettings base shownBase names).perform w).1.map foundTable = r) ∧
      ∀ p, ((projectSettings base shownBase names).perform w).1 = .ok (some p) → p.2 ≠ [] := by
  -- One file is asked after the other. Each that says nothing is logged, so the worlds differ from
  -- step to step, but their files do not.
  induction h generalizing w with
  | silent => exact ⟨rfl, fun p hp => by cases hp⟩
  | passed hv hset _ ih =>
      subst hfiles hreader
      obtain ⟨es, hes⟩ := projectSettings_passed hv hset shownBase _
      rw [hes]
      exact ih rfl rfl
  | @found n ns v hv hset htable =>
      subst hfiles hreader
      have hfound := projectSettings_set hv hset shownBase ns
      rw [htable] at hfound
      rw [hfound]
      refine ⟨rfl, fun p hp => ?_⟩
      obtain rfl := Option.some.inj (Except.ok.inj hp)
      exact tableOf_ne_nil hv.proper hset htable
  | @noTable n ns v f hv hset hf =>
      subst hfiles hreader
      have hfound := projectSettings_set hv hset shownBase ns
      rw [hf] at hfound
      rw [hfound]
      exact ⟨rfl, fun p hp => by cases hp⟩
  | @spoiled n ns f hf =>
      subst hfiles hreader
      have hfailed : ((projectSettings base shownBase (n :: ns)).perform w).1 = .error f := by
        rcases isFile_of_spoils hf with hthere | hthere
        · exact projectSettings_failed shownBase hthere (readSettings_spoils hf _)
        · rw [projectSettings, Stateful.perform_bind_ok (Stateful.perform_get w), hthere]
          rfl
      rw [hfailed]
      exact ⟨rfl, fun p hp => by cases hp⟩

/-- The search comes to something, or one of the files is reported. -/
theorem search_cases (base : Path) (shownBase : String) (names : List String) (w : World) :
    (∃ r, Search w.host.toml w.files base names r) ∨
      ∃ f, ((projectSettings base shownBase names).perform w).1 = .error f ∧
        f.kind = reportedKind := by
  induction names generalizing w with
  | nil => exact .inl ⟨_, .silent⟩
  | cons n names ih =>
      rcases readSettings_cases (base ++ Path.ofString n) (shownBase ++ n) w with
        ⟨v, hv⟩ | ⟨f, hf⟩ | ⟨f, hread, hkind⟩
      · cases hset : isSet v with
        | true =>
            cases htable : popFault? v with
            | none => exact .inl ⟨_, .found hv hset htable⟩
            | some f => exact .inl ⟨_, .noTable hv hset htable⟩
        | false =>
            obtain ⟨es, hes⟩ := projectSettings_passed hv hset shownBase names
            rw [hes]
            exact (ih { w with events := es ++ w.events }).imp_left fun ⟨r, hr⟩ =>
              ⟨r, .passed hv hset hr⟩
      · exact .inl ⟨_, .spoiled hf⟩
      · rcases hthere : w.files.isFile (base ++ Path.ofString n) with g | (- | -)
        · exact .inl ⟨_, .spoiled (.unasked hthere)⟩
        · have hsaid := readSettings_said (.nothing hthere) (shownBase ++ n)
          rw [hread] at hsaid
          cases hsaid
        · exact .inr ⟨f, projectSettings_failed shownBase hthere hread, hkind⟩

theorem popFault?_kind (h : popFault? v = some f) : f.kind ≠ reportedKind := by
  unfold popFault? at h
  split at h <;> cases h
  · exact kind_ne_of_foreign trivial
  · exact kind_ne_of_foreign trivial

/-- What ends the search is no report. -/
theorem Search.kind_ne (h : Search reader files base names (.error f)) : f.kind ≠ reportedKind := by
  generalize hr : (Except.error f : Except Fault Bindings) = r at h
  induction h with
  | silent => cases hr
  | passed _ _ _ ih => exact ih hr
  | found => cases hr
  | noTable _ _ hf => cases hr; exact popFault?_kind hf
  | spoiled hf => cases hr; exact hf.kind_ne

/-- The table that the search finds has no repeated keys. -/
theorem Search.table {b : Bindings} (h : Search reader files base names (.ok b)) : Toml.Table b := by
  generalize hr : (Except.ok b : Except Fault Bindings) = r at h
  induction h with
  | silent => cases hr; exact .nil
  | passed _ _ _ ih => exact ih hr
  | @found _ _ v hv _ htable =>
      cases hr
      cases v with
      | dict es => exact hv.proper.entries.1
      | _ => cases htable
  | noTable => cases hr
  | spoiled => cases hr

end Config

end Stencil
