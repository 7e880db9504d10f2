import Stencil.Command
import Stencil.Proofs.Building
import Stencil.Proofs.Logging

/-!
# Who owns a name

Four parties decide what a name stands for. The resolver probes the two candidates in
order. The engine takes the compiled one, cuts the root off it, and hands the rest to
whatever loads inclusions, which puts the root in front again. A view goes by the
resolver and hands over to the engine, which starts anew from the name. The command line
probes the candidates itself.

The engine comes back to the file it started from because an extension with a slash only
leads to directories: as long as the candidate is a file, all that was put behind the
root are segments, and writing segments and reading them gives them back. So the
template that is rendered is the owner, whatever the memory of the engine holds.

The command line differs in two points. It goes on to probe the second candidate after the
first was found, and a probe can fail, since the extension of scripts may be too long
where that of templates is not. And what it tells goes through a terminal that takes
square brackets for tags, so a name, a path or a directory with brackets may be something
that it does not show. In both cases it names no owner although there is one.

## Main definitions

* `Engine.includedFile?`: The file that an inclusion names.
* `Engine.loadFile`, `Engine.renderFile`: Loading and rendering from one given file.
* `TemplateOwns`, `ScriptOwns`: What it means that a file owns a name.
* `Command.Asked`: The words of a run ask for the owner of a name.
* `Command.Names`, `Command.Refuses`, `Command.Breaks`: How such a run can end.
* `Command.Probeable`: The second candidate of a name can be probed.
* `Command.Printable`: The terminal shows all that is told of a name.

## Theorems

* `Engine.includeSegments?_intercalate`: Segments that are written are read again.
* `Engine.load_perform`: The engine loads the file that the resolver found.
* `templateOwns_of_owner`, `scriptOwns_of_owner`: The owner is what views render.
* `Command.run_of_asked`: A run gives the answer from the files.
* `Command.names_answer_iff`: Which names the owner if it can probe both candidates and show
  what it tells.
* `owner_agreed`: All parties agree on the owner of a name.
* `not_named_long`: The command line does not name every owner.
-/

namespace Stencil

namespace Engine

variable {c : Config} {w : World}

/-- Segments written as inclusions write them are read as they were. -/
theorem includeSegments?_intercalate {segments : List String}
    (hs : ∀ s ∈ segments, Path.IsSegment s) (hdots : ".." ∉ segments) (hne : segments ≠ []) :
    includeSegments? ("/".intercalate segments) = some segments := by
  have hsplit : (Path.splitOn '/' ("/".intercalate segments).toList).map String.ofList =
      segments := by
    rw [Path.splitOn_eq, String.toList_intercalate]
    -- No segment has a slash in it, so cutting at slashes undoes the writing.
    have hslash : ∀ l ∈ segments.map String.toList, '/' ∉ l := by
      intro l hl
      rcases List.mem_map.mp hl with ⟨s, hmem, rfl⟩
      exact (hs s hmem).2.2
    rw [show ("/" : String).toList = ['/'] from rfl,
      List.splitOn_intercalate '/' hslash (by simpa using hne), List.map_map]
    simp
  rw [includeSegments?, hsplit]
  refine (if_neg (by rwa [List.contains_iff_mem])).trans ?_
  refine congrArg some (List.filter_eq_self.mpr fun s hmem => ?_)
  rw [Bool.and_eq_true, bne_iff_ne, bne_iff_ne]
  exact ⟨(hs s hmem).1, (hs s hmem).2.1⟩

/-- The file that an inclusion names, if it leads to one. -/
def includedFile? (c : Config) (name : String) : Option Path :=
  (includeSegments? name).map (includePath c)

/-- The compiled candidate under the root, as inclusions know it, is the file it is. -/
theorem innerName_of_under {name : Value} {p : Path} {segments : List String}
    (hpath : templatePath c name = .ok p)
    (hp : p = ⟨c.templateRoot.anchor, c.templateRoot.parts ++ segments⟩)
    (hs : ∀ s ∈ segments, Path.IsSegment s) (hdots : ".." ∉ segments) (hne : segments ≠ []) :
    ∃ n, innerName c name = .ok (p, n) ∧ includedFile? c n = some p := by
  -- Taking the root off leaves the segments that are behind it.
  have hrelative : p.relativeTo c.templateRoot = .ok ⟨.here, segments⟩ := by
    rw [hp, Path.relativeTo, if_pos]
    · simp
    · simp
  have htext : (⟨.here, segments⟩ : Path).text = "/".intercalate segments := by
    rw [Path.text, if_neg (by simpa using hne)]
    simp [Anchor.text]
  refine ⟨"/".intercalate segments, ?_, ?_⟩
  · rw [innerName, hpath]
    simp only [bind, Except.bind, hrelative, htext]
    rfl
  · rw [includedFile?, includeSegments?_intercalate hs hdots hne, hp]
    rfl

/-- The template in memory, if it is of the time that its file has. -/
def kept? (e : Engine) (inner : String) (modified : Nat) : Option Loaded :=
  (Memory.find? e.memory inner).filter fun l => modified = l.modified

/-- Loads the template of a name by the name that inclusions use and the file it is read
    from: what the memory has is good if the file has its time, and else the content is
    compiled. -/
def loadFile (id : EngineId) (name : Value) (inner : String) (p : Path) (file : Content × Nat) :
    Act (String × Loaded) := do
  let e ← find id
  match kept? e inner file.2 with
  | some l => return (inner, l)
  | none =>
    let l ← tryCatch (loadContent id e inner p file.1 file.2) (reportLoading name p)
    return (inner, l)

/-- Renders a template that is read from a file. -/
def renderFile (id : EngineId) (name : Value) (inner : String) (p : Path)
    (file : Content × Nat) (data : Bindings) : Act String := do
  let (inner, l) ← loadFile id name inner p file
  let e ← find id
  Act.log .info source "rendering_compiled_template"
    [("name", name), ("context_keys", .list (data.keys.map Value.text))]
  tryCatch (Template.render (renderer id e) ⟨inner, l.body⟩ data) (reportRendering name)

variable {id : EngineId} {e : Engine} {name : Value} {n : String} {p : Path}
  {file : Content × Nat}

/-- Loading a name reads the file that inclusions know by its inner name. -/
theorem load_perform (hid : w.engine? id = some e) (hc : e.config = c)
    (hinner : innerName c name = .ok (p, n)) (hpath : includedFile? c n = some p)
    (hfile : w.files.file? p = some file) :
    (load id name).perform w = (loadFile id name n p file).perform w := by
  rcases Option.map_eq_some_iff.mp hpath with ⟨segments, hsegments, hp⟩
  have hkept : e.remembered? w.files n = kept? e n file.2 := by
    rw [remembered?, kept?, hsegments]
    cases Memory.find? e.memory n with
    | none => rfl
    | some l => simp [hc, hp, hfile, Option.filter]
  -- Taking it from memory or reading it, both look at the one file only.
  have hfetch : (fetch id n).perform w =
      match kept? e n file.2 with
      | some l => (.ok l, w)
      | none => (loadContent id e n p file.1 file.2).perform w := by
    rw [fetch_perform hid, hkept]
    cases kept? e n file.2 with
    | some l => rfl
    | none =>
        simp only [loadFresh, hsegments]
        rw [Stateful.perform_bind_ok (Stateful.perform_get w), hc, hp, hfile]
  rw [load, Stateful.perform_bind_ok (find_perform hid), hc, hinner,
    Stateful.perform_bind_ok (Act.perform_ofExcept _ w), loadFile,
    Stateful.perform_bind_ok (find_perform hid)]
  simp only
  -- What follows is the same on both sides, so the results of fetching are enough.
  cases hmem : kept? e n file.2 with
  | some l =>
      rw [hmem] at hfetch
      have hload : (tryCatch (fetch id n) (reportLoading name p)).perform w = (.ok l, w) := by
        rw [Stateful.perform_tryCatch, hfetch]
      rw [Stateful.perform_bind_ok hload]
  | none =>
      rw [hmem] at hfetch
      have hload : (tryCatch (fetch id n) (reportLoading name p)).perform w =
          (tryCatch (loadContent id e n p file.1 file.2) (reportLoading name p)).perform w := by
        rw [Stateful.perform_tryCatch, Stateful.perform_tryCatch, hfetch]
      rw [Stateful.perform_bind, Stateful.perform_bind, hload]

/-- So rendering it renders that file. -/
theorem render_perform (hid : w.engine? id = some e) (hc : e.config = c)
    (hinner : innerName c name = .ok (p, n)) (hpath : includedFile? c n = some p)
    (hfile : w.files.file? p = some file) (data : Bindings) :
    (render id name data).perform w = (renderFile id name n p file data).perform w := by
  rw [render, renderFile, Stateful.perform_bind, Stateful.perform_bind,
    load_perform hid hc hinner hpath hfile]

end Engine

/-- A template owns a name: the engine loads it from the path by the name that inclusions
    use, and views render it over their data and that of the call. -/
def TemplateOwns (c : Config) (name : Value) (p : Path) (w : World) : Prop :=
  ∃ n file, Engine.innerName c name = .ok (p, n) ∧ Engine.includedFile? c n = some p ∧
    w.files.file? p = some file ∧
    ∀ id e, w.engine? id = some e → e.config = c →
      (Engine.load id name).perform w = (Engine.loadFile id name n p file).perform w ∧
      ∀ (v : View) (data : Bindings) (helpers : List (String × Helper)),
        v.name = name → v.config = c → v.engine = id →
        ∃ es, (v.render data helpers).perform ⟨v.data, v.helpers, w⟩ =
          (Play.ofAct (Engine.renderFile id name n p file (v.data.update data))).perform
            ⟨v.data.update data, v.helpers, { w with events := es ++ w.events }⟩

/-- A script owns a name: no template stands before it, and views run it over their data
    and that of the call, after they merged the helpers of the call into theirs. -/
def ScriptOwns (c : Config) (name : Value) (p : Path) (w : World) : Prop :=
  ∃ q file, Resolution.candidates c.templateRoot name c.extensions =
      .ok (⟨.compiled, q⟩, ⟨.rawScript, p⟩) ∧
    w.files.isFile q = .ok false ∧ w.files.file? p = some file ∧
    ∀ (v : View) (data : Bindings) (helpers : List (String × Helper)),
      v.name = name → v.config = c →
      ∃ es, (v.render data helpers).perform ⟨v.data, v.helpers, w⟩ =
        (do
          if !helpers.isEmpty then Registry.mergeDefaults helpers
          renderScript nestedRender v.owner p : Play String).perform
            ⟨v.data.update data, v.helpers, { w with events := es ++ w.events }⟩

variable {c : Config} {w : World} {p : Path} {name : Value}

/-- Rendering a view starts with finding the owner of its name. -/
theorem render_resolve (v : View) (data : Bindings) (helpers : List (String × Helper))
    {r : Resolution}
    (h : Resolution.owner w.files v.config.templateRoot v.name v.config.extensions = .ok r) :
    ∃ es, (v.render data helpers).perform ⟨v.data, v.helpers, w⟩ =
      (match r.kind with
        | .compiled => do
          if !helpers.isEmpty then
            Play.log .debug View.source "call_scoped_helpers_ignored_for_compiled_template"
              [("name", v.name), ("helpers", View.sortedNames (helpers.map (·.1)))]
          let data := (← get).data
          Play.ofAct (Engine.render v.engine v.name data)
        | .rawScript => do
          if !helpers.isEmpty then Registry.mergeDefaults helpers
          renderScript nestedRender v.owner r.path : Play String).perform
        ⟨v.data.update data, v.helpers, { w with events := es ++ w.events }⟩ := by
  rcases Resolution.resolve_perform v.config.templateRoot v.name v.config.extensions w with
    ⟨es, hes⟩
  refine ⟨es, ?_⟩
  have hresolve : (Play.ofAct (Resolution.resolve v.config.templateRoot v.name
      v.config.extensions)).perform ⟨v.data, v.helpers, w⟩ =
        (.ok r, ⟨v.data, v.helpers, { w with events := es ++ w.events }⟩) := by
    rw [Play.perform_ofAct, hes, h]
  -- The data of the call are put into those of the view once the owner is known.
  rw [View.render, renderOwned, Stateful.perform_bind_ok hresolve, View.setAll,
    Stateful.perform_bind_ok (Stateful.perform_modify _ _)]
  rfl

theorem scriptOwns_of_owner
    (h : Resolution.owner w.files c.templateRoot name c.extensions = .ok ⟨.rawScript, p⟩) :
    ScriptOwns c name p w := by
  rcases Resolution.owner_rawScript_iff.mp h with ⟨q, hcs, hnone, hfile⟩
  rcases Files.isFile_iff.mp hfile with ⟨file, hfile⟩
  refine ⟨q, file, hcs, hnone, hfile, fun v data helpers hname hconfig => ?_⟩
  subst hname hconfig
  exact render_resolve v data helpers h

/-- With an extension that has no slash the segments of a name are segments still. -/
theorem isSegment_of_nameSegments {name : String} {pre : List String} {n ext : String}
    (hname : nameSegments name = pre ++ [n]) (hext : ext.toList.head? = some '.')
    (hslash : '/' ∉ ext.toList) : ∀ s ∈ pre ++ [n ++ ext], Path.IsSegment s := by
  have hmem : ∀ s ∈ pre ++ [n], Path.IsSegment s := fun s hs =>
    Resolution.isSegment_of_mem_nameSegments (hname ▸ hs)
  intro s hs
  rcases List.mem_append.mp hs with hs | hs
  · exact hmem s (List.mem_append_left _ hs)
  · obtain rfl := List.mem_singleton.mp hs
    exact (hmem n (by simp)).append hext hslash

theorem templateOwns_of_owner (hc : c.Sound) {name : String}
    (h : Resolution.owner w.files c.templateRoot (.text name) c.extensions = .ok ⟨.compiled, p⟩)
    (hunder : p.Under c.templateRoot) : TemplateOwns c (.text name) p w := by
  rcases Resolution.owner_compiled_iff.mp h with ⟨q, hcs, hfile⟩
  have hpath : Engine.templatePath c (.text name) = .ok p := by
    rw [Engine.templatePath, hcs]
    rfl
  rcases hunder with ⟨segments, hne, hdots, hp⟩
  have hsegments : ∀ s ∈ segments, Path.IsSegment s := by
    rcases (hc.candidates_cases hcs).2 with ⟨-, hlen, -⟩ | ⟨pre, n, hname, hext, -, ha, -⟩
    · -- A candidate beside the root has no more parts than the root.
      exfalso
      rw [hp, List.length_append] at hlen
      have := List.length_pos_iff.mpr hne
      omega
    · cases ha
      obtain rfl : pre ++ [n ++ c.compiledExtension] = segments := by
        simpa using hp
      -- With a slash in its extension the candidate would end in a dot and be no file.
      refine isSegment_of_nameSegments hname hc.compiled fun hslash => ?_
      have hdot := Files.getLast?_steps_of_slash c.templateRoot.anchor
        (c.templateRoot.parts ++ pre) n hext hslash
      rw [List.append_assoc] at hdot
      exact Files.getLast?_steps_of_isFile hfile hdot
  rcases Engine.innerName_of_under hpath hp hsegments hdots hne with ⟨n, hinner, hincluded⟩
  rcases Files.isFile_iff.mp hfile with ⟨file, hfile⟩
  refine ⟨n, file, hinner, hincluded, hfile, fun id e hid hconfig =>
    ⟨Engine.load_perform hid hconfig hinner hincluded hfile, fun v data helpers hv hvc hve => ?_⟩⟩
  subst hvc hve
  rcases render_resolve v data helpers (hv ▸ h) with ⟨es, hes⟩
  rw [hes, hv]
  -- Whatever is in the log by then, the engine has the same file before it.
  have hrender : ∀ es', (Play.ofAct (Engine.render v.engine (.text name)
      (v.data.update data))).perform
        ⟨v.data.update data, v.helpers, { w with events := es' ++ w.events }⟩ =
      (Play.ofAct (Engine.renderFile v.engine (.text name) n p file (v.data.update data))).perform
        ⟨v.data.update data, v.helpers, { w with events := es' ++ w.events }⟩ := by
    intro es'
    have hw : ({ w with events := es' ++ w.events } : World).engine? v.engine = some e := hid
    rw [Play.perform_ofAct, Play.perform_ofAct,
      Engine.render_perform hw hconfig hinner hincluded hfile]
  -- Helpers of the call are of no use to a template, which is logged.
  cases hempty : helpers.isEmpty with
  | true => exact ⟨es, hrender es⟩
  | false => exact ⟨_ :: es, hrender (_ :: es)⟩

namespace Command

/-- The words ask for the owner of a name, and this is the configuration that is loaded
    for them. -/
def Asked (ws : List String) (w : World) (name : String) (c : Config) : Prop :=
  ∃ g rest r, Globals.ofWords ws = .ok (g, .resolve, rest) ∧
    Request.ofWords w.files .resolve rest = .ok r ∧ r.name = name ∧
    ((r.config g).perform ((Act.startLogging g.jsonLogs).perform w).2).1 = .ok c

/-- Every word that is no option can be asked for. -/
theorem asked_of_plain {name : String} (hplain : name ≠ "--" ∧ holdsOptions name = false)
    (hconfig : ((Config.load none [("template_root", .null)] none).perform
      ((Act.startLogging false).perform w).2).1 = .ok c) : Asked ["resolve", name] w name c := by
  have hparse : parse Name.resolve.forms true [name] = .ok ⟨[], [name]⟩ :=
    parse_plain _ _ _ fun v hv => List.mem_singleton.mp hv ▸ hplain
  refine ⟨⟨none, .warning, false⟩, [name], ⟨.resolve, name, ⟨[], [name]⟩⟩, rfl, ?_, rfl, hconfig⟩
  rw [Request.ofWords, hparse]
  rfl

/-- A run succeeds and names an owner of a kind. -/
def Names (o : Outcome) (k : TemplateKind) : Prop :=
  o.status = 0 ∧ ∃ probes place, o.printed = .probes probes [place, "owner: " ++ k.name]

/-- A run fails with an error that it tells. -/
def Refuses (o : Outcome) : Prop :=
  o.status = 1 ∧ o.unhandled = none ∧ ∃ m, o.message = some (Outcome.errorLine m)

/-- A run fails with a fault that nothing handles. -/
def Breaks (o : Outcome) : Prop := o.status = 1 ∧ o.message = none ∧ ∃ f, o.unhandled = some f

/-- The second candidate of a name can be probed, whatever comes of it. -/
def Probeable (files : Files) (c : Config) (name : String) : Prop :=
  ∃ a b y, Resolution.candidates c.templateRoot (.text name) c.extensions = .ok (a, b) ∧
    files.isFile b.path = .ok y

/-- What is told of a name with two candidates. -/
def told (c : Config) (name : String) (a b : Resolution) : List String :=
  [a.path.text, b.path.text, "template '" ++ name ++ "'", "cache dir: " ++ c.cacheDir.text]

/-- The terminal shows some texts. -/
def Shows (h : Host) (texts : List String) : Prop := ∀ s ∈ texts, ∃ t, h.markup s = .ok t

/-- The terminal shows all that is told of a name, if it has candidates. -/
def Printable (h : Host) (c : Config) (name : String) : Prop :=
  ∀ a b, Resolution.candidates c.templateRoot (.text name) c.extensions = .ok (a, b) →
    Shows h (told c name a b)

/-- The answer to the question who owns a name, from the files. -/
def answer (h : Host) (files : Files) (c : Config) (name : String) : Outcome :=
  match Resolution.candidates c.templateRoot (.text name) c.extensions with
  | .error f => .ofFault f
  | .ok (a, b) =>
    match files.isFile a.path, files.isFile b.path with
    | .error f, _ => .ofFault f
    | .ok _, .error f => .ofFault f
    | .ok y, .ok z => tell h c name [⟨a, y⟩, ⟨b, z⟩]

/-- Carrying out the request gives the answer, once the configuration is loaded. -/
theorem carryOut_resolve {r : Request} {g : Globals}
    (hloaded : ((r.config g).perform w).1 = .ok c) :
    (carryOut (resolve r g) w).1 = answer w.host w.files c r.name := by
  rcases hconfig : (r.config g).perform w with ⟨loaded, w'⟩
  rw [hconfig] at hloaded
  obtain rfl : loaded = .ok c := hloaded
  obtain ⟨es, hes⟩ := Config.load_quiet g.profile
    [("template_root", ((r.options.last? .root).map Value.text).getD .null)] none w
  -- Loading the configuration left all but the log alone, so the probes are those of the answer.
  obtain rfl : w' = { w with events := es ++ w.events } :=
    (congrArg Prod.snd hconfig).symm.trans hes
  rw [carryOut, resolve, Stateful.perform_bind_ok hconfig, answer]
  rcases hcs : Resolution.candidates c.templateRoot (.text r.name) c.extensions with f | ⟨a, b⟩
  · rfl
  · rw [Stateful.perform_bind_ok (Act.perform_ofExcept _ _),
      Stateful.perform_bind_ok (Stateful.perform_get _)]
    simp only
    rw [Stateful.perform_bind, Act.perform_ofExcept, probe]
    cases w.files.isFile a.path with
    | error f => rfl
    | ok y =>
        cases hb : w.files.isFile b.path with
        | error f =>
            simp only [probe, hb]
            rfl
        | ok z =>
            simp only [probe, hb]
            rfl

/-- A run that is asked for the owner of a name gives the answer from the files. -/
theorem run_of_asked {ws : List String} {name : String} (h : Asked ws w name c) :
    (run ws w).1 = answer w.host w.files c name := by
  rcases h with ⟨g, rest, r, hwords, hrequest, rfl, hconfig⟩
  -- Starting the log does not touch the files either.
  generalize hlogged : ((Act.startLogging g.jsonLogs).perform w).2 = w₁ at hconfig
  have hsame : w₁.files = w.files ∧ w₁.host = w.host := by
    rw [← hlogged]
    exact ⟨rfl, rfl⟩
  rw [← hsame.1] at hrequest
  rw [← hsame.1, ← hsame.2]
  have hrun : run ws w = runCommand g .resolve rest w₁ := by
    rw [run, hwords, ← hlogged]
  rw [hrun, runCommand, hrequest]
  exact carryOut_resolve hconfig

/-- A fault prints nothing. -/
theorem printed_ofFault (f : Fault) : (Outcome.ofFault f).printed = .text "" := by
  unfold Outcome.ofFault
  split
  · rfl
  · split
    · unfold Outcome.ofRaised
      split
      -- A script that ends the program, and what it raises that ends a run.
      · unfold Outcome.ofExit
        split <;> rfl
      · unfold Outcome.ofExit
        split <;> rfl
      · unfold Outcome.ofExit
        split <;> rfl
      all_goals first | rfl | (split <;> rfl)
    · rfl

/-- A fault names no owner. -/
theorem not_names_ofFault (f : Fault) (k : TemplateKind) : ¬Names (.ofFault f) k := by
  rintro ⟨-, probes, place, h⟩
  rw [printed_ofFault] at h
  cases h

theorem owner_line_injective {k l : TemplateKind} (h : "owner: " ++ k.name = "owner: " ++ l.name) :
    k = l := by
  cases k <;> cases l <;> first | rfl | exact absurd h (by decide)

section

variable {h : Host} {a b : Resolution} {y z : Bool} {name : String}

theorem markup_of_displayed {s t : String} (hshown : displayed h s = .ok t) :
    ∃ u, h.markup s = .ok u := by
  unfold displayed at hshown
  cases hs : h.markup s with
  | error m =>
      rw [hs] at hshown
      cases hshown
  | ok u => exact ⟨u, rfl⟩

/-- What is told where the terminal shows it: the table, and who the owner is. -/
theorem tell_of_shows (hshows : Shows h (told c name a b)) : ∃ title rows place,
    tell h c name [⟨a, y⟩, ⟨b, z⟩] =
      match [(⟨a, y⟩ : Probed), ⟨b, z⟩].find? (·.present) with
      | some p =>
        { status := 0, title, printed := .probes rows [place, "owner: " ++ p.candidate.kind.name] }
      | none =>
        { status := 1, title, printed := .probes rows [place],
          message := some (Outcome.errorLine ("no template found for '" ++ name ++ "'")) } := by
  obtain ⟨first, hfirst⟩ := hshows a.path.text (by simp [told])
  obtain ⟨second, hsecond⟩ := hshows b.path.text (by simp [told])
  obtain ⟨title, htitle⟩ := hshows ("template '" ++ name ++ "'") (by simp [told])
  obtain ⟨place, hplace⟩ := hshows ("cache dir: " ++ c.cacheDir.text) (by simp [told])
  refine ⟨title, [⟨⟨a.kind, ⟨first⟩⟩, y⟩, ⟨⟨b.kind, ⟨second⟩⟩, z⟩], place, ?_⟩
  have htable : table h name [⟨a, y⟩, ⟨b, z⟩] =
      .ok (title, [⟨⟨a.kind, ⟨first⟩⟩, y⟩, ⟨⟨b.kind, ⟨second⟩⟩, z⟩]) := by
    simp only [table, row, displayed, List.mapM_cons, List.mapM_nil, hfirst, hsecond, htitle]
    rfl
  rw [tell, htable]
  cases [(⟨a, y⟩ : Probed), ⟨b, z⟩].find? (·.present) <;>
    simp only [displayed, hplace, Except.mapError]

/-- Where the terminal does not show what is told, nothing handles that. -/
theorem tell_of_not_shows (hshows : ¬Shows h (told c name a b)) :
    Breaks (tell h c name [⟨a, y⟩, ⟨b, z⟩]) := by
  unfold tell
  cases htable : table h name [⟨a, y⟩, ⟨b, z⟩] with
  | error f => exact ⟨rfl, rfl, f, rfl⟩
  | ok shown =>
      cases hplace : displayed h ("cache dir: " ++ c.cacheDir.text) with
      | error f => exact ⟨rfl, rfl, f, rfl⟩
      | ok place =>
          -- All of it was shown.
          refine absurd ?_ hshows
          obtain ⟨rows, hrows, htitle⟩ := exists_of_bind_eq_ok htable
          obtain ⟨title, htitle, -⟩ := exists_of_bind_eq_ok htitle
          simp only [List.mapM_cons, List.mapM_nil] at hrows
          obtain ⟨first, hfirst, hrows⟩ := exists_of_bind_eq_ok hrows
          obtain ⟨rest, hrest, -⟩ := exists_of_bind_eq_ok hrows
          obtain ⟨second, hsecond, -⟩ := exists_of_bind_eq_ok hrest
          obtain ⟨_, hfirst, -⟩ := exists_of_bind_eq_ok hfirst
          obtain ⟨_, hsecond, -⟩ := exists_of_bind_eq_ok hsecond
          simp only [Shows, told, List.forall_mem_cons, List.not_mem_nil, false_implies,
            implies_true, and_true]
          exact ⟨markup_of_displayed hfirst, markup_of_displayed hsecond,
            markup_of_displayed htitle, markup_of_displayed hplace⟩

/-- Only the last line says who the owner is, and it says it of one kind only. -/
theorem names_iff_of_printed {o : Outcome} {k l : TemplateKind} {rows : List Probe}
    {place : String} (hstatus : o.status = 0)
    (hprinted : o.printed = .probes rows [place, "owner: " ++ l.name]) : Names o k ↔ l = k := by
  constructor
  · rintro ⟨-, rows', place', heq⟩
    rw [hprinted] at heq
    injection heq with hrows hlines
    injection hlines with hplace hrest
    injection hrest with howner
    exact owner_line_injective howner
  · rintro rfl
    exact ⟨hstatus, rows, place, hprinted⟩

/-- What is told names the first candidate that is there, if the terminal shows it. -/
theorem names_tell_iff {k : TemplateKind} : Names (tell h c name [⟨a, y⟩, ⟨b, z⟩]) k ↔
    (y = true ∧ a.kind = k ∨ y = false ∧ z = true ∧ b.kind = k) ∧
      Shows h (told c name a b) := by
  by_cases hshows : Shows h (told c name a b)
  · obtain ⟨title, rows, place, htell⟩ := tell_of_shows (y := y) (z := z) hshows
    rw [htell]
    cases y with
    | true => simpa [hshows] using names_iff_of_printed rfl rfl
    | false =>
        cases z with
        | true => simpa [hshows] using names_iff_of_printed rfl rfl
        | false => simp [Names]
  · refine iff_of_false ?_ fun hboth => hshows hboth.2
    rintro ⟨hstatus, -⟩
    rw [(tell_of_not_shows hshows).1] at hstatus
    exact absurd hstatus (by decide)

end

variable {name : String} {files : Files} {k : TemplateKind}

theorem exists_owner_iff {a b : Resolution}
    (hcs : Resolution.candidates c.templateRoot (.text name) c.extensions = .ok (a, b)) :
    (∃ p, Resolution.owner files c.templateRoot (.text name) c.extensions = .ok ⟨k, p⟩) ↔
      files.isFile a.path = .ok true ∧ a.kind = k ∨
        files.isFile a.path = .ok false ∧ files.isFile b.path = .ok true ∧ b.kind = k := by
  simp only [Resolution.owner_eq_ok_iff, hcs, Except.ok.injEq, exists_eq_left',
    Resolution.owner?_eq_some_iff]
  constructor
  · rintro ⟨p, ⟨ha, hp⟩ | ⟨ha, hb, hp⟩⟩
    · exact Or.inl ⟨ha, (congrArg Resolution.kind hp).symm⟩
    · exact Or.inr ⟨ha, hb, (congrArg Resolution.kind hp).symm⟩
  · rintro (⟨ha, rfl⟩ | ⟨ha, hb, rfl⟩)
    · exact ⟨a.path, Or.inl ⟨ha, rfl⟩⟩
    · exact ⟨b.path, Or.inr ⟨ha, hb, rfl⟩⟩

variable {h : Host}

/-- The answer names the owner as long as both candidates can be probed and the terminal
    shows what is told. -/
theorem names_answer_iff : Names (answer h files c name) k ↔
    (∃ p, Resolution.owner files c.templateRoot (.text name) c.extensions = .ok ⟨k, p⟩) ∧
      Probeable files c name ∧ Printable h c name := by
  rcases hcs : Resolution.candidates c.templateRoot (.text name) c.extensions with f | ⟨a, b⟩
  · simp [answer, Probeable, hcs, not_names_ofFault]
  · have hprobed : Probeable files c name ↔ ∃ y, files.isFile b.path = .ok y := by
      simp [Probeable, hcs]
    have hprinted : Printable h c name ↔ Shows h (told c name a b) := by
      simp [Printable, hcs]
    rw [exists_owner_iff hcs, answer, hcs, hprobed, hprinted]
    simp only
    rcases files.isFile a.path with f | y
    · simp [not_names_ofFault]
    · rcases files.isFile b.path with f | z
      · simp [not_names_ofFault]
      · simp [names_tell_iff]

/-- A fault of the library ends the run with its message: a name that is refused, and one
    that has no owner if the terminal shows what is told of it. Else nothing handles that. -/
theorem answer_of_own {f : Fault} (hown : f.isOwn = true)
    (hresolved : Resolution.owner files c.templateRoot (.text name) c.extensions = .error f) :
    (Printable h c name → Refuses (answer h files c name)) ∧
      (¬Printable h c name → Breaks (answer h files c name)) := by
  have hfault : Refuses (.ofFault f) := by
    unfold Outcome.ofFault
    rw [if_pos hown]
    exact ⟨rfl, rfl, f.message, rfl⟩
  rw [Resolution.owner] at hresolved
  rw [answer]
  rcases hcs : Resolution.candidates c.templateRoot (.text name) c.extensions with f' | ⟨a, b⟩
  · rw [hcs] at hresolved
    cases hresolved
    exact ⟨fun _ => hfault, fun hnot => absurd (by simp [Printable, hcs]) hnot⟩
  · -- A probe fails with an error of the system, which is not of the library.
    have hnot : ∀ p, files.isFile p ≠ .error f := by
      intro p hp
      obtain rfl := Files.asks_error hp
      have hforeign : (Fault.system .nameTooLong p.text).isOwn = false := rfl
      rw [hforeign] at hown
      cases hown
    have hprinted : Printable h c name ↔ Shows h (told c name a b) := by
      simp [Printable, hcs]
    rw [hcs] at hresolved
    rw [hprinted]
    -- The compiled candidate is asked for first, then the raw one. If one of them is there it owns
    -- the name, so both are not.
    simp only [Resolution.owner?] at hresolved ⊢
    rcases ha : files.isFile a.path with f' | (- | -)
    · rw [ha] at hresolved
      cases hresolved
      exact absurd ha (hnot _)
    · rw [ha] at hresolved
      rcases hb : files.isFile b.path with f' | (- | -)
      · rw [hb] at hresolved
        cases hresolved
        exact absurd hb (hnot _)
      · refine ⟨fun hshows => ?_, tell_of_not_shows⟩
        obtain ⟨title, rows, place, htell⟩ := tell_of_shows (y := false) (z := false) hshows
        show Refuses (tell h c name _)
        rw [htell]
        exact ⟨rfl, rfl, _, rfl⟩
      · rw [hb] at hresolved
        cases hresolved
    · rw [ha] at hresolved
      cases hresolved

/-- If the second candidate cannot be probed or the terminal does not show what is told, the
    run ends with a fault that nothing handles, also when the first is the owner. -/
theorem answer_of_not_named {r : Resolution}
    (hresolved : Resolution.owner files c.templateRoot (.text name) c.extensions = .ok r)
    (hnot : ¬(Probeable files c name ∧ Printable h c name)) :
    Breaks (answer h files c name) := by
  rcases Resolution.owner_eq_ok_iff.mp hresolved with ⟨⟨a, b⟩, hcs, -⟩
  have ha : ∃ y, files.isFile a.path = .ok y := by
    rcases (exists_owner_iff hcs).mp ⟨r.path, hresolved⟩ with ⟨ha, -⟩ | ⟨ha, -⟩
    · exact ⟨_, ha⟩
    · exact ⟨_, ha⟩
  rcases ha with ⟨y, ha⟩
  rw [answer, hcs]
  simp only [ha]
  cases hb : files.isFile b.path with
  | error f =>
      obtain rfl := Files.asks_error hb
      exact ⟨rfl, rfl, _, rfl⟩
  | ok z =>
      refine tell_of_not_shows fun hshows => hnot ⟨⟨a, b, z, hcs, hb⟩, fun a' b' hcs' => ?_⟩
      obtain ⟨rfl, rfl⟩ := Prod.mk.inj (Except.ok.inj (hcs.symm.trans hcs'))
      exact hshows

end Command

/-- All who look for the owner of a name find the same one. If it is a template under the
    root, the engine loads that file and views render it. If it is a script, no template
    stands before it, and views run it. The command line names it as long as it can probe
    both candidates and the terminal shows what is told, and it tells the errors of the
    library; else it ends with a fault that nothing handles. -/
theorem owner_agreed {given : Bindings} {c : Config} (hc : Config.ofFields given = .ok c)
    (name : String) (w : World) :
    let resolved := ((Resolution.resolve c.templateRoot (.text name) c.extensions).perform w).1
    (∀ p, resolved = .ok ⟨.compiled, p⟩ → p.Under c.templateRoot →
      TemplateOwns c (.text name) p w) ∧
    (∀ p, resolved = .ok ⟨.rawScript, p⟩ → ScriptOwns c (.text name) p w) ∧
    ∀ ws w₀, w₀.files = w.files → Command.Asked ws w₀ name c →
      let outcome := (Command.run ws w₀).1
      (∀ k, Command.Names outcome k ↔ (∃ p, resolved = .ok ⟨k, p⟩) ∧
        Command.Probeable w.files c name ∧ Command.Printable w₀.host c name) ∧
      (∀ f, resolved = .error f → f.isOwn = true →
        (Command.Printable w₀.host c name → Command.Refuses outcome) ∧
          (¬Command.Printable w₀.host c name → Command.Breaks outcome)) ∧
      (∀ r, resolved = .ok r →
        ¬(Command.Probeable w.files c name ∧ Command.Printable w₀.host c name) →
          Command.Breaks outcome) := by
  intro resolved
  have howner : resolved =
      Resolution.owner w.files c.templateRoot (.text name) c.extensions :=
    Resolution.resolve_result _ _ _ w
  rw [howner]
  refine ⟨fun p h hunder => templateOwns_of_owner (Config.sound_of_ofFields hc) h hunder,
    fun p h => scriptOwns_of_owner h, fun ws w₀ hfiles hasked => ?_⟩
  intro outcome
  have hanswer : outcome = Command.answer w₀.host w.files c name :=
    hfiles ▸ Command.run_of_asked hasked
  rw [hanswer]
  exact ⟨fun k => Command.names_answer_iff, fun f h hown => Command.answer_of_own hown h,
    fun r h hnot => Command.answer_of_not_named h hnot⟩

/-- A world with one template. -/
def withTemplate (name : String) : World :=
  .ofFiles ⟨[(["templates"], .directory),
    (["templates", name ++ ".j2"], .file (.text "Hello") 10)]⟩ 0 "" ⟨.here, ["settings.toml"]⟩

/-- The template is the owner of its name for everyone. -/
theorem owner_agreed_greet :
    TemplateOwns .default (.text "greet") ⟨.here, ["templates", "greet.j2"]⟩
        (withTemplate "greet") ∧
      Command.Names (Command.run ["resolve", "greet"] (withTemplate "greet")).1 .compiled := by
  have hresolved : ((Resolution.resolve Config.default.templateRoot (.text "greet")
      Config.default.extensions).perform (withTemplate "greet")).1 =
        .ok ⟨.compiled, .here, ["templates", "greet.j2"]⟩ := rfl
  have hc : Config.ofFields [] = .ok .default := rfl
  rcases owner_agreed hc "greet" (withTemplate "greet") with ⟨htemplate, -, hcommand⟩
  have hasked : Command.Asked ["resolve", "greet"] (withTemplate "greet") "greet" .default :=
    Command.asked_of_plain (by decide) rfl
  have hprobe : Command.Probeable (withTemplate "greet").files .default "greet" :=
    ⟨_, _, false, rfl, rfl⟩
  have hprinted : Command.Printable Host.standard .default "greet" := by
    intro a b hcs
    obtain ⟨rfl, rfl⟩ := Prod.mk.inj (Except.ok.inj hcs)
    simp only [Command.Shows, Command.told, List.forall_mem_cons]
    exact ⟨⟨_, rfl⟩, ⟨_, rfl⟩, ⟨_, rfl⟩, ⟨_, rfl⟩, nofun⟩
  refine ⟨htemplate _ hresolved ⟨["greet.j2"], by simp, by decide, rfl⟩, ?_⟩
  exact ((hcommand _ _ rfl hasked).1 .compiled).mpr ⟨⟨_, hresolved⟩, hprobe, hprinted⟩

/-- A name of 252 letters is just short enough for the extension of templates, and too long
    for that of scripts. -/
theorem withTemplate_long {name : String} (hlist : name.toList = List.replicate 252 'a')
    (hsize : name.utf8ByteSize = 252) :
    Resolution.candidates Config.default.templateRoot (.text name) Config.default.extensions =
        .ok (⟨.compiled, .here, ["templates", name ++ ".j2"]⟩,
          ⟨.rawScript, .here, ["templates", name ++ ".pyt"]⟩) ∧
      (withTemplate name).files.isFile ⟨.here, ["templates", name ++ ".j2"]⟩ = .ok true ∧
      ∀ y, (withTemplate name).files.isFile ⟨.here, ["templates", name ++ ".pyt"]⟩ ≠ .ok y := by
  have hchars : ∀ d ∈ name.toList, d = 'a' := fun d hd => List.eq_of_mem_replicate (hlist ▸ hd)
  have hsegment : Path.IsSegment name := by
    refine ⟨?_, ?_, fun hslash => absurd (hchars _ hslash) (by decide)⟩
    · rintro rfl
      cases hlist
    · rintro rfl
      cases hlist
  have hsegments : nameSegments name = [] ++ [name] :=
    nameSegments_of_plain hsegment fun d hd => hchars d hd ▸ rfl
  -- Letters are neither blank nor do they separate, and there are more than two.
  have hrefused : ¬Refused name := by
    rintro (hblank | habsolute | hdots)
    · have ha : 'a' ∈ name.toList := hlist ▸ List.mem_replicate.mpr ⟨by decide, rfl⟩
      exact absurd (hblank 'a' ha) (by decide)
    · rw [IsAbsolute, hlist] at habsolute
      exact absurd habsolute (by decide)
    · rw [hsegments, List.nil_append, List.mem_singleton] at hdots
      rw [← hdots] at hlist
      cases hlist
  -- Where a candidate leads depends on the length of its last segment only.
  have hlocate : ∀ ext : String, ext.toList.head? = some '.' → '/' ∉ ext.toList →
      ext.utf8ByteSize < 5 → (withTemplate name).files.locate ⟨.here, ["templates", name ++ ext]⟩ =
        if Files.longestName < (name ++ ext).utf8ByteSize then .error .nameTooLong
        else .ok ["templates", name ++ ext] := by
    intro ext hext hslash hshort
    -- The path as a whole is far from too long.
    refine Files.locate_concat (rfl : (withTemplate name).files.locate ⟨.here, ["templates"]⟩ =
      .ok ["templates"]) rfl (hsegment.append hext hslash) (Path.ne_dots_of_append hsegment hext) ?_
    have htext : (⟨.here, ["templates"] ++ [name ++ ext]⟩ : Path).text =
        "templates/" ++ (name ++ ext) := by
      simp [Path.text, Anchor.text]
    rw [htext, String.utf8ByteSize_append, String.utf8ByteSize_append, hsize]
    have htemplates : "templates/".utf8ByteSize = 10 := by decide
    unfold Files.longestPath
    omega
  have hnul : ∀ ext : String, '\x00' ∉ ext.toList →
      Files.hasNul ⟨.here, ["templates", name ++ ext]⟩ = false := by
    intro ext hext
    have hname : '\x00' ∉ name.toList := fun h => absurd (hchars _ h) (by decide)
    simp [Files.hasNul, hext, hname]
  refine ⟨?_, ?_, fun y => ?_⟩
  · rw [Resolution.candidates_of_segments hrefused hsegments rfl rfl, if_pos (by decide),
      if_pos (by decide)]
    rfl
  · have hj2 := hlocate ".j2" (by decide) (by decide) (by decide)
    rw [if_neg (by rw [String.utf8ByteSize_append, hsize]; decide)] at hj2
    refine Files.isFile_iff.mpr ⟨(.text "Hello", 10), Files.file?_eq_some.mpr
      ⟨hnul _ (by decide), _, hj2, ?_⟩⟩
    simp [withTemplate, World.ofFiles, Files.node?, List.lookup_cons]
  · have hpyt := hlocate ".pyt" (by decide) (by decide) (by decide)
    rw [if_pos (by rw [String.utf8ByteSize_append, hsize]; decide)] at hpyt
    rw [Files.isFile, Files.asks, hnul _ (by decide), Files.stat, hpyt]
    intro h
    cases h

/-- The command line does not name every owner, because it goes on probing after it found
    one. -/
theorem not_named_long :
    ¬∀ (given : Bindings) (c : Config) (name : String) (ws : List String) (w : World) (k p),
      Config.ofFields given = .ok c → Command.Asked ws w name c →
      ((Resolution.resolve c.templateRoot (.text name) c.extensions).perform w).1 = .ok ⟨k, p⟩ →
      Command.Names (Command.run ws w).1 k := by
  intro h
  -- Only the length and the letters are known of the name, so that nothing spells it out.
  have hexists : ∃ name : String, name.toList = List.replicate 252 'a' ∧
      name.utf8ByteSize = 252 :=
    ⟨String.ofList (List.replicate 252 'a'), String.toList_ofList, by decide +kernel⟩
  rcases hexists with ⟨name, hlist, hsize⟩
  rcases withTemplate_long hlist hsize with ⟨hcs, hfile, hlong⟩
  have hplain : name ≠ "--" ∧ Command.holdsOptions name = false := by
    refine ⟨?_, by rw [Command.holdsOptions, hlist]; rfl⟩
    rintro rfl
    cases hlist
  have hasked : Command.Asked ["resolve", name] (withTemplate name) name .default :=
    Command.asked_of_plain hplain rfl
  have howner := Resolution.owner_compiled_iff.mpr ⟨_, hcs, hfile⟩
  -- The extension of scripts makes it one letter too long to be probed.
  have hprobe : ¬Command.Probeable (withTemplate name).files .default name := by
    rintro ⟨a, b, y, hab, hy⟩
    obtain ⟨rfl, rfl⟩ := Prod.mk.inj (Except.ok.inj (hcs.symm.trans hab))
    exact hlong y hy
  have hnames := h [] .default name _ (withTemplate name) _ _ rfl hasked
    ((Resolution.resolve_result _ _ _ _).trans howner)
  rw [Command.run_of_asked hasked] at hnames
  exact hprobe (Command.names_answer_iff.mp hnames).2.1

end Stencil
