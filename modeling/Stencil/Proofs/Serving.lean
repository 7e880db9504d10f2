import Stencil.Proofs.Assigning
import Stencil.Proofs.Delivery

/-!
# What a request to render is served

A run that is to render a template reads its words, wherever its options stand, checks the files
that they name, and puts its data together. Anything wrong with these ends it for misuse, and
more data than are read end it too, though an object may be in the file. By then it has looked at
no other files, and done nothing.

Otherwise the text is what a view gives for these data that was made for the configuration of
the profile with the directory that was asked for in it. All of the text is printed, or it is all
that the file holds that was asked for. A fault of the library, wherever it comes from, is told
on standard error, and no file is new then or has another content.

## Main definitions

* `Requests`: The words ask for a template to be rendered.
* `Fits`: The files that options name may be what they are.
* `EndsEarly`, `Refused`: A run that ends before it has done anything, and one that ends so for
  misuse.
* `viewText`: The text that a view gives.
* `Served`: How a run ends that has its data.
* `ServesData`: What data a run renders, and how it ends.

## Theorems

* `Requests.run_eq`: A run checks the files, reads the data, and renders.
* `serves_data`: What data a run renders, and how it ends.
* `not_every_object_served`: Not every object in a file is rendered.
-/

namespace Stencil

namespace Command

variable {files files' : Files} {ws : List String} {w w' : World} {gs : List (Given ProgramOption)}
  {name : String} {os : List (Given CommandOption)} {p : Parsed CommandOption}

/-! ## Reading the words -/

/-- The words ask for a template to be rendered, and not for help or for the version: how to run
    is said in front of the command, and all else behind it, in some arrangement. -/
structure Requests (ws : List String) (gs : List (Given ProgramOption)) (name : String)
    (os : List (Given CommandOption)) : Prop where
  words : ∃ behind, Arranged programForms false gs (Name.render.text :: behind) ws ∧
    Arranged Name.render.forms true os [name] behind
  runs : ∀ g ∈ gs, g.option.halt? = none
  renders : ∀ o ∈ os, o.option ≠ .help
  written : ∀ o ∈ os, '\x00' ∉ o.value.toList

/-- How a run is to go on that was given options. -/
def globalsOf (gs : List (Given ProgramOption)) : Globals :=
  let p : Parsed ProgramOption := ⟨gs, []⟩
  ⟨p.last? .profile, levelOf (p.all .verbose).length, p.has .jsonLogs⟩

/-- The request of a name and options. -/
def requestOf (name : String) (os : List (Given CommandOption)) : Request :=
  ⟨.render, name, ⟨os, [name]⟩⟩

theorem Requests.globals (h : Requests ws gs name os) : ∃ behind,
    Globals.ofWords ws = .ok (globalsOf gs, .render, behind) ∧
      parse Name.render.forms true behind = .ok ⟨os, [name]⟩ := by
  obtain ⟨behind, hfront, hbehind⟩ := h.words
  refine ⟨behind, ?_, parse_iff.mpr hbehind⟩
  have hne : ws.isEmpty = false := by
    cases ws with
    | nil => cases parse_iff.mpr hfront
    | cons => rfl
  have hhalt : gs.findSome? (fun g => g.option.halt?) = none :=
    List.findSome?_eq_none_iff.mpr h.runs
  have hread : readOptions ws = .ok ⟨gs, Name.render.text :: behind⟩ := by
    rw [readOptions, parse_iff.mpr hfront]
    dsimp only [ofUsage, bind, Except.bind]
    rw [hhalt]
    rfl
  rw [Globals.ofWords, hne, hread, if_neg Bool.false_ne_true]
  rfl

/-- Checks the files that the options of a request name, and puts its data together. -/
def prepare (w : World) (name : String) (os : List (Given CommandOption)) :
    Except Halt Bindings := do
  checkAll w.files ⟨os, [name]⟩ (os.map (·.option)).eraseDups
  (requestOf name os).data w

theorem Requests.ofWords (h : Requests ws gs name os) {behind : List String}
    (hparse : parse Name.render.forms true behind = .ok ⟨os, [name]⟩) :
    Request.ofWords files .render behind =
      checkAll files ⟨os, [name]⟩ (os.map (·.option)).eraseDups >>= fun _ =>
        .ok (requestOf name os) := by
  have hhelp : Parsed.has (⟨os, [name]⟩ : Parsed CommandOption) .help = false :=
    List.any_eq_false.mpr fun o ho => by simpa using h.renders o ho
  rw [Request.ofWords, hparse]
  show (if Parsed.has (⟨os, [name]⟩ : Parsed CommandOption) .help = true then _ else _) = _
  rw [hhelp, if_neg Bool.false_ne_true]
  rfl

/-- A run checks the files, reads the data, and renders. -/
theorem Requests.run_eq (h : Requests ws gs name os) (w : World) :
    run ws w = match prepare w name os with
      | .error e => (e.outcome, ((Act.startLogging (globalsOf gs).jsonLogs).perform w).2)
      | .ok data => carryOut (render (requestOf name os) (globalsOf gs) data)
        ((Act.startLogging (globalsOf gs).jsonLogs).perform w).2 := by
  obtain ⟨behind, hglobals, hparse⟩ := h.globals
  have hfiles : ((Act.startLogging (globalsOf gs).jsonLogs).perform w).2.files = w.files := rfl
  have hdata : (requestOf name os).data ((Act.startLogging (globalsOf gs).jsonLogs).perform w).2 =
      (requestOf name os).data w := rfl
  simp only [run, hglobals, runCommand, hfiles, h.ofWords hparse, prepare, ← hdata]
  cases checkAll w.files ⟨os, [name]⟩ (os.map (·.option)).eraseDups with
  | error e => rfl
  | ok _ => rfl

/-! ## Files that options name -/

/-- The files that options name may be what they are. -/
def Fits (files : Files) (p : Parsed CommandOption) : Prop :=
  ∀ o r text, o.rule? = some r → p.last? o = some text → r.check files text = .ok ()

theorem mem_of_last? {o : CommandOption} {text : String} (h : p.last? o = some text) :
    ⟨o, text⟩ ∈ p.given := by
  obtain ⟨g, hg, rfl⟩ := Option.map_eq_some_iff.mp h
  have hoption : g.option = o := by simpa using List.find?_some hg
  exact hoption ▸ List.mem_reverse.mp (List.mem_of_find?_eq_some hg)

theorem checkAll_ok_iff {os : List CommandOption} : checkAll files p os = .ok () ↔
    ∀ o ∈ os, ∀ r text, o.rule? = some r → p.last? o = some text → r.check files text = .ok () := by
  induction os with
  | nil => exact iff_of_true rfl fun _ ho => absurd ho List.not_mem_nil
  | cons o os ih =>
      rw [checkAll, List.forall_mem_cons, ← ih]
      cases hrule : o.rule? with
      | none => exact (and_iff_right (by simp)).symm
      | some r =>
          cases hlast : p.last? o with
          | none => exact (and_iff_right (by simp)).symm
          | some text =>
              show (r.check files text >>= fun _ => checkAll files p os) = .ok () ↔ _
              cases hcheck : r.check files text with
              | error e =>
                  refine iff_of_false (by rintro ⟨⟩) fun h => ?_
                  rw [h.1 r text rfl rfl] at hcheck
                  cases hcheck
              | ok _ =>
                  refine ⟨fun h => ⟨fun r' text' hr ht => ?_, h⟩, fun h => h.2⟩
                  cases hr
                  cases ht
                  exact hcheck

/-- The files are checked exactly if they fit. -/
theorem fits_iff : checkAll files p (p.given.map (·.option)).eraseDups = .ok () ↔ Fits files p := by
  rw [checkAll_ok_iff]
  refine ⟨fun h o r text hrule hlast => h o ?_ r text hrule hlast, fun h o _ => h o⟩
  exact List.mem_eraseDups.mpr (List.mem_map_of_mem (mem_of_last? hlast))

/-- Words cannot hold the character that no file system allows, and all else is misuse. -/
theorem FileRule.check_usage (r : FileRule) (files : Files) {text : String}
    (h : '\x00' ∉ text.toList) : HaltsOf (fun e => ∃ u, e = .usage u) (r.check files text) := by
  unfold FileRule.check
  simp only [List.contains_iff_mem, h, if_false]
  split <;> split <;> first | exact .ok | exact .error ⟨_, rfl⟩

theorem checkAll_usage (h : ∀ g ∈ p.given, '\x00' ∉ g.value.toList) (files : Files)
    (os : List CommandOption) :
    HaltsOf (fun e => ∃ u, e = .usage u) (checkAll files p os) := by
  induction os with
  | nil => exact .ok
  | cons o os ih =>
      rw [checkAll]
      split
      · rename_i hlast
        exact (FileRule.check_usage _ _ (h _ (mem_of_last? hlast))).bind fun _ => ih
      · exact ih

/-- All that is looked at while words and data are read is the same. -/
structure Alike (p : Parsed CommandOption) (w w' : World) : Prop where
  named : ∀ o r text, o.rule? = some r → p.last? o = some text →
    w'.files.statWritten text = w.files.statWritten text
  data : ∀ file, p.last? .dataFile = some file →
    w'.files.read (Path.ofString file) = w.files.read (Path.ofString file)
  limits : w'.host.json = w.host.json

theorem Alike.checkAll (h : Alike p w w') (os : List CommandOption) :
    checkAll w'.files p os = checkAll w.files p os := by
  induction os with
  | nil => rfl
  | cons o os ih =>
      rw [Command.checkAll, Command.checkAll, ih]
      split
      · rename_i hrule hlast
        rw [FileRule.check, FileRule.check, h.named _ _ _ hrule hlast]
      · rfl

theorem Alike.prepare (h : Alike ⟨os, [name]⟩ w w') :
    prepare w' name os = prepare w name os := by
  rw [Command.prepare, Command.prepare, h.checkAll, Request.data, Request.data]
  cases hfile : (requestOf name os).options.last? .dataFile with
  | none => rfl
  | some file =>
      simp only [fileData, h.data file hfile, h.limits]

/-! ## Runs that end early -/

/-- A run ends before anything is rendered. It has done nothing by then, and whatever it does not
    look at for its words and its data makes no difference to it. -/
structure EndsEarly (ws : List String) (gs : List (Given ProgramOption))
    (p : Parsed CommandOption) (w : World) : Prop where
  silent : (run ws w).1.printed = .text ""
  idle : (run ws w).2 = ((Act.startLogging (globalsOf gs).jsonLogs).perform w).2
  alike : ∀ w', Alike p w w' → (run ws w').1 = (run ws w).1

/-- A run ends for misuse. -/
structure Refused (ws : List String) (gs : List (Given ProgramOption))
    (p : Parsed CommandOption) (w : World) : Prop extends EndsEarly ws gs p w where
  status : (run ws w).1.status = 2

theorem Requests.endsEarly (h : Requests ws gs name os) {e : Halt}
    (he : prepare w name os = .error e) (hsilent : e.outcome.printed = .text "") :
    EndsEarly ws gs ⟨os, [name]⟩ w := by
  have hrun := h.run_eq w
  rw [he] at hrun
  refine ⟨by rw [hrun]; exact hsilent, by rw [hrun], fun w' halike => ?_⟩
  have hrun' := h.run_eq w'
  rw [halike.prepare, he] at hrun'
  rw [hrun, hrun']

theorem Requests.refused (h : Requests ws gs name os) {u : UsageFault}
    (hu : prepare w name os = .error (.usage u)) : Refused ws gs ⟨os, [name]⟩ w := by
  refine ⟨h.endsEarly hu rfl, ?_⟩
  rw [h.run_eq w, hu]
  rfl

theorem Outcome.ofFault_silent {f : Fault} (h : f.Unraised) :
    (Outcome.ofFault f).printed = .text "" := by
  unfold ofFault
  split
  · rfl
  · cases f with
    | raised kind args => exact h.elim
    | _ => rfl

/-- With too much in the file a run ends early as well. -/
theorem Requests.exceeds (h : Requests ws gs name os) (hfits : Fits w.files ⟨os, [name]⟩)
    {t : Json.Trouble} (ht : t ≠ .malformed)
    (htrouble : Troubled w ((requestOf name os).options.last? .dataFile) t) :
    EndsEarly ws gs ⟨os, [name]⟩ w ∧ (run ws w).1.status = 1 := by
  obtain ⟨f, hdata, hf⟩ := Request.data_troubled htrouble ht
  have hprepare : prepare w name os = .error (.fault f) := by
    rw [prepare, fits_iff.mpr hfits]
    exact hdata
  refine ⟨h.endsEarly hprepare (Outcome.ofFault_silent hf.unraised), ?_⟩
  rw [h.run_eq w, hprepare]
  exact Outcome.ofFault_status_unraised hf.unraised

/-! ## Texts -/

/-- The text that a view gives: it is made for the configuration of a profile with a directory
    in it, and rendered with data. -/
def viewText (profile root? : Option String) (name : String) (data : Bindings) : Act String := do
  let config ← Config.load profile [("template_root", (root?.map Value.text).getD .null)] none
  let v ← View.get (.text name) [] [] (some config) none
  let w ← get
  let ((text, _), w) := v.play (v.render data []) w
  set w
  Act.ofExcept text

theorem renderText_eq (r : Request) (g : Globals) (data : Bindings) :
    renderText r g data = viewText g.profile (r.options.last? .root) r.name data := rfl

/-- How a run ends that has its data, what a view gives for them, and the files that are there
    then: a fault of the library is told, others come through, and a text is printed, or else
    written to a file, which may be refused. -/
inductive Served (output? : Option String) (before : Files) :
    Except Fault String → Outcome → Files → Prop
  | told {f : Fault} (hown : f.isOwn = true) :
      Served output? before (.error f) { status := 1, message := some ("Error: " ++ f.message) }
        before
  | passed {f : Fault} (hown : f.isOwn = false) :
      Served output? before (.error f) (.ofFault f) before
  | printed {text : String} (hout : output? = none) :
      Served output? before (.ok text) { status := 0, printed := .text text } before
  | written {text file : String} {after : Files} {m : Nat} (hout : output? = some file)
      (hwrite : before.write (Path.ofString file) (.text text) m = .ok after)
      (hfile : after.file? (Path.ofString file) = some (.text text, m)) :
      Served output? before (.ok text)
        { status := 0, message := some ("Info: Output written to: " ++ (Path.ofString file).text) }
        after
  | unwritten {text file : String} {m : Nat} {f : Fault} (hout : output? = some file)
      (hwrite : before.write (Path.ofString file) (.text text) m = .error f) :
      Served output? before (.ok text)
        { status := 1,
          message := some ("Error: " ++ (Fault.unwritable (Path.ofString file).text f).message) }
        before

theorem Outcome.ofFault_own {f : Fault} (h : f.isOwn = true) :
    Outcome.ofFault f = { status := 1, message := some ("Error: " ++ f.message) } := by
  unfold ofFault
  rw [if_pos h]
  rfl

theorem unwritable_own (path : String) (f : Fault) : (Fault.unwritable path f).isOwn = true := by
  show Kind.isA "OutputError" "TemplateViewError" = true
  decide

theorem hasNul_ofString {file : String} (h : '\x00' ∉ file.toList) :
    Files.hasNul (Path.ofString file) = false := by
  refine List.any_eq_false.mpr fun s hs => ?_
  obtain ⟨cs, hcs, rfl⟩ := List.mem_map.mp hs
  rw [String.toList_ofList, List.contains_iff_mem]
  exact fun hmem => h (Path.mem_of_mem_splitOn (List.mem_filter.mp hcs).1 hmem)

/-- Only the file system refuses to write a file, if its path can be written at all. -/
theorem write_error {path : Path} {c : Content} {m : Nat} {f : Fault}
    (hnul : Files.hasNul path = false) (h : files.write path c m = .error f) :
    ∃ r, f = .system r path.text := by
  rw [Files.write, hnul, if_neg Bool.false_ne_true] at h
  simp only at h
  split at h
  · cases h
    exact ⟨_, rfl⟩
  · split at h
    · cases h
      exact ⟨_, rfl⟩
    · cases h
    · split at h <;> cases h <;> exact ⟨_, rfl⟩

/-- What data a run renders, and how it ends. -/
structure ServesData (ws : List String) (gs : List (Given ProgramOption)) (name : String)
    (os : List (Given CommandOption)) (w : World) : Prop where
  /-- Words without an equals sign are misuse, and so is a file that is no object. -/
  refused : Readable w ((requestOf name os).options.last? .dataFile) →
    (∃ item ∈ (requestOf name os).options.all .binding, '=' ∉ item.toList) ∨
      Baseless w ((requestOf name os).options.last? .dataFile) →
    Refused ws gs ⟨os, [name]⟩ w
  /-- Files that options name have to be what they may be. -/
  unfit : ¬Fits w.files ⟨os, [name]⟩ → Refused ws gs ⟨os, [name]⟩ w
  /-- With more in the file than the reader of data takes there is nothing to render. -/
  exceeding : ∀ t, Troubled w ((requestOf name os).options.last? .dataFile) t →
    t ≠ .malformed → t ≠ .half → Fits w.files ⟨os, [name]⟩ →
    EndsEarly ws gs ⟨os, [name]⟩ w ∧ (run ws w).1.status ≠ 0
  /-- With good words and a good file, the variables are laid over the data of the file, and the
      run ends with what a view gives for that. -/
  served : ∀ base, Based w ((requestOf name os).options.last? .dataFile) base →
    (∀ item ∈ (requestOf name os).options.all .binding, '=' ∈ item.toList) →
    Fits w.files ⟨os, [name]⟩ →
    ∃ data, Overlaid base ((requestOf name os).options.all .binding) data ∧ data.keys.Nodup ∧
      ∃ result w₁, (viewText (globalsOf gs).profile ((requestOf name os).options.last? .root) name
          data).perform (begun (globalsOf gs) (requestOf name os) data w) = (result, w₁) ∧
        w.files.Furnished w₁.files ∧
        Served ((requestOf name os).options.last? .output) w₁.files result (run ws w).1
          (run ws w).2.files

theorem Requests.asks (h : Requests ws gs name os) (hfits : Fits files ⟨os, [name]⟩) :
    Asks ws files (globalsOf gs) (requestOf name os) := by
  obtain ⟨behind, hglobals, hparse⟩ := h.globals
  refine ⟨behind, hglobals, ?_⟩
  rw [h.ofWords hparse, fits_iff.mpr hfits]
  rfl

theorem Served.of_fault {output? : Option String} {before : Files} (f : Fault) :
    Served output? before (.error f) (.ofFault f) before := by
  cases hown : f.isOwn with
  | true => exact Outcome.ofFault_own hown ▸ .told hown
  | false => exact .passed hown

theorem Delivers.served {output? : Option String} {before after : Files} {text : String}
    {outcome : Outcome} (h : Delivers output? before text outcome after)
    (hnul : ∀ file, output? = some file → Files.hasNul (Path.ofString file) = false) :
    Served output? before (.ok text) outcome after := by
  cases h with
  | printed hout => exact .printed hout
  | written hout hwrite => exact .written hout hwrite (Files.file?_write hwrite)
  | unwritten hout hwrite =>
      obtain ⟨r, rfl⟩ := write_error (hnul _ hout) hwrite
      rw [refusal, Outcome.ofFault_own (unwritable_own _ _)]
      exact .unwritten hout hwrite

/-- What data a run renders, and how it ends. -/
theorem serves_data (h : Requests ws gs name os) (w : World) : ServesData ws gs name os w where
  refused hread hbad := by
    obtain ⟨u, hu⟩ := Request.data_refused hread hbad
    -- The files are checked before the data is read, so another fault of usage may come first.
    cases hcheck : checkAll w.files ⟨os, [name]⟩ (os.map (·.option)).eraseDups with
    | ok _ => exact h.refused (u := u) (by rw [prepare, hcheck, hu]; rfl)
    | error e =>
        obtain ⟨u, rfl⟩ := checkAll_usage (p := ⟨os, [name]⟩) h.written w.files _ e hcheck
        exact h.refused (u := u) (by rw [prepare, hcheck]; rfl)
  unfit hno := by
    cases hcheck : checkAll w.files ⟨os, [name]⟩ (os.map (·.option)).eraseDups with
    | ok _ => exact absurd (fits_iff.mp hcheck) hno
    | error e =>
        obtain ⟨u, rfl⟩ := checkAll_usage (p := ⟨os, [name]⟩) h.written w.files _ e hcheck
        exact h.refused (u := u) (by rw [prepare, hcheck]; rfl)
  exceeding t htrouble ht _ hfits := by
    obtain ⟨hearly, hstatus⟩ := h.exceeds hfits ht htrouble
    exact ⟨hearly, by rw [hstatus]; decide⟩
  served base hbase hitems hfits := by
    obtain ⟨data, hdata, hover, hnodup⟩ := Request.data_overlaid hbase hitems
    refine ⟨data, hover, hnodup, ?_⟩
    have hasks := h.asks hfits
    have hleaves := renderText_leaves (requestOf name os) (globalsOf gs) data
      (begun (globalsOf gs) (requestOf name os) data w)
    rcases htext : (renderText (requestOf name os) (globalsOf gs) data).perform
      (begun (globalsOf gs) (requestOf name os) data w) with ⟨f | text, w₁⟩
    -- Whether there is a text or a fault, the view gave it, and nothing was taken away before.
    all_goals
      rw [Act.Leaves, htext] at hleaves
      have hview := htext
      rw [renderText_eq] at hview
      refine ⟨_, w₁, hview, hleaves, ?_⟩
    · obtain ⟨hrun, hfiles⟩ := run_of_fault hasks hdata htext
      rw [hrun, hfiles]
      exact .of_fault f
    · exact (run_of_text hasks hdata htext).served fun file hfile => hasNul_ofString <|
        h.written _ (mem_of_last? (p := ⟨os, [name]⟩) hfile)

deriving instance DecidableEq for Given, Parsed

/-- The words of a run with options on both sides of the name, one with blanks and a second equals
    sign in its word. -/
def servingWords : List String :=
  ["-v", "render", "--data-file=data.json", "--var", " who = a=b", "greet", "-oout"]

/-- A world with a template, an object, and the file that is written. -/
def servingWorld : World :=
  .ofFiles ⟨[(["templates"], .directory),
    (["templates", "greet.j2"], .file (.text "{{ who }}{{ n }}") 10),
    (["data.json"], .file (.text "\x7b\"who\": 1, \"n\": 2\x7d") 10),
    (["out"], .file (.text "old") 10)]⟩ 20 "" ⟨.here, ["config.toml"]⟩

/-- A variable comes before the entry of the object with its key, and the text is written. -/
theorem serves_data_greet : ∃ gs os,
    Requests servingWords gs "greet" os ∧ ServesData servingWords gs "greet" os servingWorld ∧
      (run servingWords servingWorld).1.status = 0 ∧
      (run servingWords servingWorld).2.files.read (Path.ofString "out") = .ok " a=b2".toList := by
  have hrequests : Requests servingWords [⟨.verbose, ""⟩] "greet"
      [⟨.dataFile, "data.json"⟩, ⟨.binding, " who = a=b"⟩, ⟨.output, "out"⟩] :=
    ⟨⟨["--data-file=data.json", "--var", " who = a=b", "greet", "-oout"], parse_iff.mp (by decide +kernel),
      parse_iff.mp (by decide +kernel)⟩, by decide, by decide, by decide⟩
  exact ⟨_, _, hrequests, serves_data hrequests servingWorld, by decide +kernel,
    by decide +kernel⟩

end Command

/-! ## Long numbers -/

namespace Json

open Text (numberOf)

/-- So many ones at the end of an object. -/
def onesIn (n : Nat) : List Char := List.replicate (n + 1) '1' ++ ['\x7d']

/-- An object with a number in it that is written with ones. -/
def onesText (n : Nat) : List Char := "\x7b\"n\": ".toList ++ onesIn n

theorem not_mem_onesText (n : Nat) : '\r' ∉ onesText n := by
  simp [onesText, onesIn]

/-- What the digits of a number come to: itself, or there are too many. -/
def ofDigits (l : Limits) (ds : List Char) : Except Trouble Value :=
  match l.digits.filter (· < ds.length) with
  | some most => .error (.digits most ds.length)
  | none => .ok (.int (numberOf 10 ds))

theorem ofDigits_unlimited {l : Limits} (h : l.digits = none) (ds : List Char) :
    ofDigits l ds = .ok (.int (numberOf 10 ds)) := by
  rw [ofDigits, h]
  rfl

theorem ofDigits_exceeding {l : Limits} {most : Nat} (h : l.digits = some most) {ds : List Char}
    (hlong : most < ds.length) : ofDigits l ds = .error (.digits most ds.length) := by
  rw [ofDigits, h, Option.filter_some, if_pos (decide_eq_true hlong)]

/-- The ones at the end of an object are the digits of a number. -/
theorem number_ones (l : Limits) (n : Nat) :
    number l (onesIn n) =
      (ofDigits l (List.replicate (n + 1) '1')).map fun v => (v, ['\x7d']) := by
  have hones : (onesIn n).takeWhile Char.isDigit = List.replicate (n + 1) '1' := by
    rw [onesIn, List.takeWhile_append_of_pos fun c hc => by rw [List.eq_of_mem_replicate hc]; rfl]
    exact List.append_nil _
  have hrest : (onesIn n).drop (List.replicate (n + 1) '1').length = ['\x7d'] := by
    rw [onesIn, List.drop_left]
  have hzero : (List.replicate (n + 1) '1').head? ≠ some '0' := by simp [List.replicate_succ]
  have hsome : (List.replicate (n + 1) '1').isEmpty = false := rfl
  have hfraction : takeFraction ['\x7d'] = (none, ['\x7d']) := rfl
  have hexponent : takeExponent ['\x7d'] = (none, ['\x7d']) := rfl
  unfold number
  split
  rename_i negative s hsign
  obtain ⟨rfl, rfl⟩ : negative = false ∧ s = onesIn n := by
    cases hsign
    exact ⟨rfl, rfl⟩
  simp only [hones, if_neg hzero, hrest, hfraction, hexponent, hsome, Bool.false_eq_true,
    if_false]
  unfold ofDigits
  cases l.digits.filter (· < (List.replicate (n + 1) '1').length) <;> rfl

/-- An object with a number in it is read if its digits are not too many. -/
theorem read_ones (l : Limits) (hdepth : l.tooDeep 0 = false) (n : Nat) :
    read l (onesText n) = (ofDigits l (List.replicate (n + 1) '1')).map fun v =>
      Bindings.toValue [("n", v)] := by
  have hlen : (onesText n).length + 1 = n + 6 + 3 := by simp [onesText, onesIn]
  have hskip : skip (onesText n) =
      '\x7b' :: '"' :: 'n' :: '"' :: ':' :: ' ' :: onesIn n := rfl
  have hnumber : value l (n + 6 + 1) 1 (onesIn n) = number l (onesIn n) := by
    have hword : word? (onesIn n) = none := by
      rw [onesIn, List.replicate_succ]
      simp [word?, words]
    rw [onesIn, List.replicate_succ, List.cons_append] at hword ⊢
    rw [value]
    · rw [hword]
    all_goals simp
  have hentries : entries l (n + 6 + 2) 1 [] ('"' :: 'n' :: '"' :: ':' :: ' ' :: onesIn n) =
      (ofDigits l (List.replicate (n + 1) '1')).map fun v => ([("n", v)], []) := by
    rw [entries]
    change (value l (n + 6 + 1) 1 (onesIn n) >>= _) = _
    rw [hnumber, number_ones]
    cases ofDigits l (List.replicate (n + 1) '1') <;> rfl
  have hvalue : value l (n + 6 + 3) 0 ('\x7b' :: '"' :: 'n' :: '"' :: ':' :: ' ' :: onesIn n) =
      (entries l (n + 6 + 2) 1 [] ('"' :: 'n' :: '"' :: ':' :: ' ' :: onesIn n) >>= fun p =>
        .ok (Bindings.toValue p.1, p.2)) := by
    rw [value, hdepth]
    rfl
  rw [read, hlen, hskip, hvalue, hentries]
  cases ofDigits l (List.replicate (n + 1) '1') <;> rfl

theorem parse?_ones (n : Nat) : parse? (onesText n) =
    some (Bindings.toValue [("n", .int (numberOf 10 (List.replicate (n + 1) '1')))]) := by
  rw [parse?, read_ones _ rfl, ofDigits_unlimited rfl]
  rfl

end Json

namespace Command

/-- The words of a run that renders a template with the data in a file. -/
def countingWords : List String := ["render", "greet", "--data-file", "data.json"]

/-- A world with a template, and with an object in the file whose number has one digit more than
    is read. -/
def countingWorld : World :=
  .ofFiles ⟨[(["templates"], .directory), (["templates", "greet.j2"], .file (.text "hi") 10),
    (["data.json"], .file (.text (String.ofList (Json.onesText 4300))) 10)]⟩ 20 ""
    ⟨.here, ["config.toml"]⟩

/-- The data in the file. -/
def countingData : Bindings :=
  [("n", .int (Text.numberOf 10 (List.replicate (4300 + 1) '1')))]

theorem read_counting : countingWorld.files.read (Path.ofString "data.json") =
    .ok (Json.onesText 4300) := by
  have hchars : countingWorld.files.read (Path.ofString "data.json") =
      .ok (Text.unifyNewlines (String.ofList (Json.onesText 4300)).toList) := rfl
  rw [hchars, String.toList_ofList, Text.unifyNewlines_of_not_mem (Json.not_mem_onesText 4300)]

/-- The number has one digit too many. -/
theorem troubled_counting : Troubled countingWorld (some "data.json") (.digits 4300 4301) := by
  have hlong : (List.replicate (4300 + 1) '1').length = 4301 := List.length_replicate
  refine ⟨"data.json", _, rfl, read_counting, ?_⟩
  rw [Json.read_ones _ rfl, Json.ofDigits_exceeding rfl (by rw [hlong]; decide), hlong]
  rfl

/-- Not every object in a file is rendered: a run may end with a fault although a view gives a text
    for the object. -/
theorem not_every_object_served : ¬∀ (ws : List String) (gs : List (Given ProgramOption))
    (name : String) (os : List (Given CommandOption)) (w w₁ : World) (file : String)
    (cs : List Char) (base : Bindings) (text : String), Requests ws gs name os →
    (requestOf name os).options.last? .dataFile = some file →
    (requestOf name os).options.last? .output = none →
    (requestOf name os).options.all .binding = [] → Fits w.files ⟨os, [name]⟩ →
    w.files.read (Path.ofString file) = .ok cs → Json.parse? cs = some base.toValue →
    (viewText (globalsOf gs).profile ((requestOf name os).options.last? .root) name base).perform
      (begun (globalsOf gs) (requestOf name os) base w) = (.ok text, w₁) →
    (run ws w).1 = .ofText text := by
  intro h
  have hrequests : Requests countingWords [] "greet" [⟨.dataFile, "data.json"⟩] :=
    ⟨⟨["greet", "--data-file", "data.json"], parse_iff.mp (by decide +kernel),
      parse_iff.mp (by decide +kernel)⟩, by decide, by decide, by decide⟩
  have hfits : Fits countingWorld.files ⟨[⟨.dataFile, "data.json"⟩], ["greet"]⟩ :=
    fits_iff.mp rfl
  have hparse : Json.parse? (Json.onesText 4300) = some countingData.toValue :=
    Json.parse?_ones 4300
  have htext : ((viewText none none "greet" countingData).perform
      (begun (globalsOf []) (requestOf "greet" [⟨.dataFile, "data.json"⟩]) countingData
        countingWorld)).1.toOption = some "hi" := by decide +kernel
  rcases hview : (viewText none none "greet" countingData).perform
      (begun (globalsOf []) (requestOf "greet" [⟨.dataFile, "data.json"⟩]) countingData
        countingWorld) with ⟨f | text, w₁⟩
  · rw [hview] at htext
    cases htext
  · have hrun := h _ _ _ _ _ _ _ _ _ _ hrequests rfl rfl rfl hfits read_counting hparse
      hview
    have hnamed : Json.Trouble.digits 4300 4301 ≠ .malformed := nofun
    have hstatus := (hrequests.exceeds hfits hnamed troubled_counting).2
    rw [hrun] at hstatus
    cases hstatus

end Command

end Stencil
