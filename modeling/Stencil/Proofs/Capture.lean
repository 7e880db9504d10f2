import Stencil.Proofs.Course

/-!
# The text that a script writes

The output of a script is a text that only grows: every statement that writes adds to its end,
whatever becomes of the block around it. If the script ends normally, that text is what its
render gives, and it is the texts of the statements that have written, in the order in which
they did. If a fault leaves the script, the render raises that very fault and the text is
lost, but what was done to the scene by then stays done.

## Main definitions

* `writings`: What is written at moments, in order.
* `deedsIn`: What is done at moments, in order.
* `Captured`: What becomes of what a script writes and does.

## Theorems

* `output_step`: An event adds its text to the output.
* `Leads.output`: A run adds the texts of all that it writes.
* `Leads.scene`: A run leaves the scene with all its deeds done.
* `captured`: The text of a render is exactly what its script has written.
-/

namespace Stencil

namespace Script

/-- What is written at a moment. -/
def Moment.writing? (m : Moment) : Option Writing :=
  match m.event with
  | .wrote w => some w
  | _ => none

/-- What is written at moments, in order. -/
def writings (ms : List Moment) : List Writing := ms.filterMap Moment.writing?

/-- What is done at a moment. -/
def Moment.deed? (m : Moment) : Option Deed :=
  match m.event with
  | .did d => some d
  | _ => none

/-- What is done at moments, in order. -/
def deedsIn (ms : List Moment) : List Deed := ms.filterMap Moment.deed?

variable {call : Caller} {ms : List Moment} {t t' : State}

/-- An event adds its text to the output. -/
theorem output_step (call : Caller) (m : Moment) :
    (m.event.after call m.state).output =
      m.state.output ++ String.join ((writings [m]).map Writing.text) := by
  obtain ⟨t, e⟩ := m
  cases e with
  | wrote w => simp [Event.after, writings, Moment.writing?]
  | looked | asked | did | assigned => exact String.append_empty.symm

/-- A run adds the texts of all that it writes, in order. -/
theorem Leads.output (h : Leads call ms t t') :
    t'.output = t.output ++ String.join ((writings ms).map Writing.text) := by
  induction ms generalizing t with
  | nil =>
      obtain rfl : t = t' := h
      exact String.append_empty.symm
  | cons m ms ih =>
      obtain ⟨rfl, hms⟩ := h
      have happend : writings (m :: ms) = writings [m] ++ writings ms :=
        List.filterMap_append (l := [m])
      rw [ih hms, output_step, happend, List.map_append, String.join_append, String.append_assoc]

/-- An event leaves the scene with its deed done. -/
theorem scene_step (call : Caller) (m : Moment) :
    (m.event.after call m.state).scene = doneAll call (deedsIn [m]) m.state.scene := by
  obtain ⟨t, e⟩ := m
  cases e <;> rfl

/-- A run leaves the scene with all its deeds done, in order. -/
theorem Leads.scene (h : Leads call ms t t') :
    t'.scene = doneAll call (deedsIn ms) t.scene := by
  induction ms generalizing t with
  | nil =>
      obtain rfl : t = t' := h
      rfl
  | cons m ms ih =>
      obtain ⟨rfl, hms⟩ := h
      have happend : deedsIn (m :: ms) = deedsIn [m] ++ deedsIn ms :=
        List.filterMap_append (l := [m])
      rw [ih hms, scene_step, happend, doneAll_append]

end Script

/-- What becomes of what a script writes and does, in a render that comes to the script. -/
structure Captured (v : View) (data : Bindings) (helpers : List (String × Helper)) (s : Scene)
    (b : Staged) : Prop where
  /-- What is written by some point of the run is in front of what is by every later one. -/
  grows : (b.points (callHelper nestedRender v.owner)).Pairwise
    fun t t' => t.output.toList <+: t'.output.toList
  /-- A script that ends normally gives the texts of all that it has written, in order. -/
  text : (b.ending (callHelper nestedRender v.owner)).1 = .ok () →
    ((v.render data helpers).perform s).1 = .ok (String.join
      ((Script.writings (b.course (callHelper nestedRender v.owner))).map Script.Writing.text))
  /-- A fault that leaves it is the fault of the render. -/
  fault : ∀ f, (b.ending (callHelper nestedRender v.owner)).1 = .error f →
    ((v.render data helpers).perform s).1 = .error f
  /-- Either way the scene is left with everything done that was done in the run. -/
  stays : ∃ w, ((v.render data helpers).perform s).2 =
    { Script.doneAll (callHelper nestedRender v.owner)
        (Script.deedsIn (b.course (callHelper nestedRender v.owner))) b.scene with world := w }

variable {v : View} {data : Bindings} {helpers : List (String × Helper)} {s : Scene} {b : Staged}

/-- The text of a render is exactly what its script has written, if that ends normally. -/
theorem captured (h : v.staged? data helpers s = some b) : Captured v data helpers s b := by
  have hleads := b.course_leads (callHelper nestedRender v.owner)
  rcases b.play_ending (callHelper nestedRender v.owner) with ⟨w, -, hplay⟩
  have hrender := (View.render_staged h).trans hplay
  refine ⟨?_, fun hok => ?_, fun f hfault => ?_, w, ?_⟩
  · -- It is enough that one event adds to the end.
    refine hleads.pairwise (fun t => List.prefix_rfl) (fun h h' => h.trans h') fun e t => ?_
    rw [Script.output_step _ ⟨t, e⟩, String.toList_append]
    exact List.prefix_append _ _
  · -- The script starts with nothing written, and so its output is what it adds.
    rw [hrender, hok, hleads.output]
    simp [Except.map, Staged.start]
  · rw [hrender, hfault]
    rfl
  · rw [hrender, hleads.scene]
    rfl

/-- A script that writes, fails, and goes on writing in a handler and behind it. -/
def carryingBody : Script.Program :=
  [.handle [.write [.lit (.text "a")], .raise "ValueError" [.lit (.text "b")],
      .write [.lit (.text "lost")]] "ValueError"
    [.print [.var Script.errorVariable, .lit (.int 1)] (.lit .null) (.lit .null)],
   .write [.lit (.text "c")]]

/-- A view of that script. -/
def carryingView : View := ⟨.text "carry", .default, 0, [], []⟩

/-- A scene with the script in it. -/
def carryingScene : Scene :=
  ⟨[], [], .ofFiles ⟨[(["templates"], .directory),
    (["templates", "carry.pyt"], .file (.script carryingBody) 10)]⟩ 0 "" ⟨.here, []⟩⟩

/-- What was written before the fault is there, with all that was written after it. -/
theorem captured_carrying :
    ∃ b, carryingView.staged? [] [] carryingScene = some b ∧
      Captured carryingView [] [] carryingScene b ∧
      ((carryingView.render [] []).perform carryingScene).1 = .ok "ab 1\nc" := by
  have hstaged : (carryingView.staged? [] [] carryingScene).isSome = true := by decide +kernel
  rcases Option.isSome_iff_exists.mp hstaged with ⟨b, hb⟩
  exact ⟨b, hb, captured hb, by decide +kernel⟩

end Stencil
