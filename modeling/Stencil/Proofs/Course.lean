import Stencil.Proofs.Isolation

/-!
# The course of a script

What happens while a script runs, and when, is read off the script: it looks for helpers on
the call proxy, asks its data questions, does deeds, writes text and assigns variables. Each
of these is a moment of the run, and with it stands the state that the run has reached by
then.

Between two moments nothing happens. So each moment takes place in the state that the one
before has led to, and the last one leads to the state in which the script ends, whether or
not it fails. What is to be said of every point of a run can be said of its moments, and what
one of them preserves all of them preserve.

## Main definitions

* `Event`, `Moment`: What happens in a run, and the state in which it does.
* `Event.after`: The state that an event leads to.
* `expressionCourse`, `statementCourse`: The moments of expressions and statements, in order.
* `Leads`: Moments that follow one another from one state to another.
* `Staged.course`: The moments of a script that a render has come to.

## Theorems

* `Leads.pairwise`: What every event relates, any two points of a run are related by.
* `Traces.bind`, `Traces.tryCatch`: The moments of actions that are put together.
* `evaluate_traces`, `execute_traces`: Scripts have the moments that are read off them.
* `Staged.course_leads`: They lead from the start of a script to its end.
* `View.render_staged`: A render that comes to a script ends as the script does.
-/

namespace Stencil

namespace Script

/-- A question that a script asks its data. -/
inductive Question where
  | get (key : Value)
  | getOr (key default : Value)
  | item (key : Value)
  | has (key : Value)
  | keys

namespace Question

/-- The expression that asks it. -/
def expr : Question → Expr
  | get k => .get (.lit k)
  | getOr k d => .getOr (.lit k) (.lit d)
  | item k => .item (.lit k)
  | has k => .has (.lit k)
  | keys => .keys

/-- The value of a key in a mapping, if it can be a key. -/
def entry (data : Bindings) (k : Value) : Except Fault (Option Value) :=
  match Value.keyFault? k with
  | some f => .error f
  | none => .ok (k.text?.bind data.get?)

/-- What a mapping answers. -/
def answer (data : Bindings) : Question → Except Fault Value
  | get k => do return (← entry data k).getD .null
  | getOr k d => do return (← entry data k).getD d
  | item k => do
    match ← entry data k with
    | some v => return v
    | none => throw (.missingKey k)
  | has k => do return .bool (← entry data k).isSome
  | keys => return .list (data.keys.map Value.text)

end Question

/-- What a script writes with one statement. -/
inductive Writing where
  | write (values : List Value)
  | print (values : List Value) (sep ending : String)

/-- The texts of values, up to the first that has none. -/
def leadingTexts : List Value → List String
  | [] => []
  | v :: vs =>
    match v.str with
    | .ok text => text :: leadingTexts vs
    | .error _ => []

/-- The text that it is. If some value has no text, then what comes before that value. -/
def Writing.text : Writing → String
  | .write vs => String.join (leadingTexts vs)
  | .print vs sep ending =>
    if (leadingTexts vs).length = vs.length then sep.intercalate (leadingTexts vs) ++ ending
    else String.join ((leadingTexts vs).map (· ++ sep))

/-- Something that happens while a script runs. -/
inductive Event where
  /-- The proxy is asked for a helper, to call it with certain keywords. -/
  | looked (name : String) (keywords : List String)
  | asked (q : Question)
  | did (d : Deed)
  | wrote (w : Writing)
  | assigned (name : String) (v : Value)

/-- The state that an event leads to, given how helpers are called. -/
def Event.after (call : Caller) : Event → State → State
  | .looked _ _, t | .asked _, t => t
  | .did d, t => { t with scene := d.done call t.scene }
  | .wrote w, t => { t with output := t.output ++ w.text }
  | .assigned n v, t => { t with vars := t.vars.set n v }

/-- An event, and the state in which it happens. -/
structure Moment where
  state : State
  event : Event

/-- What happens from a state on. -/
abbrev Course := State → List Moment

namespace Course

/-- Nothing. -/
def still : Course := fun _ => []

/-- One thing. -/
def once (e : Event) : Course := fun t => [⟨t, e⟩]

/-- What happens in an action, and then with its value. -/
def andThen {α : Type} (c : Course) (a : Run α) (next : α → Course) : Course := fun t =>
  c t ++
    match a.perform t with
    | (.ok x, t') => next x t'
    | (.error _, _) => []

/-- What happens in an action, and then about its fault. -/
def orElse {α : Type} (c : Course) (a : Run α) (handler : Fault → Course) : Course := fun t =>
  c t ++
    match a.perform t with
    | (.ok _, _) => []
    | (.error f, t') => handler f t'

/-- What happens with the result of a computation. -/
def given {α : Type} (x : Except Fault α) (next : α → Course) : Course :=
  match x with
  | .ok x => next x
  | .error _ => still

/-- What happens with a helper that is looked for on the proxy first. -/
def looking (route : Route) (name : String) (keywords : List String) (c : Course) : Course :=
  match route with
  | .invoke => c
  | _ => fun t =>
    ⟨t, .looked name keywords⟩ :: if Registry.proxyHas t.scene.helpers name then c t else []

end Course

open Course

mutual

/-- What happens in an expression. -/
def expressionCourse (s : Setting) : Expr → Course
  | .get k => (expressionCourse s k).andThen (evaluate s k) fun v => once (.asked (.get v))
  | .getOr k d =>
    (expressionCourse s k).andThen (evaluate s k) fun v =>
      (expressionCourse s d).andThen (evaluate s d) fun w => once (.asked (.getOr v w))
  | .item k => (expressionCourse s k).andThen (evaluate s k) fun v => once (.asked (.item v))
  | .has k => (expressionCourse s k).andThen (evaluate s k) fun v => once (.asked (.has v))
  | .keys => once (.asked .keys)
  | .str k | .len k => expressionCourse s k
  | .operate _ l r =>
    (expressionCourse s l).andThen (evaluate s l) fun _ => expressionCourse s r
  | .and l r =>
    (expressionCourse s l).andThen (evaluate s l) fun v =>
      given v.truth fun b => if b then expressionCourse s r else still
  | .or l r =>
    (expressionCourse s l).andThen (evaluate s l) fun v =>
      given v.truth fun b => if b then still else expressionCourse s r
  | .call route name args keywords values =>
    looking route name keywords <|
      (expressionsCourse s args).andThen (evaluateAll s args) fun vs =>
        (expressionsCourse s values).andThen (evaluateAll s values) fun ws =>
          once (.did (.call route name vs (keywords.zip ws)))
  | .lit _ | .var _ | .hasHelper _ | .helperNames | .helperCount | .path | .moduleName => still

/-- What happens in expressions, from left to right. -/
def expressionsCourse (s : Setting) : List Expr → Course
  | [] => still
  | e :: es => (expressionCourse s e).andThen (evaluate s e) fun _ => expressionsCourse s es

end

/-- What happens in the rounds of a loop, given its body and what happens in that. -/
def roundsCourse (name : String) (body : Run Unit) (c : Course) : List Value → Course
  | [] => still
  | x :: xs =>
    ((once (.assigned name x)).andThen (assign name x) fun _ => c).andThen
      (do assign name x; body) fun _ => roundsCourse name body c xs

mutual

/-- What happens in a statement. -/
def statementCourse (s : Setting) : Stmt → Course
  | .write es =>
    (expressionsCourse s es).andThen (evaluateAll s es) fun vs => once (.wrote (.write vs))
  | .print es sep ending =>
    (expressionsCourse s es).andThen (evaluateAll s es) fun vs =>
      (expressionCourse s sep).andThen (evaluate s sep) fun v =>
        (expressionCourse s ending).andThen (evaluate s ending) fun w =>
          given (separator "sep" " " v) fun sep =>
            given (separator "end" "\n" w) fun ending => once (.wrote (.print vs sep ending))
  | .eval e => expressionCourse s e
  | .assign name e =>
    (expressionCourse s e).andThen (evaluate s e) fun v => once (.assigned name v)
  | .branch test body orelse =>
    (expressionCourse s test).andThen (evaluate s test) fun v =>
      given v.truth fun b => if b then bodyCourse s body else bodyCourse s orelse
  | .loop name iter body =>
    (expressionCourse s iter).andThen (evaluate s iter) fun v =>
      given v.items (roundsCourse name (executeAll s body) (bodyCourse s body))
  | .handle body kind handler =>
    (bodyCourse s body).orElse (executeAll s body) fun f =>
      if f.isA kind then
        (once (.assigned errorVariable (.text f.message))).andThen
          (assign errorVariable (.text f.message)) fun _ => bodyCourse s handler
      else still
  | .raise _ es => expressionsCourse s es
  | .addConstant name e =>
    (expressionCourse s e).andThen (evaluate s e) fun v => once (.did (.add name v))
  | .removeHelper name => once (.did (.remove name))

/-- What happens in statements, one after the other. -/
def bodyCourse (s : Setting) : List Stmt → Course
  | [] => still
  | st :: rest => (statementCourse s st).andThen (execute s st) fun _ => bodyCourse s rest

end

/-- Moments that follow one another from one state to another. -/
def Leads (call : Caller) : List Moment → State → State → Prop
  | [], t, t' => t = t'
  | m :: ms, t, t' => m.state = t ∧ Leads call ms (m.event.after call t) t'

variable {call : Caller} {ms ms' : List Moment} {t t' : State} {α β : Type}

theorem leads_append :
    Leads call (ms ++ ms') t t' ↔ ∃ u, Leads call ms t u ∧ Leads call ms' u t' := by
  induction ms generalizing t with
  | nil => exact ⟨fun h => ⟨t, rfl, h⟩, fun ⟨u, hu, h⟩ => hu ▸ h⟩
  | cons m ms ih =>
      rw [List.cons_append, Leads, ih]
      exact ⟨fun ⟨hm, u, h, h'⟩ => ⟨u, ⟨hm, h⟩, h'⟩, fun ⟨u, ⟨hm, h⟩, h'⟩ => ⟨hm, u, h, h'⟩⟩

/-- The moments before a moment lead to its state. -/
theorem Leads.upTo {past future : List Moment} {m : Moment}
    (h : Leads call (past ++ m :: future) t t') : Leads call past t m.state := by
  rcases leads_append.mp h with ⟨u, hpast, rfl, -⟩
  exact hpast

/-- What every event relates, the start and every later point are related by. -/
theorem Leads.related {R : State → State → Prop} (hrefl : ∀ t, R t t)
    (htrans : ∀ {t u w}, R t u → R u w → R t w) (hstep : ∀ e t, R t (Event.after call e t))
    (h : Leads call ms t t') : ∀ u ∈ ms.map (·.state) ++ [t'], R t u := by
  induction ms generalizing t with
  | nil => exact fun u hu => List.mem_singleton.mp hu ▸ h ▸ hrefl t
  | cons m ms ih =>
      obtain ⟨rfl, hms⟩ := h
      intro u hu
      rcases List.mem_cons.mp hu with rfl | hu
      · exact hrefl _
      · exact htrans (hstep m.event m.state) (ih hms u hu)

/-- So are any two points. -/
theorem Leads.pairwise {R : State → State → Prop} (hrefl : ∀ t, R t t)
    (htrans : ∀ {t u w}, R t u → R u w → R t w) (hstep : ∀ e t, R t (Event.after call e t))
    (h : Leads call ms t t') : (ms.map (·.state) ++ [t']).Pairwise R := by
  induction ms generalizing t with
  | nil => exact List.pairwise_singleton R t'
  | cons m ms ih =>
      obtain ⟨rfl, hms⟩ := h
      refine List.pairwise_cons.mpr ⟨fun u hu => ?_, ih hms⟩
      -- From the first state to any later one the way goes through what its event leads to.
      exact htrans (hstep m.event m.state) (hms.related hrefl htrans hstep u hu)

namespace Course

variable {c : Course} {a : Run α}

theorem andThen_ok {x : α} (h : a.perform t = (.ok x, t')) (next : α → Course) :
    c.andThen a next t = c t ++ next x t' := by
  rw [andThen, h]

theorem andThen_error {f : Fault} (h : a.perform t = (.error f, t')) (next : α → Course) :
    c.andThen a next t = c t := by
  rw [andThen, h, List.append_nil]

theorem andThen_still (c : Course) (a : Run α) : c.andThen a (fun _ => still) = c := by
  funext t
  rcases h : a.perform t with ⟨f | x, t'⟩
  · rw [andThen_error h]
  · rw [andThen_ok h, still, List.append_nil]

theorem orElse_ok {x : α} (h : a.perform t = (.ok x, t')) (handler : Fault → Course) :
    c.orElse a handler t = c t := by
  rw [orElse, h, List.append_nil]

theorem orElse_error {f : Fault} (h : a.perform t = (.error f, t')) (handler : Fault → Course) :
    c.orElse a handler t = c t ++ handler f t' := by
  rw [orElse, h]

end Course

/-- From every state the moments of a course lead to the state that an action leaves. -/
def Traces (call : Caller) (a : Run α) (c : Course) : Prop :=
  ∀ t, Leads call (c t) t (a.perform t).2

namespace Traces

/-- In an action that leaves its state alone nothing happens. -/
theorem still {a : Run α} (h : ∀ t, (a.perform t).2 = t) : Traces call a still :=
  fun t => (h t).symm

theorem pure (x : α) : Traces call (Pure.pure x) Course.still := still fun _ => rfl

theorem throw (f : Fault) : Traces call (MonadExcept.throw f : Run α) Course.still :=
  still fun _ => rfl

theorem ofExcept (x : Except Fault α) : Traces call (Run.ofExcept x) Course.still :=
  still fun t => congrArg Prod.snd (Run.perform_ofExcept x t)

/-- One thing happens in an action that leads to where the event leads. -/
theorem once {a : Run α} {e : Event} (h : ∀ t, (a.perform t).2 = e.after call t) :
    Traces call a (once e) :=
  fun t => ⟨rfl, (h t).symm⟩

theorem assign (name : String) (v : Value) :
    Traces call (Script.assign name v) (Course.once (.assigned name v)) := once fun _ => rfl

theorem deed (d : Deed) : Traces call (Run.ofPlay (d.play call)) (Course.once (.did d)) :=
  once fun _ => rfl

/-- A change of the helpers has no value, but is a deed for all that. -/
theorem change {p : Play Unit} (d : Deed) (hd : d.play call = do p; return .null) :
    Traces call (Run.ofPlay p) (Course.once (.did d)) := by
  refine once fun t => ?_
  rw [Event.after, Deed.done, hd, Stateful.perform_bind, Run.perform_ofPlay]
  rcases p.perform t.scene with ⟨f | -, s⟩ <;> rfl

theorem bind {a : Run α} {f : α → Run β} {c : Course} {next : α → Course}
    (ha : Traces call a c) (hf : ∀ x, Traces call (f x) (next x)) :
    Traces call (a >>= f) (c.andThen a next) := by
  intro t
  have hfirst := ha t
  -- The second action starts where the first one ends, and after a fault it does not start.
  cases h : a.perform t with
  | mk r t' =>
      rw [h] at hfirst
      cases r with
      | error e =>
          rw [andThen_error h, Stateful.perform_bind_error h]
          exact hfirst
      | ok x =>
          rw [andThen_ok h, Stateful.perform_bind_ok h]
          exact leads_append.mpr ⟨t', hfirst, hf x t'⟩

theorem tryCatch {a : Run α} {f : Fault → Run α} {c : Course} {handler : Fault → Course}
    (ha : Traces call a c) (hf : ∀ x, Traces call (f x) (handler x)) :
    Traces call (MonadExcept.tryCatch a f) (c.orElse a handler) := by
  intro t
  have hfirst := ha t
  rw [Stateful.perform_tryCatch]
  cases h : a.perform t with
  | mk r t' =>
      rw [h] at hfirst
      cases r with
      | ok x =>
          rw [orElse_ok h]
          exact hfirst
      | error e =>
          rw [orElse_error h]
          exact leads_append.mpr ⟨t', hfirst, hf e t'⟩

/-- If nothing happens afterwards, nothing more has happened. -/
theorem then_still {a : Run α} {f : α → Run β} {c : Course} (ha : Traces call a c)
    (hf : ∀ x, Traces call (f x) Course.still) : Traces call (a >>= f) c := by
  have h := ha.bind hf
  rwa [andThen_still] at h

/-- What follows on a result of a computation happens only if there is one. -/
theorem given {x : Except Fault α} {f : α → Run β} {next : α → Course}
    (hf : ∀ y, Traces call (f y) (next y)) :
    Traces call (Run.ofExcept x >>= f) (given x next) := by
  cases x with
  | error f => exact throw f
  | ok y => exact hf y

end Traces

/-- Asking the data leaves the state alone. -/
theorem asking_traces (q : Question) {x : Except Fault Value} :
    Traces call (Run.ofExcept x) (once (.asked q)) :=
  .once fun t => congrArg Prod.snd (Run.perform_ofExcept x t)

section

variable (s : Setting)

theorem dataEntry_eq (k : Value) : dataEntry s k = Question.entry s.data k := rfl

theorem evaluate_get (k : Expr) : evaluate s (.get k) =
    evaluate s k >>= fun v => Run.ofExcept ((Question.get v).answer s.data) := by
  simp only [evaluate]
  refine bind_congr fun v => ?_
  rw [Question.answer, ← dataEntry_eq]
  cases dataEntry s v <;> rfl

theorem evaluate_getOr (k d : Expr) : evaluate s (.getOr k d) =
    evaluate s k >>= fun v => evaluate s d >>= fun w =>
      Run.ofExcept ((Question.getOr v w).answer s.data) := by
  simp only [evaluate]
  refine bind_congr fun v => bind_congr fun w => ?_
  rw [Question.answer, ← dataEntry_eq]
  cases dataEntry s v <;> rfl

theorem evaluate_item (k : Expr) : evaluate s (.item k) =
    evaluate s k >>= fun v => Run.ofExcept ((Question.item v).answer s.data) := by
  simp only [evaluate]
  refine bind_congr fun v => ?_
  rw [Question.answer, ← dataEntry_eq]
  rcases dataEntry s v with f | _ | x <;> rfl

theorem evaluate_has (k : Expr) : evaluate s (.has k) =
    evaluate s k >>= fun v => Run.ofExcept ((Question.has v).answer s.data) := by
  simp only [evaluate]
  refine bind_congr fun v => ?_
  rw [Question.answer, ← dataEntry_eq]
  cases dataEntry s v <;> rfl

theorem evaluate_keys : evaluate s .keys = Run.ofExcept (Question.keys.answer s.data) := by
  simp only [evaluate]
  rfl

/-- A question gets the answer of the data that the script was given. -/
theorem evaluate_question (q : Question) :
    evaluate s q.expr = Run.ofExcept (q.answer s.data) := by
  cases q with
  | get k => rw [Question.expr, evaluate_get, evaluate, pure_bind]
  | getOr k d => rw [Question.expr, evaluate_getOr, evaluate, pure_bind, evaluate, pure_bind]
  | item k => rw [Question.expr, evaluate_item, evaluate, pure_bind]
  | has k => rw [Question.expr, evaluate_has, evaluate, pure_bind]
  | keys => exact evaluate_keys s

end

theorem writeAll_perform (vs : List Value) (t : State) :
    ((writeAll vs).perform t).2 =
      { t with output := t.output ++ String.join (leadingTexts vs) } := by
  induction vs generalizing t with
  | nil => simp [writeAll, leadingTexts]
  | cons v vs ih =>
      rw [writeAll, leadingTexts]
      cases v.str with
      | error f => simp [Stateful.perform_bind]
      | ok text =>
          have hwrite : (Run.write text).perform t =
              (.ok (), { t with output := t.output ++ text }) := rfl
          simp only
          rw [Stateful.perform_bind_ok (Run.perform_ofExcept _ t),
            Stateful.perform_bind_ok hwrite, ih, String.join_cons, String.append_assoc]

/-- The values behind the first are printed with a separator before each, which is there too
    if a value has no text. -/
theorem printRest_perform (sep : String) (vs : List Value) (t : State) :
    let rest := vs.forM fun v => do
      Run.write sep
      Run.write (← Run.ofExcept v.str)
    let output := t.output ++ String.join ((leadingTexts vs).map (sep ++ ·))
    ((leadingTexts vs).length = vs.length ∧ rest.perform t = (.ok (), { t with output })) ∨
      ((leadingTexts vs).length ≠ vs.length ∧
        ∃ f, rest.perform t = (.error f, { t with output := output ++ sep })) := by
  induction vs generalizing t with
  | nil => exact .inl ⟨rfl, by simp [leadingTexts]⟩
  | cons v vs ih =>
      simp only [List.forM_eq_forM, List.forM_cons, leadingTexts]
      cases v.str with
      -- The separator is written before it turns out that the value has no text.
      | error f => simp [Stateful.perform_bind, Run.write]
      | ok text =>
          have hfirst : (do
              Run.write sep
              Run.write (← Run.ofExcept (.ok text))).perform t =
                (.ok (), { t with output := t.output ++ (sep ++ text) }) := by
            simp [Stateful.perform_bind, Run.write, String.append_assoc]
          rw [Stateful.perform_bind_ok hfirst]
          simpa [String.append_assoc] using ih { t with output := t.output ++ (sep ++ text) }

/-- Separators between texts stand before all texts but the first. -/
theorem intercalate_eq (sep text : String) (texts : List String) :
    sep.intercalate (text :: texts) = text ++ String.join (texts.map (sep ++ ·)) := by
  induction texts generalizing text with
  | nil => simp
  | cons u us ih =>
      rw [String.intercalate_cons_cons, ih, List.map_cons, String.join_cons, String.append_assoc,
        String.append_assoc]

/-- So do those behind texts, and there is one more at the end. -/
theorem join_ended (sep text : String) (texts : List String) :
    String.join ((text :: texts).map (· ++ sep)) =
      text ++ String.join (texts.map (sep ++ ·)) ++ sep := by
  induction texts generalizing text with
  | nil => simp
  | cons u us ih =>
      rw [List.map_cons, String.join_cons, ih, List.map_cons, String.join_cons]
      simp only [String.append_assoc]

theorem printAll_perform (sep ending : String) (vs : List Value) (t : State) :
    ((printAll sep ending vs).perform t).2 =
      { t with output := t.output ++ (Writing.print vs sep ending).text } := by
  cases vs with
  | nil => simp [printAll, Writing.text, leadingTexts, Run.write]
  | cons v vs =>
      rw [printAll, Writing.text, leadingTexts]
      cases v.str with
      | error f => simp [Stateful.perform_bind]
      | ok text =>
          have hfirst : (Run.write text).perform t =
              (.ok (), { t with output := t.output ++ text }) := rfl
          simp only [List.length_cons, Nat.add_right_cancel_iff]
          rw [Stateful.perform_bind_ok (Run.perform_ofExcept _ t),
            Stateful.perform_bind_ok hfirst, Stateful.perform_bind]
          -- The ending is written only if all values have texts.
          rcases printRest_perform sep vs { t with output := t.output ++ text } with
            ⟨hall, hrest⟩ | ⟨hall, f, hrest⟩
          · rw [if_pos hall, intercalate_eq, hrest]
            simp [Run.write, String.append_assoc]
          · rw [if_neg hall, join_ended, hrest]
            simp [String.append_assoc]

theorem rounds_traces {body : Run Unit} {c : Course} (h : Traces call body c) (name : String)
    (items : List Value) :
    Traces call (items.forM fun x => do assign name x; body) (roundsCourse name body c items) := by
  induction items with
  | nil => exact .pure ()
  | cons x xs ih =>
      simp only [List.forM_eq_forM, List.forM_cons, roundsCourse]
      exact .bind (.bind (.assign name x) fun _ => h) fun _ => ih

variable (s : Setting)

mutual

theorem evaluate_traces (e : Expr) :
    Traces s.call (evaluate s e) (expressionCourse s e) := by
  -- Expressions that only look at the scene have no event of their own. Those that ask the data
  -- have one behind those of their parts, and so have calls; the proxy is looked at before.
  match e with
  | .lit v =>
      simp only [evaluate, expressionCourse]
      exact .pure v
  | .var n =>
      refine .still fun t => ?_
      simp only [evaluate]
      rw [Stateful.perform_bind_ok (Stateful.perform_get t)]
      cases t.vars.get? n <;> rfl
  | .get k =>
      rw [evaluate_get]
      exact .bind (evaluate_traces k) fun v => asking_traces _
  | .getOr k d =>
      rw [evaluate_getOr]
      exact .bind (evaluate_traces k) fun v => .bind (evaluate_traces d) fun w => asking_traces _
  | .item k =>
      rw [evaluate_item]
      exact .bind (evaluate_traces k) fun v => asking_traces _
  | .has k =>
      rw [evaluate_has]
      exact .bind (evaluate_traces k) fun v => asking_traces _
  | .keys =>
      rw [evaluate_keys]
      exact asking_traces _
  | .call route name args keywords values =>
      -- The arguments, then the keywords, and then the call.
      have hsteps : Traces s.call (do
          let vs ← evaluateAll s args
          let ws ← evaluateAll s values
          Run.ofPlay ((Deed.call route name vs (keywords.zip ws)).play s.call))
          ((expressionsCourse s args).andThen (evaluateAll s args) fun vs =>
            (expressionsCourse s values).andThen (evaluateAll s values) fun ws =>
              once (.did (.call route name vs (keywords.zip ws)))) :=
        .bind (evaluateAll_traces args) fun vs => .bind (evaluateAll_traces values) fun ws =>
          .deed _
      simp only [expressionCourse]
      cases route with
      | invoke =>
          simp only [evaluate]
          exact hsteps
      | proxy | contextProxy =>
          -- The proxy is asked for the name before that.
          intro t
          simp only [evaluate]
          rw [Stateful.perform_bind_ok (Stateful.perform_get t)]
          refine ⟨rfl, ?_⟩
          cases Registry.proxyHas t.scene.helpers name with
          | true => exact hsteps t
          | false => rfl
  | .hasHelper name | .helperNames | .helperCount | .path | .moduleName =>
      simp only [evaluate, expressionCourse]
      exact .still fun _ => rfl
  | .str k | .len k =>
      simp only [evaluate, expressionCourse]
      exact .then_still (evaluate_traces k) fun v => .then_still (.ofExcept _) fun o => .pure _
  | .operate op l r =>
      simp only [evaluate, expressionCourse]
      exact .bind (evaluate_traces l) fun v => .then_still (evaluate_traces r) fun w => .ofExcept _
  | .and l r =>
      simp only [evaluate, expressionCourse]
      refine .bind (evaluate_traces l) fun v => .given fun b => ?_
      cases b with
      | true => exact evaluate_traces r
      | false => exact .pure v
  | .or l r =>
      simp only [evaluate, expressionCourse]
      refine .bind (evaluate_traces l) fun v => .given fun b => ?_
      cases b with
      | true => exact .pure v
      | false => exact evaluate_traces r

theorem evaluateAll_traces (es : List Expr) :
    Traces s.call (evaluateAll s es) (expressionsCourse s es) := by
  match es with
  | [] =>
      simp only [evaluateAll, expressionsCourse]
      exact .pure _
  | e :: es =>
      simp only [evaluateAll, expressionsCourse]
      exact .bind (evaluate_traces e) fun v => .then_still (evaluateAll_traces es) fun vs => .pure _

end

mutual

theorem execute_traces (st : Stmt) : Traces s.call (execute s st) (statementCourse s st) := by
  -- Output, assignments and changes are events of their own, after those of the expressions.
  match st with
  | .write es =>
      simp only [execute, statementCourse]
      exact .bind (evaluateAll_traces s es) fun vs => .once (writeAll_perform vs)
  | .print es sep ending =>
      simp only [execute, statementCourse]
      exact .bind (evaluateAll_traces s es) fun vs => .bind (evaluate_traces s sep) fun v =>
        .bind (evaluate_traces s ending) fun w => .given fun sep => .given fun ending =>
          .once (printAll_perform sep ending vs)
  | .eval e =>
      simp only [execute, statementCourse]
      exact .then_still (evaluate_traces s e) fun _ => .pure ()
  | .assign n e =>
      simp only [execute, statementCourse]
      exact .bind (evaluate_traces s e) fun v => .assign n v
  | .branch test body orelse =>
      simp only [execute, statementCourse]
      refine .bind (evaluate_traces s test) fun v => .given fun b => ?_
      cases b with
      | true => exact executeAll_traces body
      | false => exact executeAll_traces orelse
  | .loop n iter body =>
      simp only [execute, statementCourse]
      exact .bind (evaluate_traces s iter) fun v => .given fun items =>
        rounds_traces (executeAll_traces body) n items
  | .handle body kind handler =>
      simp only [execute, statementCourse]
      -- The moments of the body stay, however far it has come.
      refine .tryCatch (executeAll_traces body) fun f => ?_
      split
      · exact .bind (.assign _ _) fun _ => executeAll_traces handler
      · exact .throw f
  | .raise kind es =>
      simp only [execute, statementCourse]
      exact .then_still (evaluateAll_traces s es) fun vs => .throw _
  | .addConstant n e =>
      simp only [execute, statementCourse]
      exact .bind (evaluate_traces s e) fun v => .change (.add n v) rfl
  | .removeHelper n =>
      simp only [execute, statementCourse]
      exact .change (.remove n) rfl

theorem executeAll_traces (body : List Stmt) :
    Traces s.call (executeAll s body) (bodyCourse s body) := by
  match body with
  | [] =>
      simp only [executeAll, bodyCourse]
      exact .pure ()
  | st :: rest =>
      simp only [executeAll, bodyCourse]
      exact .bind (execute_traces st) fun _ => executeAll_traces rest

end

end Script

namespace Staged

variable {b : Staged} {call : Script.Caller}

/-- The state in which the script starts. -/
def start (b : Staged) : Script.State := ⟨b.scene, [], ""⟩

/-- How the script ends, and in which state. -/
def ending (b : Staged) (call : Script.Caller) : Except Fault Unit × Script.State :=
  (Script.executeAll (b.setting call) b.program).perform b.start

/-- The moments of the script. -/
def course (b : Staged) (call : Script.Caller) : List Script.Moment :=
  Script.bodyCourse (b.setting call) b.program b.start

/-- The states that the script goes through, the last one included. -/
def points (b : Staged) (call : Script.Caller) : List Script.State :=
  (b.course call).map (·.state) ++ [(b.ending call).2]

/-- The moments of a script lead from its start to its end. -/
theorem course_leads (b : Staged) (call : Script.Caller) :
    Script.Leads call (b.course call) b.start (b.ending call).2 :=
  Script.executeAll_traces (b.setting call) b.program b.start

/-- A script gives what it has written by its end, or its fault, and leaves the scene that it
    has come to. -/
theorem play_ending (b : Staged) (call : Script.Caller) :
    ∃ w, (b.ending call).2.scene.world.Logged w ∧ (b.play call).perform b.scene =
      ((b.ending call).1.map fun _ => (b.ending call).2.output,
        { (b.ending call).2.scene with world := w }) := by
  refine play_perform ?_
  show Script.run (b.setting call) b.program b.scene = _
  rw [Script.run, ending, start]
  rcases (Script.executeAll (b.setting call) b.program).perform ⟨b.scene, [], ""⟩ with
    ⟨f | ⟨⟩, t⟩ <;> rfl

end Staged

namespace View

variable {v : View} {data : Bindings} {helpers : List (String × Helper)} {s : Scene} {b : Staged}

theorem stage_of_staged? (h : v.staged? data helpers s = some b) :
    (stage v.name v.config v.engine data helpers).perform s = (.ok (.inr b), b.scene) := by
  rw [staged?] at h
  rcases hstage : (stage v.name v.config v.engine data helpers).perform s with ⟨f | text | b', t⟩
  · rw [hstage] at h
    cases h
  · rw [hstage] at h
    cases h
  · rw [hstage] at h
    obtain rfl : b' = b := Option.some.inj h
    rw [stage_scene _ _ _ hstage]

/-- A render that comes to a script ends as the script does. -/
theorem render_staged (h : v.staged? data helpers s = some b) :
    (v.render data helpers).perform s =
      (b.play (callHelper nestedRender v.owner)).perform b.scene := by
  rw [render_eq, Stateful.perform_bind_ok (stage_of_staged? h)]
  rfl

end View

end Stencil
