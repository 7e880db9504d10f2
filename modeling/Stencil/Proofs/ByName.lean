import Stencil.Proofs.Course

/-!
# Helpers called by name

A script may call a helper through the call proxy or by name. The two are not the same. The
proxy is asked for the name before the arguments have their values, hides names that start
with an underscore, and takes other keywords; the registry is asked afterwards, and by then
the arguments may have added the helper, removed it or bound it to something else.

But the proxy only looks whether there is a helper, and what is called is found by name in
the end. So if the proxy had every helper that it was asked for in a run, when it was asked,
then the script does the same with all its helpers called by name: same text or fault, same
data and helpers, and the same world around them.

## Main definitions

* `Expr.byName`, `Stmt.byName`: Expressions and statements with all helpers called by name.
* `Moment.Served`: The proxy has the helper that it is asked for.
* `Agrees`: Two actions that do the same if the proxy has every helper.
* `View.renderAs`: A render whose script is changed.

## Theorems

* `Agrees.bind`, `Agrees.tryCatch`: Actions that are put together.
* `byName_evaluate`, `byName_execute`: Scripts do the same with all helpers called by name.
* `render_byName`: So do renders.
-/

namespace Stencil

namespace Script

mutual

/-- The same expression with all helpers called by name. -/
def Expr.byName : Expr → Expr
  | .call _ n args keywords values =>
    .call .invoke n (Expr.allByName args) keywords (Expr.allByName values)
  | .get k => .get k.byName
  | .getOr k d => .getOr k.byName d.byName
  | .item k => .item k.byName
  | .has k => .has k.byName
  | .str e => .str e.byName
  | .len e => .len e.byName
  | .operate op l r => .operate op l.byName r.byName
  | .and l r => .and l.byName r.byName
  | .or l r => .or l.byName r.byName
  | .lit v => .lit v
  | .var n => .var n
  | .keys => .keys
  | .hasHelper n => .hasHelper n
  | .helperNames => .helperNames
  | .helperCount => .helperCount
  | .path => .path
  | .moduleName => .moduleName

/-- The same expressions with all helpers called by name. -/
def Expr.allByName : List Expr → List Expr
  | [] => []
  | e :: es => e.byName :: Expr.allByName es

end

mutual

/-- The same statement with all helpers called by name. -/
def Stmt.byName : Stmt → Stmt
  | .write es => .write (Expr.allByName es)
  | .print es sep ending => .print (Expr.allByName es) sep.byName ending.byName
  | .eval e => .eval e.byName
  | .assign n e => .assign n e.byName
  | .branch test body orelse =>
    .branch test.byName (Stmt.allByName body) (Stmt.allByName orelse)
  | .loop n iter body => .loop n iter.byName (Stmt.allByName body)
  | .handle body kind handler => .handle (Stmt.allByName body) kind (Stmt.allByName handler)
  | .raise kind es => .raise kind (Expr.allByName es)
  | .addConstant n e => .addConstant n e.byName
  | .removeHelper n => .removeHelper n

/-- The same statements with all helpers called by name. -/
def Stmt.allByName : List Stmt → List Stmt
  | [] => []
  | st :: rest => st.byName :: Stmt.allByName rest

end

/-- If the proxy is asked for a helper at a moment, then there is one, it shows it, and no
    keyword of the call repeats a parameter. -/
def Moment.Served (m : Moment) : Prop :=
  match m.event with
  | .looked n keywords =>
    m.state.scene.helpers.has n = true ∧ "_".isPrefixOf n = false ∧
      ∀ k ∈ keywords, k ∉ reservedKeywords
  | _ => True

instance : DecidablePred Moment.Served
  | ⟨t, .looked n keywords⟩ =>
    inferInstanceAs (Decidable (t.scene.helpers.has n = true ∧ "_".isPrefixOf n = false ∧
      ∀ k ∈ keywords, k ∉ reservedKeywords))
  | ⟨_, .asked _⟩ | ⟨_, .did _⟩ | ⟨_, .wrote _⟩ | ⟨_, .assigned _ _⟩ => isTrue trivial

/-- Two actions do the same in every state from which the proxy has each helper that it is
    asked for. -/
def Agrees {α : Type} (a a' : Run α) (c : Course) : Prop :=
  ∀ t, (∀ m ∈ c t, m.Served) → a'.perform t = a.perform t

namespace Agrees

variable {α β : Type} {a a' : Run α} {c : Course}

theorem refl (a : Run α) (c : Course) : Agrees a a c := fun _ _ => rfl

theorem bind {f f' : α → Run β} {next : α → Course} (ha : Agrees a a' c)
    (hf : ∀ x, Agrees (f x) (f' x) (next x)) : Agrees (a >>= f) (a' >>= f') (c.andThen a next) := by
  intro t ht
  have hfirst : a'.perform t = a.perform t :=
    ha t fun m hm => ht m (List.mem_append_left _ hm)
  -- Both go on from one state, and so with the same moments to come.
  cases h : a.perform t with
  | mk r t' =>
      rw [h] at hfirst
      cases r with
      | error e => rw [Stateful.perform_bind_error h, Stateful.perform_bind_error hfirst]
      | ok x =>
          rw [Course.andThen_ok h] at ht
          rw [Stateful.perform_bind_ok h, Stateful.perform_bind_ok hfirst]
          exact hf x t' fun m hm => ht m (List.mem_append_right _ hm)

theorem tryCatch {f f' : Fault → Run α} {handler : Fault → Course} (ha : Agrees a a' c)
    (hf : ∀ x, Agrees (f x) (f' x) (handler x)) :
    Agrees (MonadExcept.tryCatch a f) (MonadExcept.tryCatch a' f') (c.orElse a handler) := by
  intro t ht
  have hfirst : a'.perform t = a.perform t :=
    ha t fun m hm => ht m (List.mem_append_left _ hm)
  rw [Stateful.perform_tryCatch, Stateful.perform_tryCatch, hfirst]
  cases h : a.perform t with
  | mk r t' =>
      cases r with
      | ok x => rfl
      | error e =>
          rw [Course.orElse_error h] at ht
          exact hf e t' fun m hm => ht m (List.mem_append_right _ hm)

/-- What follows may have no moments. -/
theorem andAlso {f : α → Run β} (ha : Agrees a a' c) : Agrees (a >>= f) (a' >>= f) c := by
  have h := ha.bind fun x => .refl (f x) Course.still
  rwa [Course.andThen_still] at h

theorem given {x : Except Fault α} {f f' : α → Run β} {next : α → Course}
    (hf : ∀ y, Agrees (f y) (f' y) (next y)) :
    Agrees (Run.ofExcept x >>= f) (Run.ofExcept x >>= f') (Course.given x next) := by
  cases x with
  | error f => exact refl _ _
  | ok y => exact hf y

theorem rounds {body body' : Run Unit} (h : Agrees body body' c) (name : String)
    (items : List Value) :
    Agrees (items.forM fun x => do assign name x; body)
      (items.forM fun x => do assign name x; body') (roundsCourse name body c items) := by
  induction items with
  | nil => exact refl _ _
  | cons x xs ih =>
      simp only [List.forM_eq_forM, List.forM_cons, roundsCourse]
      exact .bind (.bind (.refl _ _) fun _ => h) fun _ => ih

end Agrees

/-- Without a keyword that repeats a parameter the calling function makes no difference. -/
theorem callNamed_congr (callee : Callee) (c c' : String) (name : Value) (args : List Value)
    {keywords : List (String × Value)} (h : ¬RepeatsParameter keywords) :
    callNamed callee c name args keywords = callNamed callee c' name args keywords := by
  rw [callNamed, callNamed, find?_reserved_eq_none h]

/-- Once the proxy has had a helper, its call is the call by name. -/
theorem callProxy_byName (callee : Callee) {n : String} (hn : "_".isPrefixOf n = false)
    {keywords : List String} (hk : ∀ k ∈ keywords, k ∉ reservedKeywords) (args ws : List Value) :
    callProxy (callNamed callee) n args (keywords.zip ws) =
      callNamed callee "ScriptContext" (.text n) args (keywords.zip ws) := by
  have hfree : ¬RepeatsParameter (keywords.zip ws) := by
    rintro ⟨⟨k, w⟩, hmem, hres⟩
    exact hk k (List.of_mem_zip hmem).1 hres
  rw [callProxy_eq _ hn, callNamed_congr callee _ "ScriptContext" _ _ hfree]

variable {S : Setting} {callee : Callee}

mutual

theorem byName_evaluate (hcall : S.call = callNamed callee) (e : Expr) :
    Agrees (evaluate S e) (evaluate S e.byName) (expressionCourse S e) := by
  -- The course is that of the expression as it was written, and it is assumed to be served. Each
  -- part goes with its own stretch of it.
  match e with
  | .lit _ | .var _ | .keys | .hasHelper _ | .helperNames | .helperCount | .path | .moduleName =>
      exact .refl _ _
  | .get k =>
      rw [Expr.byName, evaluate_get, evaluate_get, expressionCourse]
      exact .bind (byName_evaluate hcall k) fun v => .refl _ _
  | .getOr k d =>
      rw [Expr.byName, evaluate_getOr, evaluate_getOr, expressionCourse]
      exact .bind (byName_evaluate hcall k) fun v => .bind (byName_evaluate hcall d) fun w => .refl _ _
  | .item k =>
      rw [Expr.byName, evaluate_item, evaluate_item, expressionCourse]
      exact .bind (byName_evaluate hcall k) fun v => .refl _ _
  | .has k =>
      rw [Expr.byName, evaluate_has, evaluate_has, expressionCourse]
      exact .bind (byName_evaluate hcall k) fun v => .refl _ _
  | .str k | .len k =>
      simp only [Expr.byName, evaluate, expressionCourse]
      exact .andAlso (byName_evaluate hcall k)
  | .operate op l r =>
      simp only [Expr.byName, evaluate, expressionCourse]
      exact .bind (byName_evaluate hcall l) fun v => .andAlso (byName_evaluate hcall r)
  | .and l r =>
      simp only [Expr.byName, evaluate, expressionCourse]
      refine .bind (byName_evaluate hcall l) fun v => .given fun b => ?_
      cases b with
      | true => exact byName_evaluate hcall r
      | false => exact .refl _ _
  | .or l r =>
      simp only [Expr.byName, evaluate, expressionCourse]
      refine .bind (byName_evaluate hcall l) fun v => .given fun b => ?_
      cases b with
      | true => exact .refl _ _
      | false => exact byName_evaluate hcall r
  | .call route name args keywords values =>
      have hsteps : Agrees (do
          let vs ← evaluateAll S args
          let ws ← evaluateAll S values
          Run.ofPlay (S.call "ScriptContext" (.text name) vs (keywords.zip ws))) (do
          let vs ← evaluateAll S (Expr.allByName args)
          let ws ← evaluateAll S (Expr.allByName values)
          Run.ofPlay (S.call "ScriptContext" (.text name) vs (keywords.zip ws)))
          ((expressionsCourse S args).andThen (evaluateAll S args) fun vs =>
            (expressionsCourse S values).andThen (evaluateAll S values) fun ws =>
              Course.once (.did (.call route name vs (keywords.zip ws)))) :=
        .bind (byName_evaluateAll hcall args) fun vs =>
          .bind (byName_evaluateAll hcall values) fun ws => .refl _ _
      simp only [Expr.byName, expressionCourse]
      cases route with
      | invoke =>
          simp only [evaluate]
          exact hsteps
      | proxy | contextProxy =>
          -- The proxy was asked before the arguments, and that it has had the helper is all
          -- that matters: which one is called is found by name in the end.
          intro t ht
          obtain ⟨hhas, hn, hk⟩ := ht _ (List.mem_cons_self ..)
          have hproxy : Registry.proxyHas t.scene.helpers name = true := by
            simp [Registry.proxyHas, Registry.proxyHelper, hhas, hn]
          simp only [evaluate, hcall, callProxy_byName callee hn hk]
          rw [Stateful.perform_bind_ok (Stateful.perform_get t), if_pos hproxy]
          rw [hcall] at hsteps
          refine hsteps t fun m hm => ht m (List.mem_cons_of_mem _ ?_)
          rwa [if_pos hproxy]

theorem byName_evaluateAll (hcall : S.call = callNamed callee) (es : List Expr) :
    Agrees (evaluateAll S es) (evaluateAll S (Expr.allByName es)) (expressionsCourse S es) := by
  match es with
  | [] => exact .refl _ _
  | e :: es =>
      simp only [Expr.allByName, evaluateAll, expressionsCourse]
      exact .bind (byName_evaluate hcall e) fun v => .andAlso (byName_evaluateAll hcall es)

end

mutual

theorem byName_execute (hcall : S.call = callNamed callee) (st : Stmt) :
    Agrees (execute S st) (execute S st.byName) (statementCourse S st) := by
  match st with
  | .write es =>
      simp only [Stmt.byName, execute, statementCourse]
      exact .bind (byName_evaluateAll hcall es) fun vs => .refl _ _
  | .print es sep ending =>
      simp only [Stmt.byName, execute, statementCourse]
      exact .bind (byName_evaluateAll hcall es) fun vs => .bind (byName_evaluate hcall sep) fun v =>
        .bind (byName_evaluate hcall ending) fun w => .refl _ _
  | .eval e =>
      simp only [Stmt.byName, execute, statementCourse]
      exact .andAlso (byName_evaluate hcall e)
  | .assign n e =>
      simp only [Stmt.byName, execute, statementCourse]
      exact .bind (byName_evaluate hcall e) fun v => .refl _ _
  | .branch test body orelse =>
      simp only [Stmt.byName, execute, statementCourse]
      refine .bind (byName_evaluate hcall test) fun v => .given fun b => ?_
      cases b with
      | true => exact byName_executeAll hcall body
      | false => exact byName_executeAll hcall orelse
  | .loop n iter body =>
      simp only [Stmt.byName, execute, statementCourse]
      exact .bind (byName_evaluate hcall iter) fun v => .given fun items =>
        .rounds (byName_executeAll hcall body) n items
  | .handle body kind handler =>
      simp only [Stmt.byName, execute, statementCourse]
      refine .tryCatch (byName_executeAll hcall body) fun f => ?_
      split
      · exact .bind (.refl _ _) fun _ => byName_executeAll hcall handler
      · exact .refl _ _
  | .raise kind es =>
      simp only [Stmt.byName, execute, statementCourse]
      exact .andAlso (byName_evaluateAll hcall es)
  | .addConstant n e =>
      simp only [Stmt.byName, execute, statementCourse]
      exact .bind (byName_evaluate hcall e) fun v => .refl _ _
  | .removeHelper n => exact .refl _ _

theorem byName_executeAll (hcall : S.call = callNamed callee) (body : List Stmt) :
    Agrees (executeAll S body) (executeAll S (Stmt.allByName body)) (bodyCourse S body) := by
  match body with
  | [] => exact .refl _ _
  | st :: rest =>
      simp only [Stmt.allByName, executeAll, bodyCourse]
      exact .bind (byName_execute hcall st) fun _ => byName_executeAll hcall rest

end

end Script

/-- A render of a view in a way of calling helpers, with its script changed. -/
def View.renderAs (v : View) (f : Script.Program → Script.Program) (call : Script.Caller)
    (data : Bindings) (helpers : List (String × Helper)) : Play String :=
  stage v.name v.config v.engine data helpers >>= fun x =>
    finish call (x.map id fun b => { b with program := f b.program })

variable {v : View} {data : Bindings} {helpers : List (String × Helper)} {s : Scene} {b : Staged}

/-- A script that is left as it is makes the render that it is. -/
theorem View.renderAs_id (v : View) (data : Bindings) (helpers : List (String × Helper)) :
    v.renderAs id (callHelper nestedRender v.owner) data helpers = v.render data helpers := by
  rw [render_eq, renderAs]
  refine bind_congr fun x => ?_
  cases x <;> rfl

/-- If the proxy had every helper that a script asked it for, the script plays the same with
    all its helpers called by name. -/
theorem Staged.play_byName (callee : Callee)
    (h : ∀ m ∈ b.course (callNamed callee), m.Served) :
    (({ b with program := Script.Stmt.allByName b.program } : Staged).play
      (callNamed callee)).perform b.scene = (b.play (callNamed callee)).perform b.scene := by
  have hrun : (Script.run (b.setting (callNamed callee))
      (Script.Stmt.allByName b.program)).perform b.scene =
        (Script.run (b.setting (callNamed callee)) b.program).perform b.scene := by
    have hsame := Script.byName_executeAll (S := b.setting (callNamed callee)) rfl b.program
      b.start h
    rw [start] at hsame
    show Script.run _ _ b.scene = Script.run _ _ b.scene
    rw [Script.run, Script.run, hsame]
  simp only [play, setting] at hrun ⊢
  rw [Stateful.perform_bind, Stateful.perform_bind, Stateful.perform_tryCatch,
    Stateful.perform_tryCatch, hrun]

/-- Whatever it is that is called for a helper, a render does the same with all helpers of its
    script called by name, as long as the proxy has every helper that it is asked for. -/
theorem render_byName (v : View) (callee : Callee) (data : Bindings)
    (helpers : List (String × Helper)) (s : Scene)
    (h : ∀ b, v.staged? data helpers s = some b →
      ∀ m ∈ b.course (callNamed callee), m.Served) :
    (v.renderAs Script.Stmt.allByName (callNamed callee) data helpers).perform s =
        (v.renderAs id (callNamed callee) data helpers).perform s ∧
      (callee = ownCallee nestedRender v.owner →
        (v.renderAs Script.Stmt.allByName (callNamed callee) data helpers).perform s =
          (v.render data helpers).perform s) := by
  have hsame : (v.renderAs Script.Stmt.allByName (callNamed callee) data helpers).perform s =
      (v.renderAs id (callNamed callee) data helpers).perform s := by
    rw [View.renderAs, View.renderAs, Stateful.perform_bind, Stateful.perform_bind]
    rcases hstage : (stage v.name v.config v.engine data helpers).perform s with ⟨f | text | b, t⟩
    · rfl
    · rfl
    · have hstaged : v.staged? data helpers s = some b := by rw [View.staged?, hstage]
      have hscene : b.scene = t := stage_scene _ _ _ hstage
      rw [← hscene]
      exact Staged.play_byName callee (h b hstaged)
  refine ⟨hsame, ?_⟩
  rintro rfl
  -- With nothing changed, and the helpers called as they are, it is the render itself.
  rw [hsame, ← v.renderAs_id data helpers]
  rfl

/-- A script that binds a helper anew while it makes up the arguments to call it with. -/
def rebindingBody : Script.Program :=
  [.write [.call .proxy "f" [.call .contextProxy "drop" [.lit (.text "f")] [] [],
    .call .proxy "bind" [.lit (.text "f"), .lit (.int 2)] [] []] [] []]]

/-- A world with that script. -/
def rebindingWorld : World :=
  .ofFiles ⟨[(["templates"], .directory),
    (["templates", "rebind.pyt"], .file (.script rebindingBody) 10)]⟩ 0 "" ⟨.here, []⟩

/-- A view of it. -/
def rebindingView : View := ⟨.text "rebind", .default, 0, [], []⟩

/-- A scene in which the helper is something else at first. -/
def rebindingScene : Scene :=
  ⟨[], [("f", ⟨.const (.int 1), 0⟩), ("drop", ⟨.remove, 0⟩), ("bind", ⟨.addConst, 0⟩)],
    rebindingWorld⟩

/-- What is called is what the helper has been bound to by then, on either way. -/
theorem render_byName_rebinding :
    ((rebindingView.renderAs Script.Stmt.allByName
      (callNamed (ownCallee nestedRender rebindingView.owner)) [] []).perform
        rebindingScene).1 = .ok "2" := by
  have hserved : (rebindingView.staged? [] [] rebindingScene).any (fun b =>
      decide (∀ m ∈ b.course (callNamed (ownCallee nestedRender rebindingView.owner)),
        m.Served)) = true := by
    decide +kernel
  have hrender : ((rebindingView.render [] []).perform rebindingScene).1 = .ok "2" := by
    decide +kernel
  have hsame := (render_byName rebindingView (ownCallee nestedRender rebindingView.owner) [] []
    rebindingScene fun b hb => by
      rw [hb] at hserved
      exact of_decide_eq_true hserved).2 rfl
  rw [hsame, hrender]

end Stencil
