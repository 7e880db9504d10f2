import Stencil.Stateful
import Stencil.Template.Render

/-!
# Running statements

What single statements do where they succeed, and how that adds up: an output prints its
escaped value, a translatable block gives its markup, and an assignment binds one name and
leaves every other name what it is. Statements that succeed run one after the other, and a
template prints what its statements do over the data.

## Theorems

* `Env.find_assign_self`, `Env.find_assign_of_ne`, `Env.findOuter_assign_of_ne`: Names after an
  assignment.
* `perform_print`, `perform_trans`, `perform_set`: Single statements.
* `executeAll_cons`: Statements one after the other.
* `perform_render`: Whole templates.
-/

namespace Stencil

namespace Template

/-! ## Names after an assignment -/

section

variable {p : Place} {env : Env} {k n : String} {v : Value}

theorem lookup_filter_ne (f : Frame) (h : k ≠ n) :
    (f.filter (·.1 != n)).lookup k = f.lookup k := by
  induction f with
  | nil => rfl
  | cons e f ih =>
      by_cases he : e.1 = n
      · -- An entry of the other name is passed over, here and there.
        have hk : (k == e.1) = false := by rw [he]; exact beq_eq_false_iff_ne.mpr h
        rw [List.filter_cons_of_neg (by simp [he]), ih, List.lookup_cons, hk]
      · rw [List.filter_cons_of_pos (by simp [he]), List.lookup_cons, List.lookup_cons, ih]

theorem findFrame_bindLocal_of_ne (h : k ≠ n) :
    findFrame k (env.bindLocal n v).frames = findFrame k env.frames := by
  have hk : (k == n) = false := beq_eq_false_iff_ne.mpr h
  rw [Env.bindLocal]
  cases env.frames with
  | nil => simp [findFrame, List.lookup_cons, hk]
  | cons f fs => simp only [findFrame, List.lookup_cons, hk, lookup_filter_ne f h]

/-- The innermost scope and what is bound outside are all that an assignment changes. -/
theorem find_assign (k : String) : (env.assign p n v).find k =
    match findFrame k (env.bindLocal n v).frames with
    | some x => x
    | none => (env.assign p n v).context.get? k := by
  have hframes : (env.assign p n v).frames = (env.bindLocal n v).frames := by
    rw [Env.assign]
    split
    · rfl
    · split <;> rfl
  exact congrArg (fun fs => match findFrame k fs with
    | some x => x
    | none => (env.assign p n v).context.get? k) hframes

theorem context_bindLocal : (env.bindLocal n v).context = env.context := by
  rw [Env.bindLocal]
  split <;> rfl

theorem loopVars_bindLocal : (env.bindLocal n v).loopVars = env.loopVars := by
  rw [Env.bindLocal]
  split <;> rfl

theorem get?_context_assign_of_ne (h : k ≠ n) :
    (env.assign p n v).context.get? k = env.context.get? k := by
  rw [Env.assign]
  split
  · rw [context_bindLocal]
  · split
    · rw [context_bindLocal, Bindings.get?_set_of_ne _ _ h]
    · rw [context_bindLocal]

theorem get?_loopVars_assign_of_ne (h : k ≠ n) :
    (env.assign p n v).loopVars.get? k = env.loopVars.get? k := by
  rw [Env.assign]
  split
  · rw [loopVars_bindLocal, Bindings.get?_set_of_ne _ _ h]
  · split <;> rw [loopVars_bindLocal]

/-- What was assigned is found. -/
theorem Env.find_assign_self : (env.assign p n v).find n = some v := by
  have hframe : findFrame n (env.bindLocal n v).frames = some (some v) := by
    rw [Env.bindLocal]
    cases env.frames with
    | nil => simp [findFrame]
    | cons f fs => simp [findFrame]
  rw [find_assign, hframe]

/-- Every other name is what it was. -/
theorem Env.find_assign_of_ne (h : k ≠ n) : (env.assign p n v).find k = env.find k := by
  rw [find_assign, findFrame_bindLocal_of_ne h, get?_context_assign_of_ne h]
  rfl

theorem Env.findOuter_assign_of_ne (h : k ≠ n) (inLoop : Bool) :
    (env.assign p n v).findOuter inLoop k = env.findOuter inLoop k := by
  rw [Env.findOuter, Env.findOuter, get?_context_assign_of_ne h, get?_loopVars_assign_of_ne h]

end

/-! ## Single statements -/

section

variable {σ : Type} {r : Renderer (Stateful σ)} {nested : Program → Bindings → Stateful σ String}
  {p : Place} {env : Env} {st : σ}

/-- An output is the escaped value of its expression, or fails as that does. -/
theorem perform_print (e : Expr) :
    (execute r nested p env (.print e)).perform st =
      (((evaluate (scopeAt r p env) e).bind Value.escaped).map fun t => (env, t), st) := by
  rw [execute]
  cases evaluate (scopeAt r p env) e with
  | error f => rfl
  | ok v =>
      change Stateful.perform (lift v.escaped >>= fun t => pure (env, t)) st = _
      simp only [Except.bind]
      cases v.escaped <;> rfl

/-- A translatable block gives its markup, or fails as that does. -/
theorem perform_trans (b : TransBlock) :
    (execute r nested p env (.trans b)).perform st =
      ((evaluateBlock (scopeAt r p env) b).map fun t => (env, t), st) := by
  rw [execute]
  cases evaluateBlock (scopeAt r p env) b <;> rfl

/-- An assignment to a name binds it to the value of its expression. -/
theorem perform_set (n : String) (line : Nat) (e : Expr) :
    (execute r nested p env (.set (.name n) line e)).perform st =
      ((evaluate (scopeAt r p env) e).map fun v => (env.assign p n v, ""), st) := by
  rw [execute]
  cases evaluate (scopeAt r p env) e <;> rfl

/-! ## Statements and templates -/

/-- Statements go on from what the first one binds. -/
theorem executeAll_cons (stmt : Stmt) (stmts : List Stmt) :
    (executeAll r nested p env (stmt :: stmts)).perform st =
      match (execute r nested p env stmt).perform st with
      | (.ok (env', text), st') =>
        match (executeAll r nested p env' stmts).perform st' with
        | (.ok (env'', more), st'') => (.ok (env'', text ++ more), st'')
        | (.error f, st'') => (.error f, st'')
      | (.error f, st') => (.error f, st') := by
  rw [executeAll, Stateful.perform_bind]
  rcases (execute r nested p env stmt).perform st with ⟨f | ⟨env', text⟩, st'⟩
  · rfl
  · change (executeAll r nested p env' stmts >>= fun q => pure (q.1, text ++ q.2)).perform st' = _
    rw [Stateful.perform_bind]
    dsimp only
    rcases (executeAll r nested p env' stmts).perform st' with ⟨f | ⟨env'', more⟩, st''⟩ <;> rfl

theorem executeAll_nil : (executeAll r nested p env []).perform st = (.ok (env, ""), st) := by
  rw [executeAll]
  rfl

theorem executeAll_one (stmt : Stmt) :
    (executeAll r nested p env [stmt]).perform st = (execute r nested p env stmt).perform st := by
  rw [executeAll_cons]
  rcases (execute r nested p env stmt).perform st with ⟨f | ⟨env', text⟩, st'⟩
  · rfl
  · simp only [executeAll_nil, String.append_empty]

/-- A template prints what its statements do, run over the data. -/
theorem perform_render {program : Program} {data : Bindings} {text : String}
    (h : ∀ nested : Program → Bindings → Stateful σ String, ∃ env', (executeAll r nested
      ⟨program.name, false, true, (refsOf [] [] program.body).map (·.1)⟩
      ⟨[enter [] (refsOf [] [] program.body)], r.globals.update data, []⟩ program.body).perform
        st = (.ok (env', text), st)) :
    (render r program data).perform st = (.ok text, st) := by
  obtain ⟨env', h⟩ := h (renderAt r 149)
  rw [render, deepest, renderAt]
  dsimp only
  rw [Stateful.perform_bind_ok h]
  rfl

end

end Template

end Stencil
