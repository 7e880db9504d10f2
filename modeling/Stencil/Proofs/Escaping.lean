import Stencil.Proofs.Evaluating
import Stencil.Proofs.Watching

/-!
# Clean templates give inert text

Nothing that comes in as data can bring harmful characters into the text of a clean
template, and neither can the strings that its expressions hold or what the filter that
translates gives.

The argument is an invariant: whatever is bound, in the data or by assignments and loops, is
clean as long as it was clean at the start. A template that binds none of the functions of
counting blocks and blocks in a context leaves those what they are. Statements keep that, and
the text of each statement is inert: literal text by assumption, output because it is escaped,
translatable blocks because their variables are, and included templates by induction on how
deep they nest. Of an included template nothing is assumed when it is loaded. It is noted, and
the text is inert if all templates that were noted are clean.

## Main definitions

* `Bindings.Clean`, `Template.Env.Clean`: Everything that is bound is clean.
* `Template.boundBy`: The names that statements bind.
* `Template.Program.Clean`: A template with clean statements that bind no choosers.
* `Template.Renderer.Clean`: Inert catalogs, and every template that is loaded is noted.

## Theorems

* `Template.execute_promises`: Statements keep everything clean and give inert text.
* `Template.renderAt_promises`: Clean templates give inert text, inclusions and all.
-/

namespace Stencil

namespace Bindings

/-- All names of some bindings stand for what they may stand for. -/
def Clean (b : Bindings) : Prop := ∀ e ∈ b, e.2.CleanAs e.1

theorem clean_nil : Clean [] := nofun

variable {P : String → Value → Prop}

theorem forall_get? {b : Bindings} (h : ∀ e ∈ b, P e.1 e.2) {n : String} {v : Value}
    (hv : b.get? n = some v) : P n v := by
  obtain ⟨before, rest, heq, -⟩ := List.lookup_eq_some_iff.mp hv
  exact h (n, v) (heq ▸ List.mem_append_right before (List.mem_cons_self ..))

theorem forall_set {b : Bindings} (h : ∀ e ∈ b, P e.1 e.2) (n : String) {v : Value}
    (hv : P n v) : ∀ e ∈ b.set n v, P e.1 e.2 := by
  induction b with
  | nil => exact List.forall_mem_singleton.mpr hv
  | cons e b ih =>
      obtain ⟨he, hb⟩ := List.forall_mem_cons.mp h
      rw [set]
      split
      · exact List.forall_mem_cons.mpr ⟨hv, hb⟩
      · exact List.forall_mem_cons.mpr ⟨he, ih hb⟩

theorem update_clean {b new : Bindings} (h : b.Clean) (hnew : new.Clean) :
    (b.update new).Clean := by
  induction new generalizing b with
  | nil => exact h
  | cons e new ih =>
      obtain ⟨he, hrest⟩ := List.forall_mem_cons.mp hnew
      exact ih (forall_set h e.1 he) hrest

end Bindings

namespace Template

/-! ## What is bound -/

section

variable {P : String → Value → Prop} {fs : List Frame}

theorem forall_findFrame (h : ∀ f ∈ fs, ∀ e ∈ f, ∀ v, e.2 = some v → P e.1 v) {n : String}
    {v : Value} (hv : findFrame n fs = some (some v)) : P n v := by
  induction fs with
  | nil => cases hv
  | cons f fs ih =>
      obtain ⟨hf, hfs⟩ := List.forall_mem_cons.mp h
      rw [findFrame] at hv
      split at hv
      · rename_i x hx
        cases hv
        obtain ⟨before, rest, heq, -⟩ := List.lookup_eq_some_iff.mp hx
        exact hf (n, some v) (heq ▸ List.mem_append_right before (List.mem_cons_self ..)) v rfl
      · exact ih hfs hv

/-- What is bound in the innermost scope besides. -/
theorem forall_bindLocal {env : Env} (h : ∀ f ∈ env.frames, ∀ e ∈ f, ∀ v, e.2 = some v → P e.1 v)
    (n : String) {v : Value} (hv : P n v) :
    ∀ f ∈ (env.bindLocal n v).frames, ∀ e ∈ f, ∀ w, e.2 = some w → P e.1 w := by
  have hnew : ∀ w, some v = some w → P n w := by
    intro w hw
    cases hw
    exact hv
  unfold Env.bindLocal
  split
  · exact List.forall_mem_singleton.mpr (List.forall_mem_singleton.mpr hnew)
  · rename_i f fs hframes
    obtain ⟨hf, hfs⟩ := List.forall_mem_cons.mp (hframes ▸ h)
    refine List.forall_mem_cons.mpr ⟨List.forall_mem_cons.mpr ⟨hnew, ?_⟩, hfs⟩
    exact fun e he => hf e (List.mem_filter.mp he).1

/-- A scope holds its parameters and names without a value. -/
theorem forall_enter {parameters : Bindings} (h : ∀ e ∈ parameters, P e.1 e.2) (refs : Refs)
    (hfs : ∀ f ∈ fs, ∀ e ∈ f, ∀ v, e.2 = some v → P e.1 v) :
    ∀ f ∈ enter parameters refs :: fs, ∀ e ∈ f, ∀ v, e.2 = some v → P e.1 v := by
  refine List.forall_mem_cons.mpr ⟨List.forall_mem_append.mpr ⟨?_, ?_⟩, hfs⟩
  · refine List.forall_mem_map.mpr fun e he v hv => ?_
    cases hv
    exact h e he
  · exact List.forall_mem_map.mpr fun n _ v hv => nomatch hv

/-- What scopes bind, as an included template sees it. -/
theorem forall_locals (h : ∀ f ∈ fs, ∀ e ∈ f, ∀ v, e.2 = some v → P e.1 v)
    (names : List String) :
    ∀ e ∈ names.filterMap fun n =>
      match findFrame n fs with
      | some (some v) => some (n, v)
      | _ => none, P e.1 e.2 := by
  intro e he
  obtain ⟨n, -, hn⟩ := List.mem_filterMap.mp he
  split at hn
  · rename_i v hv
    cases hn
    exact forall_findFrame h hv
  · cases hn

/-- A loop may bind its object beside what its target binds. -/
theorem forall_extended {bound : Bindings} (h : ∀ e ∈ bound, P e.1 e.2) (extended : Bool)
    {i n : Nat} (hloop : P loopName (.loop i n)) :
    ∀ e ∈ (if extended then bound ++ [(loopName, .loop i n)] else bound : Bindings),
      P e.1 e.2 := by
  split
  · exact List.forall_mem_append.mpr ⟨h, List.forall_mem_singleton.mpr hloop⟩
  · exact h

end

section

variable {P : Value → Prop}

theorem forall_unpack (hP : Value.Kept P) {v : Value} (h : P v) :
    Ensures (unpack v) fun vs => ∀ w ∈ vs, P w := by
  unfold unpack
  split
  · exact Ensures.error
  · exact hP.items h

mutual

/-- What a target binds is taken from the value, and bound to a name of the target. -/
theorem Target.forall_bindings (hP : Value.Kept P) {v : Value} (h : P v) (t : Target) :
    Ensures (t.bindings v) fun b => ∀ e ∈ b, e.1 ∈ t.names ∧ P e.2 := by
  match t with
  | .name n =>
      exact Ensures.ok (List.forall_mem_singleton.mpr ⟨List.mem_singleton_self n, h⟩)
  | .tuple ts =>
      rw [Target.bindings]
      exact (forall_unpack hP h).bind fun vs hvs =>
        .ite .error (.ite .error (forall_bindingsOfAll hP hvs ts))

theorem forall_bindingsOfAll (hP : Value.Kept P) {vs : List Value} (h : ∀ v ∈ vs, P v)
    (ts : List Target) :
    Ensures (bindingsOfAll vs ts) fun b => ∀ e ∈ b, e.1 ∈ Target.namesOfAll ts ∧ P e.2 := by
  match ts with
  | [] => exact Ensures.ok nofun
  | t :: ts =>
      unfold bindingsOfAll
      split
      · exact Ensures.ok nofun
      · obtain ⟨hv, hvs⟩ := List.forall_mem_cons.mp h
        refine (Target.forall_bindings hP hv t).bind fun b hb =>
          (forall_bindingsOfAll hP hvs ts).bind fun b' hb' => Ensures.ok ?_
        refine List.forall_mem_append.mpr ⟨fun e he => ?_, fun e he => ?_⟩
        · exact ⟨List.mem_append_left _ (hb e he).1, (hb e he).2⟩
        · exact ⟨List.mem_append_right _ (hb' e he).1, (hb' e he).2⟩

end

end

/-- All names in some scopes stand for what they may stand for. -/
def FramesClean (fs : List Frame) : Prop := ∀ f ∈ fs, ∀ e ∈ f, ∀ v, e.2 = some v → v.CleanAs e.1

/-- Everything that is bound is clean. -/
structure Env.Clean (env : Env) : Prop where
  frames : FramesClean env.frames
  context : env.context.Clean
  loopVars : env.loopVars.Clean

variable {env : Env}

theorem Env.find_clean (h : env.Clean) {n : String} {v : Value} (hv : env.find n = some v) :
    v.CleanAs n := by
  unfold Env.find at hv
  split at hv
  · rename_i x hx
    subst hv
    exact forall_findFrame h.frames hx
  · exact Bindings.forall_get? h.context hv

/-- An expression sees clean values only. -/
theorem scopeAt_clean {m : Type → Type} (r : Renderer m) (p : Place) (h : env.Clean) :
    (scopeAt r p env).Clean := fun _ _ hv => Env.find_clean h hv

theorem Env.assign_clean (p : Place) (h : env.Clean) (n : String) {v : Value}
    (hv : v.CleanAs n) : (env.assign p n v).Clean := by
  have hframes := forall_bindLocal h.frames n hv
  have hcontext : (env.bindLocal n v).context.Clean := by
    unfold Env.bindLocal
    split <;> exact h.context
  have hloopVars : (env.bindLocal n v).loopVars.Clean := by
    unfold Env.bindLocal
    split <;> exact h.loopVars
  unfold Env.assign
  simp only
  split
  · exact ⟨hframes, hcontext, Bindings.forall_set hloopVars n hv⟩
  · split
    · exact ⟨hframes, Bindings.forall_set hcontext n hv, hloopVars⟩
    · exact ⟨hframes, hcontext, hloopVars⟩

theorem Env.assignAll_clean (p : Place) (h : env.Clean) {bound : Bindings}
    (hbound : bound.Clean) : (bound.foldl (fun env b => env.assign p b.1 b.2) env).Clean := by
  induction bound generalizing env with
  | nil => exact h
  | cons b bound ih =>
      obtain ⟨hb, hrest⟩ := List.forall_mem_cons.mp hbound
      exact ih (Env.assign_clean p h b.1 hb) hrest

theorem Env.visible_clean (h : env.Clean) : env.visible.Clean :=
  Bindings.update_clean h.context (forall_locals h.frames _)

/-! ## Statements -/

mutual

/-- The names that a statement binds, in its parts as well. -/
def Stmt.bound : Stmt → List String
  | .set target _ _ => target.names
  | .loop target _ _ _ body orelse => target.names ++ boundBy body ++ boundBy orelse
  | .branch _ body orelse _ => boundBy body ++ boundBy orelse
  | _ => []

/-- The names that statements bind. -/
def boundBy : List Stmt → List String
  | [] => []
  | s :: ss => s.bound ++ boundBy ss

end

/-- No chooser is among some names. -/
def Faithful (names : List String) : Prop := ∀ n ∈ names, n ∉ choosers

instance (names : List String) : Decidable (Faithful names) :=
  inferInstanceAs (Decidable (∀ n ∈ names, n ∉ choosers))

theorem Faithful.append {names names' : List String} :
    Faithful (names ++ names') ↔ Faithful names ∧ Faithful names' := List.forall_mem_append

/-- A template with clean statements that bind no choosers. -/
structure Program.Clean (p : Program) : Prop where
  has : StatementsHave clean p.body
  faithful : Faithful (boundBy p.body)

/-- What a target binds may be bound if it is no chooser. -/
theorem Target.bindings_clean {target : Target} (hnames : Faithful target.names) {v : Value}
    (hv : v.Clean) : Ensures (target.bindings v) Bindings.Clean :=
  (Target.forall_bindings Value.clean_kept hv target).mono fun _ hbound e he =>
    (hbound e he).2.as (hnames e.1 (hbound e he).1)

section

variable {σ : Type} {r : Renderer (Stateful (σ × List Program))}
  {nested : Program → Bindings → Stateful (σ × List Program) String}

/-- What the rounds of a loop keep: its variables are clean, and its text is inert. -/
def RoundsClean (state : Bindings × String × Nat) : Prop := state.1.Clean ∧ Inert state.2.1

/-- A renderer of clean templates: the catalogs are inert, and what is loaded is noted. -/
structure Renderer.Clean (r : Renderer (Stateful (σ × List Program))) : Prop where
  translations : r.translations.Inert
  globals : r.globals.Clean
  load : ∀ n, Promises Program.Clean (r.load n) Program.Clean

theorem loadIncluded_promises (hr : r.Clean) (ignoreMissing : Bool) (v : Value) :
    Promises Program.Clean (loadIncluded r ignoreMissing v) fun q => ∀ p, q = some p → p.Clean := by
  have hsome : ∀ n, Promises Program.Clean (do return some (← r.load n))
      fun q => ∀ p, q = some p → p.Clean := by
    refine fun n => (hr.load n).bind fun q => Promises.pure fun hq p hp => ?_
    cases hp
    exact hq
  unfold loadIncluded
  split
  · refine (Promises.lift _).mono fun q hq => ?_
    cases hq
  · simp only
    split
    · refine (hsome _).tryCatch fun f => ?_
      split
      · refine Promises.pure fun p hp => ?_
        cases hp
      · exact Promises.throw
    · exact hsome _

mutual

/-- A clean statement keeps everything clean and gives inert text. -/
theorem execute_promises (hr : r.Clean)
    (hn : ∀ q b, Promises Program.Clean (nested q b) fun text =>
      q.Clean → b.Clean → Inert text) (p : Place) (env : Env) (s : Stmt) :
    Promises Program.Clean (execute r nested p env s) fun out =>
      s.Has clean → Faithful s.bound → env.Clean → out.1.Clean ∧ Inert out.2 := by
  -- What is promised is one implication at the end, from a clean statement in a clean environment.
  -- What the steps in between promise is assumed there, the latest first.
  have hempty : Inert "" := by decide
  match s with
  | .text s =>
      simp only [execute]
      exact Promises.pure fun hs _ henv => ⟨henv, hs⟩
  | .print e =>
      simp only [execute]
      refine (Promises.lift _).bind fun v => (Promises.lift _).bind fun text => ?_
      refine Promises.pure fun htext hv hs _ henv => ⟨henv, ?_⟩
      exact Value.escaped_inert (evaluate_clean (scopeAt_clean r p henv) e hs v hv) text htext
  | .branch test body orelse _ =>
      simp only [execute]
      refine (Promises.lift _).bind fun v => (Promises.lift _).bind fun b => ?_
      split
      · exact (executeAll_promises hr hn p env body).mono fun out hout _ _ hs hbound henv =>
          hout hs.2.1 (Faithful.append.mp hbound).1 henv
      · exact (executeAll_promises hr hn p env orelse).mono fun out hout _ _ hs hbound henv =>
          hout hs.2.2 (Faithful.append.mp hbound).2 henv
  | .set target _ e =>
      simp only [execute]
      refine (Promises.lift _).bind fun v => (Promises.lift _).bind fun bound => ?_
      refine Promises.pure fun hbound hv hs hnames henv => ⟨?_, hempty⟩
      have hvalue := evaluate_clean (scopeAt_clean r p henv) e hs v hv
      exact Env.assignAll_clean p henv (Target.bindings_clean hnames hvalue bound hbound)
  | .trans b =>
      simp only [execute]
      refine (Promises.lift _).bind fun text => Promises.pure fun htext hs _ henv => ⟨henv, ?_⟩
      exact evaluateBlock_inert (scopeAt_clean r p henv) hr.translations hs text htext
  | .include e ignoreMissing withContext =>
      simp only [execute]
      refine (Promises.lift _).bind fun v => (loadIncluded_promises hr ignoreMissing v).bind ?_
      rintro (_ | q)
      · exact Promises.pure fun _ _ _ _ henv => ⟨henv, hempty⟩
      -- The template that was loaded is noted as clean, and it gets clean data either way.
      · refine (hn q _).bind fun text => Promises.pure fun htext hq _ _ _ henv => ⟨henv, ?_⟩
        refine htext (hq q rfl) ?_
        split
        · exact Env.visible_clean henv
        · exact hr.globals
  | .loop target _ iter test body orelse =>
      simp only [execute]
      refine (Promises.lift _).bind fun v => (Promises.lift _).bind fun items => ?_
      -- That the items are clean comes from what is assumed at the end, so until then it is a
      -- condition of what the rounds promise.
      refine (Promises.foldl (P := Value.Clean)
        (Q := fun b => StatementsHave clean body → Faithful (target.names ++ boundBy body) →
          env.Clean → RoundsClean b)
        (fun state x => ?round) items _).bind fun state => ?after
      case round =>
        refine (Promises.lift _).bind fun passed => ?_
        split
        · refine (Promises.lift _).bind fun bound => ?_
          refine (executeAll_promises hr hn _ _ body).bind fun out => ?_
          refine Promises.pure fun hout hbound _ hx hstate hbody hnames henv => ?_
          obtain ⟨htarget, hinner⟩ := Faithful.append.mp hnames
          have hbound := Target.bindings_clean htarget hx bound hbound
          have hloop (i n : Nat) : (Value.loop i n).CleanAs loopName :=
            Value.clean_loop.as (by decide)
          obtain ⟨hafter, hmore⟩ := hout hbody hinner
            ⟨forall_enter (forall_extended hbound _ (hloop _ _)) _ henv.frames, henv.context,
              Bindings.clean_nil⟩
          exact ⟨hafter.loopVars, inert_append.mpr ⟨(hstate hbody hnames henv).2, hmore⟩⟩
        · exact Promises.pure fun _ _ hstate => hstate
      case after =>
        have hitems (hiter : iter.Has clean) (henv : env.Clean) (hv : evaluate _ iter = .ok v)
            (hi : v.items = .ok items) : ∀ x ∈ items, x.Clean :=
          Value.clean_kept.items (evaluate_clean (scopeAt_clean r p henv) iter hiter v hv) items hi
        split
        · refine (executeAll_promises hr hn _ _ orelse).bind fun out => ?_
          refine Promises.pure fun hout hrounds hi hv hs hnames henv => ?_
          obtain ⟨hnames, helse⟩ := Faithful.append.mp hnames
          obtain ⟨-, htext⟩ := hrounds (hitems hs.1 henv hv hi)
            (fun _ _ henv => ⟨henv.loopVars, hempty⟩) hs.2.2.1 hnames henv
          obtain ⟨hafter, hmore⟩ := hout hs.2.2.2 helse
            ⟨forall_enter Bindings.clean_nil _ henv.frames, henv.context, henv.loopVars⟩
          exact ⟨⟨henv.frames, henv.context, hafter.loopVars⟩, inert_append.mpr ⟨htext, hmore⟩⟩
        · refine Promises.pure fun hrounds hi hv hs hnames henv => ?_
          obtain ⟨hvars, htext⟩ := hrounds (hitems hs.1 henv hv hi)
            (fun _ _ henv => ⟨henv.loopVars, hempty⟩) hs.2.2.1 (Faithful.append.mp hnames).1 henv
          exact ⟨⟨henv.frames, henv.context, hvars⟩, htext⟩

theorem executeAll_promises (hr : r.Clean)
    (hn : ∀ q b, Promises Program.Clean (nested q b) fun text =>
      q.Clean → b.Clean → Inert text) (p : Place) (env : Env) (ss : List Stmt) :
    Promises Program.Clean (executeAll r nested p env ss) fun out =>
      StatementsHave clean ss → Faithful (boundBy ss) → env.Clean →
        out.1.Clean ∧ Inert out.2 := by
  match ss with
  | [] =>
      simp only [executeAll]
      exact Promises.pure fun _ _ henv => ⟨henv, (by decide : Inert "")⟩
  | s :: ss =>
      simp only [executeAll]
      refine (execute_promises hr hn p env s).bind fun first => ?_
      refine (executeAll_promises hr hn p first.1 ss).bind fun rest => ?_
      refine Promises.pure fun hrest hfirst hss hnames henv => ?_
      obtain ⟨hhead, htail⟩ := Faithful.append.mp hnames
      obtain ⟨henv', htext⟩ := hfirst hss.1 hhead henv
      obtain ⟨henv'', hmore⟩ := hrest hss.2 htail henv'
      exact ⟨henv'', inert_append.mpr ⟨htext, hmore⟩⟩

end

/-- A clean template over clean data gives inert text, and so do those that it includes. -/
theorem renderAt_promises (hr : r.Clean) (depth : Nat) (q : Program) (context : Bindings) :
    Promises Program.Clean (renderAt r depth q context) fun text =>
      q.Clean → context.Clean → Inert text := by
  -- The induction is on how deep inclusions may still nest.
  induction depth generalizing q context with
  | zero =>
      simp only [renderAt]
      exact Promises.throw
  | succ depth ih =>
      simp only [renderAt]
      refine (executeAll_promises hr ih _ _ q.body).bind fun out => Promises.pure ?_
      intro hout hq hcontext
      have hframes : FramesClean [] := List.forall_mem_nil _
      exact (hout hq.has hq.faithful ⟨forall_enter Bindings.clean_nil _ hframes, hcontext, Bindings.clean_nil⟩).2

end

end Template

end Stencil
