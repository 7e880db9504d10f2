import Stencil.Proofs.Nested

/-!
# Files that stay

Rendering makes directories and keeps compiled templates, and it does nothing else to the files.
A directory is made only where there is nothing, and what is kept compiled lies where no path
leads. So whatever a path leads to before a render, a file or a directory, it leads to
afterwards, whether the render succeeds or fails, and however far it comes, and what is new is
a directory.

The invariant is one of single actions, and kept by all ways of putting them together, so it
is shown of each function that touches the files and carried along from there. Running a
template is the case of `Template.Relation` in which both sides are the same action.

## Main definitions

* `Files.Within`: All that paths lead to in a tree is there in another.
* `Files.Furnished`: And all the files there are old ones.
* `Act.Leaves`: An action leaves all that paths lead to, and makes no files.

## Theorems

* `Files.Within.file?`: A file that stays is found with its content.
* `Files.makeDirectories_furnished`: Making directories takes nothing away and makes no files.
* `Engine.create_leaves`, `Engine.render_leaves`: Nor do engines.
* `View.render_leaves`: Nor does a view without helpers.
-/

namespace Stencil

namespace Files

/-- All that paths lead to in a tree is there in another. -/
def Within (t t' : Files) : Prop := ∀ l n, Reachable l → t.node? l = some n → t'.node? l = some n

variable {t t' t'' : Files}

theorem Within.refl (t : Files) : t.Within t := fun _ _ _ => id

theorem Within.trans (h : t.Within t') (h' : t'.Within t'') : t.Within t'' :=
  fun l n hl hn => h' l n hl (h l n hl hn)

theorem Within.follow (h : t.Within t') {l k : Location} (hl : Reachable l) {ss : List String}
    (hs : ∀ s ∈ ss, '/' ∉ s.toList) (hk : t.follow l ss = .ok k) : t'.follow l ss = .ok k := by
  induction ss generalizing l with
  | nil => exact hk
  | cons s ss ih =>
      obtain ⟨hdir, hname, hk⟩ := follow_cons_eq_ok.mp hk
      -- The directory that a step starts from is itself something that a path leads to.
      have hnext : Reachable (walk l [s]) :=
        reachable_walk hl fun r hr => hs r (List.mem_singleton.mp hr ▸ List.mem_cons_self)
      exact follow_cons_eq_ok.mpr
        ⟨h l _ hl hdir, hname, ih hnext (fun r hr => hs r (List.mem_cons_of_mem _ hr)) hk⟩

theorem Within.locate (h : t.Within t') {p : Path} {l : Location} (hl : t.locate p = .ok l) :
    t'.locate p = .ok l := by
  obtain ⟨hlong, hl⟩ := locate_eq_ok.mp hl
  exact locate_eq_ok.mpr
    ⟨hlong, h.follow (reachable_start p) (fun _ => not_slash_of_mem_steps) hl⟩

/-- A file that stays is found with its content. -/
theorem Within.file? (h : t.Within t') {p : Path} {x : Content × Nat} (hx : t.file? p = some x) :
    t'.file? p = some x := by
  obtain ⟨hnul, l, hl, hn⟩ := file?_eq_some.mp hx
  exact file?_eq_some.mpr ⟨hnul, l, h.locate hl, h l _ (reachable_locate hl) hn⟩

/-- All that paths lead to in a tree is there in another, and all files there are old ones. -/
structure Furnished (t t' : Files) : Prop where
  within : t.Within t'
  files : ∀ l c m, Reachable l → t'.node? l = some (.file c m) → t.node? l = some (.file c m)

theorem Furnished.refl (t : Files) : t.Furnished t := ⟨.refl t, fun _ _ _ _ => id⟩

theorem Furnished.trans (h : t.Furnished t') (h' : t'.Furnished t'') : t.Furnished t'' :=
  ⟨h.within.trans h'.within, fun l c m hl hn => h.files l c m hl (h'.files l c m hl hn)⟩

theorem Agree.furnished (h : Agree t t') : t.Furnished t' :=
  ⟨fun l _ hl hn => (h l hl).symm.trans hn, fun l _ _ hl hn => (h l hl).trans hn⟩

/-- Nothing goes where a directory is put in an empty place. -/
theorem put_furnished {l : Location} (hl : t.node? l = none) :
    t.Furnished (t.put l .directory) := by
  have hdir : t.node? l ≠ some .directory := by rw [hl]; nofun
  refine ⟨fun k n _ hk => ?_, fun k c m _ hk => ?_⟩
  · rw [node?_put_of_ne _ (by rintro rfl; rw [hl] at hk; cases hk)]
    exact hk
  · rw [node?_put_eq _ hdir] at hk
    split at hk
    · cases hk
    · exact hk

theorem makeOne_furnished {p : Path} (h : t.makeOne p = .ok t') : t.Furnished t' := by
  rcases makeOne_cases h with ⟨l, -, ⟨-, rfl⟩ | ⟨hnone, -, rfl⟩⟩
  · exact .refl t'
  · exact put_furnished hnone

theorem furnished_of_made (h : Relation.ReflTransGen MadeOne t t') : t.Furnished t' := by
  induction h with
  | refl => exact .refl t
  | tail _ hone ih =>
      obtain ⟨p, hone⟩ := hone
      exact ih.trans (makeOne_furnished hone)

/-- Making directories takes nothing away and makes no files. -/
theorem makeDirectories_furnished {p : Path} (h : t.makeDirectories p = .ok t') :
    t.Furnished t' := by
  obtain ⟨-, t₁, h₁, hone⟩ := makeDirectories_made h
  exact (furnished_of_made h₁).trans (makeOne_furnished hone)

end Files

theorem World.Logged.furnished {w w' : World} (h : w.Logged w') :
    w.files.Furnished w'.files := by
  obtain ⟨es, rfl⟩ := h
  exact .refl _

/-- What an action leaves in a world has all that paths led to, and no new files. -/
def Act.Leaves {α : Type} (a : Act α) (w : World) : Prop :=
  w.files.Furnished (a.perform w).2.files

namespace Act.Leaves

variable {α β : Type} {a : Act α} {w : World}

theorem same (h : (a.perform w).2.files = w.files) : Leaves a w := by
  rw [Leaves, h]
  exact .refl _

theorem pure (x : α) : Leaves (Pure.pure x) w := same rfl

theorem throw (f : Fault) : Leaves (MonadExcept.throw f : Act α) w := same rfl

theorem log (level : Level) (source name : String) (fields : Bindings) :
    Leaves (Act.log level source name fields) w := same rfl

theorem quiet (ha : Quiet a) : Leaves a w := same (ha.files rfl)

theorem ofExcept (r : Except Fault α) : Leaves (Act.ofExcept r) w := quiet (.ofExcept r)

/-- What follows an action starts where that has left off. -/
theorem andThen {f : α → Act β} (ha : Leaves a w)
    (hf : ∀ x w', a.perform w = (.ok x, w') → Leaves (f x) w') : Leaves (a >>= f) w := by
  rw [Leaves, Stateful.perform_bind]
  rcases h : a.perform w with ⟨e | x, w'⟩
  all_goals rw [Leaves, h] at ha
  · exact ha
  · exact ha.trans (hf x w' h)

theorem bind {f : α → Act β} (ha : Leaves a w) (hf : ∀ x w', Leaves (f x) w') :
    Leaves (a >>= f) w := ha.andThen fun x w' _ => hf x w'

theorem tryCatch {f : Fault → Act α} (ha : Leaves a w) (hf : ∀ e w', Leaves (f e) w') :
    Leaves (MonadExcept.tryCatch a f) w := by
  rw [Leaves, Stateful.perform_tryCatch]
  rcases h : a.perform w with ⟨e | x, w'⟩
  all_goals rw [Leaves, h] at ha
  · exact ha.trans (hf e w')
  · exact ha

/-- What is done with the world that an action looks at is done in that world. -/
theorem get {f : World → Act β} (hf : Leaves (f w) w) : Leaves (MonadState.get >>= f) w := by
  rw [Leaves, Stateful.perform_bind_ok (Stateful.perform_get w)]
  exact hf

theorem given {r : Except Fault α} {f : α → Act β} (hf : ∀ x, r = .ok x → Leaves (f x) w) :
    Leaves (Act.ofExcept r >>= f) w := by
  refine (ofExcept r).andThen fun x w' h => ?_
  rw [Act.perform_ofExcept] at h
  cases h
  exact hf x rfl

/-- Leaving all that paths led to, as a relation that rendering keeps. -/
def relation : Template.Relation Act Act where
  holds a b := a = b ∧ ∀ w, Leaves a w
  pure _ := ⟨rfl, fun _ => pure _⟩
  bind := by
    rintro α β a _ f g ⟨rfl, ha⟩ hf
    exact ⟨bind_congr fun x => (hf x).1, fun w => bind (ha w) fun x => (hf x).2⟩
  throw f := ⟨rfl, fun _ => throw f⟩
  tryCatch := by
    rintro α a _ f g ⟨rfl, ha⟩ hf
    exact ⟨congrArg _ (funext fun e => (hf e).1), fun w => tryCatch (ha w) fun e => (hf e).2⟩

end Act.Leaves

namespace Engine

open Act (Leaves)

variable {w : World}

theorem prepareStore_leaves (c : Config) (w : World) : Leaves (prepareStore c) w := by
  unfold prepareStore
  refine .get (.given fun b _ => ?_)
  split
  · split
    -- Only where the directory is made do the files change.
    · rename_i t hmake
      have hmodify : Leaves (modify fun w => { w with files := t }) w :=
        Files.makeDirectories_furnished hmake
      exact hmodify.bind fun _ _ => .pure _
    · exact .bind (.log _ _ _ _) fun _ _ => .pure _
    · exact .throw _
  · exact .bind (.log _ _ _ _) fun _ _ => .pure _

/-- Making an engine takes nothing away. -/
theorem create_leaves (c : Config) (w : World) : Leaves (create c none none) w := by
  unfold create
  refine .bind (prepareStore_leaves c w) fun store w₁ => .bind ?_ fun tr w₂ =>
    .bind (.log _ _ _ _) fun _ w₃ => .get (.bind (.same rfl) fun _ _ => .pure _)
  obtain ⟨w', ⟨es, rfl⟩, hchoose⟩ := chooseTranslations_perform c (defaultExtensions c) w₁
  exact .same (by rw [Option.getD_none, hchoose])

theorem find_leaves (id : EngineId) : Leaves (find id) w := by
  unfold find
  refine .get ?_
  split
  · exact .pure _
  · exact .throw _

/-- What is kept compiled lies where no path leads. -/
theorem keepStored_leaves (store : Option Path) (name file text : String)
    (body : List Template.Stmt) : Leaves (keepStored store name file text body) w := by
  unfold keepStored
  split
  · exact .pure _
  · refine .get ?_
    split
    · rename_i l hat _
      rw [storedAt?, Option.bind_eq_bind, Option.bind_some] at hat
      split at hat
      · obtain rfl := Option.some.inj hat
        exact (Files.put_agree w.files _ (not_reachable_stored _ name file)).symm.furnished
      · cases hat
    · exact .throw _

theorem keepLoaded_leaves (id : EngineId) (name : String) (body : List Template.Stmt)
    (modified : Nat) : Leaves (keepLoaded id name body modified) w := by
  unfold keepLoaded remember
  refine .get (.bind (.same rfl) fun _ w₁ => .bind (.get ?_) fun _ _ => .pure _)
  split
  · exact .same rfl
  · exact .pure _

theorem loadContent_leaves (id : EngineId) (e : Engine) (name : String) (path : Path)
    (content : Content) (modified : Nat) :
    Leaves (loadContent id e name path content modified) w := by
  unfold loadContent statements
  refine .given fun chars _ => .bind (.get ?_) fun body w₁ => keepLoaded_leaves id name body _
  split
  · exact .pure _
  · exact .given fun body _ => .bind (keepStored_leaves _ _ _ _ _) fun _ _ => .pure _

theorem fetch_leaves (id : EngineId) (name : String) (w : World) : Leaves (fetch id name) w := by
  unfold fetch
  refine .bind (find_leaves id) fun e w₁ => .get ?_
  split
  · exact .pure _
  · unfold loadFresh
    split
    · exact .throw _
    · refine .get ?_
      split
      · exact .throw _
      · exact loadContent_leaves _ _ _ _ _ _

theorem load_leaves (id : EngineId) (name : Value) (w : World) : Leaves (load id name) w := by
  unfold load
  refine .bind (find_leaves id) fun e w₁ => .given fun r _ =>
    .bind (.tryCatch (fetch_leaves id _ w₁) fun f w₂ => ?_) fun _ _ => .pure _
  unfold reportLoading
  split
  · exact .throw _
  · exact .bind (.log _ _ _ _) fun _ _ => .throw _
  · exact .throw _

/-- Running a template takes nothing away. -/
theorem run_leaves (id : EngineId) (e : Engine) (q : Template.Program) (data : Bindings)
    (w : World) : Leaves (Template.render (renderer id e) q data) w := by
  have hload (n : String) (w : World) :
      Leaves (do return ⟨n, (← fetch id n).body⟩ : Act Template.Program) w :=
    .bind (fetch_leaves id n w) fun _ _ => .pure _
  have hsame : Act.Leaves.relation.Renderers (renderer id e) (renderer id e) :=
    ⟨fun n => ⟨rfl, hload n⟩, rfl, rfl, rfl, rfl⟩
  exact (Template.Relation.render hsame q data).2 w

/-- Rendering a template takes nothing away. -/
theorem render_leaves (id : EngineId) (name : Value) (data : Bindings) (w : World) :
    Leaves (render id name data) w := by
  unfold render
  refine .bind (load_leaves id name w) fun r w₁ => .bind (find_leaves id) fun e w₂ =>
    .bind (.log _ _ _ _) fun _ w₃ => .tryCatch (run_leaves id e _ data w₃) fun f w₄ => ?_
  unfold reportRendering
  split
  · exact .bind (.log _ _ _ _) fun _ _ => .throw _
  · exact .throw _

end Engine

namespace View

/-- Making a view without helpers takes nothing away. -/
theorem get_leaves (name : Value) (c : Config) (w : World) :
    Act.Leaves (View.get name [] [] (some c) none) w := by
  have hview := get_own c name w
  have hcreate := Engine.create_leaves c w
  rcases hmade : (Engine.create c none none).perform w with ⟨f | id, w'⟩
  all_goals rw [hmade] at hview; rw [Act.Leaves, hmade] at hcreate
  · rw [Act.Leaves, hview]
    exact hcreate
  · obtain ⟨w'', hlog, hview⟩ := hview
    rw [Act.Leaves, hview]
    exact hcreate.trans hlog.furnished

/-- Nor does rendering a view without helpers, whatever its script tries. -/
theorem render_leaves (v : View) (data : Bindings) {s : Scene} (hs : s.helpers = []) :
    s.world.files.Furnished ((v.render data []).perform s).2.world.files := by
  obtain ⟨d, helpers, w⟩ := s
  obtain rfl : helpers = [] := hs
  obtain ⟨es, hes⟩ :=
    Resolution.resolve_perform v.config.templateRoot v.name v.config.extensions w
  have hresolve : (Play.ofAct (Resolution.resolve v.config.templateRoot v.name
      v.config.extensions)).perform ⟨d, [], w⟩ =
        (Resolution.owner w.files v.config.templateRoot v.name v.config.extensions,
          ⟨d, [], { w with events := es ++ w.events }⟩) := by
    rw [Play.perform_ofAct, hes]
  rw [View.render, renderOwned]
  cases howner : Resolution.owner w.files v.config.templateRoot v.name v.config.extensions with
  | error f =>
      rw [howner] at hresolve
      rw [Stateful.perform_bind_error hresolve]
      exact .refl _
  | ok r =>
      rw [howner] at hresolve
      rw [Stateful.perform_bind_ok hresolve, setAll,
        Stateful.perform_bind_ok (Stateful.perform_modify _ _)]
      obtain ⟨kind, path⟩ := r
      cases kind with
      | compiled =>
          exact Engine.render_leaves v.engine v.name (d.update data)
            { w with events := es ++ w.events }
      | rawScript =>
          -- Where nothing is bound at the start a script binds constants only, and so it logs.
          obtain ⟨r, hr⟩ := renderScript_gives w path (d.update data)
          exact (hr nestedRender (.view v.name v.config v.engine)
            { w with events := es ++ w.events } fun _ _ => rfl).2.furnished

end View

end Stencil
