import Stencil.Proofs.Steady

/-!
# Names that a rendering reaches

A rendering from what is read for names asks for some names only: that of the template itself,
and those that inclusions give while it runs. What is read for other names does not matter. To
say so the names are noted on a list while the rendering goes on.

The list is the state of a rendering that is otherwise the same, as in rendering from the files,
which is the case where what is read is what the files have.

## Main definitions

* `renderNoting`: Rendering from what is read for names, with the names that it reaches.
* `Grows`: A computation that notes names and forgets none.
* `Notes`: A computation that notes names and otherwise gives what another one gives.
* `Retraces`: Two that note names, and do the same if the same is read for these.

## Theorems

* `renderNoting_of_reached`: What is read for other names does not matter to what is reached.
* `renderReading_of_reached`: Nor does it matter to the result.
-/

namespace Stencil

namespace Engine

variable {c : Config} {x : Extensions} {tr : Translations}
  {reading reading' : String → Except Fault (List Template.Stmt)}

/-- Notes a name, and reads its template. -/
def note (reading : String → Except Fault (List Template.Stmt)) (n : String) :
    Stateful (List String) (List Template.Stmt) := do
  modify (n :: ·)
  Template.lift (reading n)

/-- What rendering depends on when it notes the names that it reaches. -/
def noter (c : Config) (x : Extensions) (tr : Translations)
    (reading : String → Except Fault (List Template.Stmt)) :
    Template.Renderer (Stateful (List String)) where
  load n := do return ⟨n, ← note reading n⟩
  strict := c.isStrict
  globals := x.globals
  translations := tr
  transFilter := x.own

/-- Loads the template of a name from what is read for names, and notes the inner name. -/
def loadNoting (c : Config) (reading : String → Except Fault (List Template.Stmt))
    (name : Value) : Stateful (List String) (String × List Template.Stmt) := do
  let (path, inner) ← Template.lift (innerName c name)
  let body ← tryCatch (note reading inner) fun f => throw (loadingFault path f)
  return (inner, body)

/-- Renders the template of a name over data from what is read for names, and notes the names
    that it reaches. -/
def renderNoting (c : Config) (x : Extensions) (tr : Translations)
    (reading : String → Except Fault (List Template.Stmt)) (name : Value) (data : Bindings) :
    Stateful (List String) String := do
  let (inner, body) ← loadNoting c reading name
  tryCatch (Template.render (noter c x tr reading) ⟨inner, body⟩ data) fun f =>
    throw (renderingFault f)

/-- Rendering from the files is the case of what the files have. -/
theorem renderAnew_eq (base : Files) (name : Value) (data : Bindings) :
    renderAnew c x tr base name data = renderNoting c x tr (readAnew c x base) name data := rfl

/-- A computation that notes names and forgets none. -/
def Grows {α : Type} (b : Stateful (List String) α) : Prop := ∀ s, s ⊆ (b.perform s).2

namespace Grows

variable {α β : Type}

theorem pure (y : α) : Grows (Pure.pure y) := fun _ => List.Subset.refl _

theorem throw (f : Fault) : Grows (α := α) (MonadExcept.throw f) := fun _ => List.Subset.refl _

theorem bind {b : Stateful (List String) α} {g : α → Stateful (List String) β} (h : Grows b)
    (hg : ∀ y, Grows (g y)) : Grows (b >>= g) := by
  intro s
  have hs := h s
  rw [Stateful.perform_bind]
  rcases hb : b.perform s with ⟨_ | y, s'⟩ <;> rw [hb] at hs
  · exact hs
  · exact List.Subset.trans hs (hg y s')

theorem tryCatch {b : Stateful (List String) α} {g : Fault → Stateful (List String) α}
    (h : Grows b) (hg : ∀ e, Grows (g e)) : Grows (MonadExcept.tryCatch b g) := by
  intro s
  have hs := h s
  rw [Stateful.perform_tryCatch]
  rcases hb : b.perform s with ⟨e | _, s'⟩ <;> rw [hb] at hs
  · exact List.Subset.trans hs (hg e s')
  · exact hs

end Grows

theorem note_perform (n : String) (s : List String) :
    (note reading n).perform s = (reading n, n :: s) := by
  rw [note, Stateful.perform_bind_ok (Stateful.perform_modify _ s)]
  cases reading n <;> rfl

theorem note_grows (n : String) : Grows (note reading n) := by
  intro s
  rw [note_perform]
  exact List.subset_cons_self _ _

/-- A computation that notes names and otherwise gives what another one gives. -/
def Notes {α : Type} (a : Except Fault α) (b : Stateful (List String) α) : Prop :=
  ∀ s, a = (b.perform s).1

namespace Notes

variable {α β : Type}

theorem bind {a : Except Fault α} {b : Stateful (List String) α} {f : α → Except Fault β}
    {g : α → Stateful (List String) β} (h : Notes a b) (hf : ∀ y, Notes (f y) (g y)) :
    Notes (a >>= f) (b >>= g) := by
  intro s
  rw [Stateful.perform_bind, h s]
  rcases b.perform s with ⟨_ | y, s'⟩
  · rfl
  · exact hf y s'

theorem tryCatch {a : Except Fault α} {b : Stateful (List String) α} {f : Fault → Except Fault α}
    {g : Fault → Stateful (List String) α} (h : Notes a b) (hf : ∀ e, Notes (f e) (g e)) :
    Notes (MonadExcept.tryCatch a f) (MonadExcept.tryCatch b g) := by
  intro s
  rw [Stateful.perform_tryCatch, h s]
  rcases b.perform s with ⟨e | _, s'⟩
  · exact hf e s'
  · rfl

theorem note (n : String) : Notes (reading n) (Engine.note reading n) := by
  intro s
  rw [note_perform]

/-- Noting as a relation that rendering keeps. -/
def relation : Template.Relation (Except Fault) (Stateful (List String)) where
  holds := Notes
  pure _ _ := rfl
  bind := Notes.bind
  throw _ _ := rfl
  tryCatch := Notes.tryCatch

end Notes

theorem renderReading_notes (name : Value) (data : Bindings) :
    Notes (renderReading c x tr reading name data) (renderNoting c x tr reading name data) := by
  have hrenderers : Notes.relation.Renderers (reader c x tr reading) (noter c x tr reading) :=
    ⟨fun n => (Notes.note n).bind fun _ _ => rfl, rfl, rfl, rfl, rfl⟩
  have hload : Notes (loadReading c reading name) (loadNoting c reading name) := by
    unfold loadReading loadNoting
    cases innerName c name with
    | error f => exact fun _ => rfl
    | ok r => exact ((Notes.note r.2).tryCatch fun _ _ => rfl).bind fun _ _ => rfl
  exact hload.bind fun r =>
    (Template.Relation.render hrenderers ⟨r.1, r.2⟩ data).tryCatch fun _ _ => rfl

/-- A computation that does what another one does that notes names, if the same is read for these
    names. So it notes the same names. -/
structure Retraces (reading reading' : String → Except Fault (List Template.Stmt)) {α : Type}
    (a b : Stateful (List String) α) : Prop where
  grows : Grows b
  result : ∀ s, (∀ n ∈ (b.perform s).2, reading' n = reading n) → a.perform s = b.perform s

namespace Retraces

variable {α β : Type} {a b : Stateful (List String) α}

theorem pure (y : α) : Retraces reading reading' (Pure.pure y) (Pure.pure y) :=
  ⟨Grows.pure y, fun _ _ => rfl⟩

theorem throw (f : Fault) : Retraces reading reading' (α := α) (MonadExcept.throw f)
    (MonadExcept.throw f) :=
  ⟨Grows.throw f, fun _ _ => rfl⟩

/-- What comes later notes more, so what is known of all the names is known of the first. -/
theorem bind {f g : α → Stateful (List String) β} (h : Retraces reading reading' a b)
    (hf : ∀ y, Retraces reading reading' (f y) (g y)) :
    Retraces reading reading' (a >>= f) (b >>= g) := by
  refine ⟨Grows.bind h.grows fun y => (hf y).grows, fun s hs => ?_⟩
  have hresult := h.result s
  rw [Stateful.perform_bind] at hs
  rw [Stateful.perform_bind, Stateful.perform_bind]
  rcases hb : b.perform s with ⟨e | y, s'⟩ <;> rw [hb] at hs hresult
  · rw [hresult hs]
  · rw [hresult fun n hn => hs n ((hf y).grows s' hn)]
    exact (hf y).result s' hs

theorem tryCatch {f g : Fault → Stateful (List String) α} (h : Retraces reading reading' a b)
    (hf : ∀ e, Retraces reading reading' (f e) (g e)) :
    Retraces reading reading' (MonadExcept.tryCatch a f) (MonadExcept.tryCatch b g) := by
  refine ⟨Grows.tryCatch h.grows fun e => (hf e).grows, fun s hs => ?_⟩
  have hresult := h.result s
  rw [Stateful.perform_tryCatch] at hs
  rw [Stateful.perform_tryCatch, Stateful.perform_tryCatch]
  rcases hb : b.perform s with ⟨e | y, s'⟩ <;> rw [hb] at hs hresult
  · rw [hresult fun n hn => hs n ((hf e).grows s' hn)]
    exact (hf e).result s' hs
  · rw [hresult hs]

theorem note (n : String) :
    Retraces reading reading' (Engine.note reading' n) (Engine.note reading n) := by
  refine ⟨note_grows n, fun s hs => ?_⟩
  rw [note_perform] at hs
  rw [note_perform, note_perform, hs n List.mem_cons_self]

/-- Retracing as a relation that rendering keeps. -/
def relation (reading reading' : String → Except Fault (List Template.Stmt)) :
    Template.Relation (Stateful (List String)) (Stateful (List String)) where
  holds := Retraces reading reading'
  pure := Retraces.pure
  bind := Retraces.bind
  throw := Retraces.throw
  tryCatch := Retraces.tryCatch

end Retraces

theorem renderNoting_retraces (name : Value) (data : Bindings) :
    Retraces reading reading' (renderNoting c x tr reading' name data)
      (renderNoting c x tr reading name data) := by
  have hrenderers : (Retraces.relation reading reading').Renderers (noter c x tr reading')
      (noter c x tr reading) :=
    ⟨fun n => (Retraces.note n).bind fun _ => .pure _, rfl, rfl, rfl, rfl⟩
  have hload : Retraces reading reading' (loadNoting c reading' name)
      (loadNoting c reading name) := by
    unfold loadNoting
    cases innerName c name with
    | error f => exact .throw f
    | ok r => exact ((Retraces.note r.2).tryCatch fun _ => .throw _).bind fun _ => .pure _
  exact hload.bind fun r =>
    (Template.Relation.render hrenderers ⟨r.1, r.2⟩ data).tryCatch fun _ => .throw _

/-- What is read for other names than those that a rendering reaches does not matter, neither to
    its result nor to what it reaches. -/
theorem renderNoting_of_reached {name : Value} {data : Bindings}
    (h : ∀ n ∈ ((renderNoting c x tr reading name data).perform []).2,
      reading' n = reading n) :
    (renderNoting c x tr reading' name data).perform [] =
      (renderNoting c x tr reading name data).perform [] :=
  (renderNoting_retraces name data).result [] h

/-- A rendering depends on what is read for the names that it reaches, and on nothing that is
    read for other names. -/
theorem renderReading_of_reached {name : Value} {data : Bindings}
    (h : ∀ n ∈ ((renderNoting c x tr reading name data).perform []).2,
      reading' n = reading n) :
    renderReading c x tr reading' name data =
      ((renderNoting c x tr reading name data).perform []).1 := by
  rw [renderReading_notes name data [], renderNoting_of_reached h]

end Engine

end Stencil
