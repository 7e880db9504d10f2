import Stencil.Json
import Stencil.Proofs.Coherence
import Stencil.Proofs.Escaping

/-!
# Escaping is sound

What an engine renders can only have harmful characters in it if they stand in the literal
text of the templates it uses or in the texts of its catalogs, or if some template declares
a text to be markup. Data from outside is never markup, so it has no part in this, whatever
characters it has.

Which templates a rendering uses is seen by running it with a list at its side. Every
template on the list was loaded by its name, and if the memory of the engine is right, it
is what its file holds.

## Main definitions

* `Template.Program.FromClean`: A template that was compiled from a clean source.
* `Engine.KeepsMade`: Actions that change engines in what they have in memory only.
* `Engine.renderWatched`: Rendering that notes the templates it uses.
* `Engine.used`: The templates that a rendering uses.

## Theorems

* `Json.read_kept`: Data from outside is put together from plain values.
* `Json.read_clean`: Data from outside is clean.
* `Engine.load_keepsMade`: Loading leaves the catalogs of an engine alone.
* `Engine.renderWatched_watches`: Noting what is used makes no difference.
* `Engine.used_readAnew`: What is used is what the files hold.
* `Engine.render_inert`: Clean templates and inert catalogs are rendered as inert text.
-/

namespace Stencil

/-! ## Data from outside -/

namespace Json

variable {P : Value → Prop}

theorem word?_kept (hP : Value.Kept P) (s : List Char) {v : Value} {rest : List Char}
    (h : word? s = some (v, rest)) : P v := by
  obtain ⟨e, he, hv⟩ := List.exists_of_findSome?_eq_some h
  have hwords : ∀ e ∈ words, P e.2 := by simp [words, hP.null, hP.bool, hP.float]
  obtain ⟨-, heq⟩ := Option.ite_none_right_eq_some.mp hv
  cases heq
  exact hwords e he

theorem number_kept (hP : Value.Kept P) (l : Limits) (s : List Char) :
    Ensures (number l s) fun r => P r.1 := by
  unfold number
  split
  extract_lets ds ds'
  split
  split
  refine .ite .error ?_
  split
  · split
    · exact Ensures.error
    · exact Ensures.ok (hP.int _)
  · exact Ensures.ok (hP.float _)

mutual

theorem value_kept (hP : Value.Kept P) (l : Limits) (fuel level : Nat) (s : List Char) :
    Ensures (value l fuel level s) fun r => P r.1 := by
  match fuel with
  | 0 => exact Ensures.error
  | fuel + 1 =>
      unfold value
      split
      -- A text, a list, an object, or a word or a number.
      · exact Ensures.any.bind fun r _ => Ensures.ok (hP.text _)
      · refine .ite .error ?_
        split
        · exact Ensures.ok (hP.list.mpr nofun)
        · exact (items_kept hP l fuel _ _).bind fun r hr => Ensures.ok (hP.list.mpr hr)
      · refine .ite .error ?_
        split
        · exact Ensures.ok (hP.dict.mpr nofun)
        · refine (entries_kept hP l fuel _ (List.forall_mem_nil _) _).bind fun r hr => ?_
          refine Ensures.ok (hP.dict.mpr (List.forall_mem_map.mpr fun e he => ?_))
          exact ⟨hP.text _, hr e he⟩
      · split
        · rename_i r hword
          exact Ensures.ok (word?_kept hP _ hword)
        · exact number_kept hP l _

theorem items_kept (hP : Value.Kept P) (l : Limits) (fuel level : Nat) (s : List Char) :
    Ensures (items l fuel level s) fun r => ∀ v ∈ r.1, P v := by
  match fuel with
  | 0 => exact Ensures.error
  | fuel + 1 =>
      unfold items
      refine (value_kept hP l fuel level s).bind ?_
      rintro ⟨v, s⟩ hv
      dsimp only
      split
      · exact Ensures.ok (List.forall_mem_singleton.mpr hv)
      · exact (items_kept hP l fuel level _).bind fun rs hrs =>
          Ensures.ok (List.forall_mem_cons.mpr ⟨hv, hrs⟩)
      · exact Ensures.error

theorem entries_kept (hP : Value.Kept P) (l : Limits) (fuel level : Nat) {found : Bindings}
    (hfound : ∀ e ∈ found, P e.2) (s : List Char) :
    Ensures (entries l fuel level found s) fun r => ∀ e ∈ r.1, P e.2 := by
  match fuel with
  | 0 => exact Ensures.error
  | fuel + 1 =>
      unfold entries
      split
      · refine Ensures.any.bind ?_
        rintro ⟨k, s⟩ -
        dsimp only
        split
        · refine (value_kept hP l fuel level _).bind ?_
          rintro ⟨v, s⟩ hv
          have hset := Bindings.forall_set (P := fun _ => P) hfound (String.ofList k) hv
          dsimp only
          split
          · exact Ensures.ok hset
          · exact entries_kept hP l fuel level hset _
          · exact Ensures.error
        · exact Ensures.error
      · exact Ensures.error

end

/-- Data that is read from outside is put together from plain values. -/
theorem read_kept (hP : Value.Kept P) (l : Limits) (s : List Char) : Ensures (read l s) P :=
  (value_kept hP l _ 0 _).bind fun _ hr => .ite (.ok hr) .error

/-- Data that is read from outside has no markup in it. -/
theorem read_clean (l : Limits) (s : List Char) : Ensures (read l s) Value.Clean :=
  read_kept Value.clean_kept l s

end Json

namespace Template

/-- A template that was compiled from a clean source. -/
def Program.FromClean (p : Program) : Prop :=
  ∃ s source, compile s source = .ok p.body ∧ CleanSource s.tags source

theorem Program.FromClean.clean {p : Program} (h : p.FromClean)
    (hbound : Faithful (boundBy p.body)) : p.Clean := by
  obtain ⟨s, source, hcompile, hsource⟩ := h
  exact ⟨compile_clean hsource p.body hcompile, hbound⟩

end Template

/-- The functions that extensions add are no markup, and the choosers pick no argument. -/
theorem Extensions.globals_clean (x : Extensions) : Bindings.Clean x.globals := by
  unfold globals
  split
  · have hnames (f : Lookup) (hf : ¬ f.Picks) (n : String) : (Value.function f).CleanAs n :=
      ⟨Value.clean_function, fun _ _ hg => Value.function.inj hg ▸ hf⟩
    have hunder : (Value.function .byName).CleanAs "_" :=
      Value.clean_function.as (by decide)
    have hcatalog : ∀ f ∈ [Lookup.gettext, .ngettext, .pgettext, .npgettext], ¬ f.Picks := by
      simp [Lookup.Picks]
    simp only [List.forall_mem_cons] at hcatalog
    simp [Bindings.Clean, hunder, hnames, hcatalog]
  · exact Bindings.clean_nil

namespace Engine

open Files (Agree)

/-! ## Engines keep their catalogs -/

/-- An engine as it was when it was made. -/
def made (e : Engine) : Engine := { e with memory := [] }

/-- An action changes no engine but for what it has in memory. -/
def KeepsMade {α : Type} (a : Act α) : Prop :=
  ∀ w, (a.perform w).2.engines.map made = w.engines.map made

namespace KeepsMade

variable {α β : Type} {a : Act α}

theorem of_engines (h : ∀ w, (a.perform w).2.engines = w.engines) : KeepsMade a :=
  fun w => by rw [h w]

theorem ofExcept (r : Except Fault α) : KeepsMade (Act.ofExcept r) := by
  refine of_engines fun w => ?_
  rw [Act.perform_ofExcept]

theorem bind {f : α → Act β} (ha : KeepsMade a) (hf : ∀ x, KeepsMade (f x)) :
    KeepsMade (a >>= f) := by
  intro w
  have h := ha w
  rw [Stateful.perform_bind]
  rcases ha : a.perform w with ⟨_ | x, w'⟩
  · rw [ha] at h
    exact h
  · rw [ha] at h
    exact (hf x w').trans h

theorem tryCatch {f : Fault → Act α} (ha : KeepsMade a) (hf : ∀ e, KeepsMade (f e)) :
    KeepsMade (MonadExcept.tryCatch a f) := by
  intro w
  have h := ha w
  rw [Stateful.perform_tryCatch]
  rcases ha : a.perform w with ⟨e | x, w'⟩
  · rw [ha] at h
    exact (hf e w').trans h
  · rw [ha] at h
    exact h

end KeepsMade

theorem find_keepsMade (id : EngineId) : KeepsMade (find id) := by
  refine KeepsMade.of_engines fun w => ?_
  rw [find, Stateful.perform_bind, Stateful.perform_get]
  simp only
  cases w.engine? id with
  | none => rfl
  | some e => rfl

theorem engine?_of_find {id : EngineId} {w : World} {e : Engine}
    (h : ((find id).perform w).1 = .ok e) : w.engine? id = some e := by
  rw [find, Stateful.perform_bind, Stateful.perform_get] at h
  simp only at h
  cases he : w.engine? id with
  | none =>
      rw [he] at h
      cases h
  | some e' =>
      rw [he] at h
      cases h
      rfl

/-- Keeping a template changes the memory of an engine only. -/
theorem remember_keepsMade (id : EngineId) (name : String) (l : Loaded) :
    KeepsMade (remember id name l) := by
  intro w
  rw [remember, Stateful.perform_bind, Stateful.perform_get]
  rcases he : w.engine? id with _ | e
  · simp only [he]
    rfl
  · obtain ⟨hid, hget⟩ := List.getElem?_eq_some_iff.mp he
    have hmap : id < (w.engines.map made).length := by rwa [List.length_map]
    have hsame : made { e with memory := Memory.keep e.memory name l } =
        (w.engines.map made)[id] := by
      rw [List.getElem_map, hget]
      rfl
    simp only [he, Stateful.perform_set, World.setEngine, List.map_set, hsame,
      List.set_getElem_self]

theorem keepStored_keepsMade (store : Option Path) (name file text : String)
    (body : List Template.Stmt) : KeepsMade (keepStored store name file text body) := by
  refine KeepsMade.of_engines fun w => ?_
  unfold keepStored
  split
  · rfl
  · rw [Stateful.perform_bind, Stateful.perform_get]
    simp only
    split
    · rfl
    · rfl

theorem statements_keepsMade (e : Engine) (name file : String) (chars : List Char) :
    KeepsMade (statements e name file chars) := by
  refine (KeepsMade.of_engines fun w => rfl).bind fun w => ?_
  split
  · exact KeepsMade.of_engines fun _ => rfl
  · exact (KeepsMade.ofExcept _).bind fun body => (keepStored_keepsMade _ _ _ _ _).bind fun _ =>
      KeepsMade.of_engines fun _ => rfl

theorem fetch_keepsMade (id : EngineId) (name : String) : KeepsMade (fetch id name) := by
  refine (find_keepsMade id).bind fun e => (KeepsMade.of_engines fun w => rfl).bind fun w => ?_
  split
  · exact KeepsMade.of_engines fun _ => rfl
  · unfold loadFresh
    split
    · exact KeepsMade.of_engines fun _ => rfl
    · refine (KeepsMade.of_engines fun w => rfl).bind fun w => ?_
      split
      · exact KeepsMade.of_engines fun _ => rfl
      · refine (KeepsMade.ofExcept _).bind fun chars =>
          (statements_keepsMade _ _ _ _).bind fun body => ?_
        refine (KeepsMade.of_engines fun w => rfl).bind fun w =>
          (KeepsMade.of_engines fun w => rfl).bind fun _ =>
            (remember_keepsMade _ _ _).bind fun _ => KeepsMade.of_engines fun _ => rfl

theorem load_keepsMade (id : EngineId) (name : Value) : KeepsMade (load id name) := by
  refine (find_keepsMade id).bind fun e => (KeepsMade.ofExcept _).bind fun r => ?_
  refine KeepsMade.bind ((fetch_keepsMade id r.2).tryCatch fun f => ?_) fun l =>
    KeepsMade.of_engines fun _ => rfl
  unfold reportLoading
  split
  · exact KeepsMade.of_engines fun _ => rfl
  · exact KeepsMade.of_engines fun _ => rfl
  · exact KeepsMade.of_engines fun _ => rfl

/-- An engine that was made with inert catalogs has them still. -/
theorem KeepsMade.translations_inert {α : Type} {a : Act α} (ha : KeepsMade a) {w : World}
    {id : EngineId} (h : ∀ e, w.engine? id = some e → e.translations.Inert) {e : Engine}
    (he : (a.perform w).2.engine? id = some e) : e.translations.Inert := by
  have hsame := congrArg (·[id]?) (ha w)
  simp only [List.getElem?_map] at hsame
  rw [show (a.perform w).2.engines[id]? = some e from he] at hsame
  obtain ⟨e', he', heq⟩ := Option.map_eq_some_iff.mp hsame.symm
  have htr : e'.made.translations = e.made.translations := congrArg Engine.translations heq
  exact (show e'.translations = e.translations from htr) ▸ h e' he'

/-! ## Rendering by an engine -/

/-- Notes a template and renders it by an engine, noting what it includes. -/
def renderNoted (id : EngineId) (e : Engine) (name : Value) (q : Template.Program)
    (data : Bindings) : Stateful (World × List Template.Program) String := do
  let p ← Template.noted (pure q)
  tryCatch (Template.render (Template.watched (renderer id e)) p data) fun f =>
    Stateful.beside (reportRendering name f)

/-- Rendering by an engine that notes the templates it uses. -/
def renderWatched (id : EngineId) (name : Value) (data : Bindings) :
    Stateful (World × List Template.Program) String := do
  let (inner, l) ← Stateful.beside (load id name)
  let e ← Stateful.beside (find id)
  Stateful.beside (Act.log .info source "rendering_compiled_template"
    [("name", name), ("context_keys", .list (data.keys.map Value.text))])
  renderNoted id e name ⟨inner, l.body⟩ data

/-- The templates that a rendering by an engine uses: the one it is asked for and all
    that are included. -/
def used (id : EngineId) (name : Value) (data : Bindings) (w : World) :
    List Template.Program :=
  ((renderWatched id name data).perform (w, [])).2.2

open Template (Watches Promises) in
/-- Noting what is used makes no difference. -/
theorem renderWatched_watches (id : EngineId) (name : Value) (data : Bindings) :
    Watches (render id name data) (renderWatched id name data) := by
  refine (Watches.beside _).bind fun r => (Watches.beside _).bind fun e =>
    (Watches.beside _).bind fun _ => ?_
  rw [← pure_bind (⟨r.1, r.2.body⟩ : Template.Program) fun p =>
    tryCatch (Template.render (renderer id e) p data) (reportRendering name)]
  refine (Watches.noted _).bind fun p => ?_
  exact (Template.watched_perform (renderer id e) p data).tryCatch fun f => Watches.beside _

/-! ## Where the templates come from -/

section

variable {c : Config} {x : Extensions} {tr : Translations} {id : EngineId} {base : Files}

/-- An engine is at work on the files, its memory is right, and every template on the list
    is what its file holds. -/
structure ReadFrom (c : Config) (x : Extensions) (tr : Translations) (id : EngineId)
    (base : Files) (s : World × List Template.Program) : Prop where
  running : Running c x tr id s.1
  agree : Agree base s.1.files
  current : ∀ n, Current c x id s.1 n
  read : ∀ p ∈ s.2, readAnew c x base p.name = .ok p.body

/-- An action notes only templates that their files hold. -/
def NotesFiles (c : Config) (x : Extensions) (tr : Translations) (id : EngineId)
    (base : Files) {α : Type} (a : Stateful (World × List Template.Program) α) : Prop :=
  ∀ s, ReadFrom c x tr id base s → ReadFrom c x tr id base (a.perform s).2

namespace NotesFiles

variable {α β : Type} {a : Stateful (World × List Template.Program) α}

theorem bind {f : α → Stateful (World × List Template.Program) β}
    (ha : NotesFiles c x tr id base a) (hf : ∀ y, NotesFiles c x tr id base (f y)) :
    NotesFiles c x tr id base (a >>= f) := by
  intro s hs
  have hmid := ha s hs
  rw [Stateful.perform_bind]
  rcases h : a.perform s with ⟨_ | y, s'⟩
  · rw [h] at hmid
    exact hmid
  · rw [h] at hmid
    exact hf y s' hmid

theorem tryCatch {f : Fault → Stateful (World × List Template.Program) α}
    (ha : NotesFiles c x tr id base a) (hf : ∀ e, NotesFiles c x tr id base (f e)) :
    NotesFiles c x tr id base (MonadExcept.tryCatch a f) := by
  intro s hs
  have hmid := ha s hs
  rw [Stateful.perform_tryCatch]
  rcases h : a.perform s with ⟨e | y, s'⟩
  · rw [h] at hmid
    exact hf e s' hmid
  · rw [h] at hmid
    exact hmid

/-- Noting only what files hold as a relation that rendering keeps. -/
def relation (c : Config) (x : Extensions) (tr : Translations) (id : EngineId)
    (base : Files) : Template.Relation (Stateful (World × List Template.Program))
      (Stateful (World × List Template.Program)) where
  holds a _ := NotesFiles c x tr id base a
  pure _ _ hs := hs
  bind := bind
  throw _ _ hs := hs
  tryCatch := tryCatch

/-- Work of the engine that is not noted. -/
theorem beside {α β : Type} {φ : α → β} {a : Act α} {b : Stateful (List String) β}
    (h : Simulates c x tr id base φ a b) : NotesFiles c x tr id base (Stateful.beside a) := by
  intro s hs
  have hwork := h.worked s.1 hs.running
  exact ⟨hwork.running hs.running, hs.agree.trans hwork.agree,
    fun n => hwork.current hs.running (hs.current n), hs.read⟩

/-- A template is noted that reading anew gives as well. -/
theorem noted {a : Act Template.Program} {b : Stateful (List String) Template.Program}
    (h : Simulates c x tr id base (fun y => y) a b)
    (hread : ∀ p, (b.perform []).1 = .ok p → readAnew c x base p.name = .ok p.body) :
    NotesFiles c x tr id base (Template.noted a) := by
  intro s hs
  have hafter := NotesFiles.beside h s hs
  have hresult := h.result s.1 [] hs.running hs.agree fun n _ => hs.current n
  rw [Template.noted, Stateful.perform_bind]
  rw [Stateful.perform_beside] at hafter ⊢
  rcases ha : a.perform s.1 with ⟨f | p, w⟩
  · rw [ha] at hafter
    exact hafter
  · rw [ha] at hafter hresult
    exact ⟨hafter.running, hafter.agree, hafter.current,
      List.forall_mem_cons.mpr ⟨hread p hresult.symm, hafter.read⟩⟩

/-- A template that its file holds is noted, and whatever it includes as its file holds it. -/
theorem renderNoted {e : Engine} (hc : e.config = c) (hx : e.extensions = x)
    (htr : e.translations = tr) (name : Value) {q : Template.Program}
    (hq : readAnew c x base q.name = .ok q.body) (data : Bindings) :
    NotesFiles c x tr id base (renderNoted id e name q data) := by
  have hloads (n : String) : NotesFiles c x tr id base
      ((Template.watched (renderer id e)).load n) := by
    refine noted ((renderer_simulates hc hx htr).load n) fun p hp => ?_
    obtain ⟨body, s, hreach, hs⟩ := Stateful.exists_of_perform_bind (Prod.ext hp rfl)
    rw [reach_perform] at hreach
    obtain rfl : ⟨n, body⟩ = p := Except.ok.inj (congrArg Prod.fst hs)
    exact congrArg Prod.fst hreach
  refine (noted (Simulates.pure _ q) fun p hp => ?_).bind fun p => ?_
  · obtain rfl : q = p := Except.ok.inj hp
    exact hq
  · have hrender := Template.Relation.render (R := relation c x tr id base)
      ⟨hloads, rfl, rfl, rfl, rfl⟩ p data
    exact tryCatch hrender fun f => beside (reportRendering_simulates name f)

end NotesFiles

/-- What is loaded by name is what the file of its inner name holds. -/
theorem readAnew_of_loadAnew {name : Value} {s : List String} {r : String × List Template.Stmt}
    (h : ((loadAnew c x base name).perform s).1 = .ok r) :
    readAnew c x base r.1 = .ok r.2 := by
  obtain ⟨inner, s₁, -, h⟩ := Stateful.exists_of_perform_bind (Prod.ext h rfl)
  obtain ⟨body, s₂, hbody, h⟩ := Stateful.exists_of_perform_bind h
  obtain rfl : (inner.2, body) = r := Except.ok.inj (congrArg Prod.fst h)
  rw [Stateful.perform_tryCatch, reach_perform] at hbody
  cases hread : readAnew c x base inner.2 with
  | ok body' =>
      rw [hread] at hbody
      exact congrArg Prod.fst hbody
  | error f =>
      rw [hread] at hbody
      exact nomatch congrArg Prod.fst hbody

/-- An engine whose memory is right uses the templates that the files hold. -/
theorem used_readAnew {w : World} (hw : Running c x tr id w) (hcur : ∀ n, Current c x id w n)
    (name : Value) (data : Bindings) :
    ∀ p ∈ used id name data w, readAnew c x w.files p.name = .ok p.body := by
  have hstart : ReadFrom c x tr id w.files (w, []) := ⟨hw, fun _ _ => rfl, hcur, nofun⟩
  have hload := NotesFiles.beside (load_simulates name) (w, []) hstart
  have hsame := (load_simulates name).result w [] hw (fun _ _ => rfl) fun n _ => hcur n
  rw [used, renderWatched, Stateful.perform_bind]
  rw [Stateful.perform_beside] at hload ⊢
  rcases h : (load id name).perform w with ⟨f | r, w'⟩
  · exact nofun
  · rw [h] at hload hsame
    have hread := readAnew_of_loadAnew (r := (r.1, r.2.body)) hsame.symm
    obtain ⟨e, hid, he, htr⟩ := hload.running.engine
    have hfind : (Stateful.beside (find id)).perform (w', ([] : List Template.Program)) =
        (.ok e, w', []) := by
      rw [Stateful.perform_beside, find_perform hid]
    simp only
    rw [Stateful.perform_bind_ok hfind]
    refine (NotesFiles.bind (c := c) (x := x) ?_ (fun _ => ?_) _ hload).read
    · exact NotesFiles.beside (Simulates.log _ _ _ _)
    · exact NotesFiles.renderNoted (q := ⟨r.1, r.2.body⟩) he.config he.extensions htr name
        hread data

end

open Template (Program Promises) in
/-- Once the template is at hand, what it gives is inert. -/
theorem renderNoted_promises (id : EngineId) {e : Engine} (htr : e.translations.Inert)
    (name : Value) {data : Bindings} (hdata : data.Clean) (q : Program) :
    Promises Program.Clean (renderNoted id e name q data) Inert := by
  have hglobals := e.extensions.globals_clean
  have hrenderer : (Template.watched (renderer id e)).Clean :=
    ⟨htr, hglobals, fun n => Promises.noted _⟩
  refine (Promises.noted _).bind fun p => Promises.tryCatch ?_ fun f => ?_
  · exact (Template.renderAt_promises hrenderer _ p _).mono fun text htext hp =>
      htext hp (Bindings.update_clean hglobals hdata)
  · -- A fault of rendering stays a fault.
    refine ⟨fun _ => List.Subset.refl _, fun s x hx _ _ => ?_⟩
    rw [Stateful.perform_beside, reportRendering] at hx
    split at hx
    · cases hx
    · cases hx

/-- What an engine renders is inert if every template it uses was compiled from a source
    whose literal text is inert and which declares nothing to be markup, none of them binds
    the functions that blocks give more than a message, and the texts of its catalogs are
    inert. Data has no part in it: all that is asked is that what comes in as markup already
    is inert, and that it leaves these functions what they are. -/
theorem render_inert {id : EngineId} {name : Value} {data : Bindings} {w : World}
    {text : String} (hcatalogs : ∀ e, w.engine? id = some e → e.translations.Inert)
    (hdata : data.Clean) (hused : ∀ p ∈ used id name data w, p.FromClean)
    (hbound : ∀ p ∈ used id name data w, Template.Faithful (Template.boundBy p.body))
    (h : ((render id name data).perform w).1 = .ok text) : Inert text := by
  rw [← (renderWatched_watches id name data (w, [])).1] at h
  rw [used] at hused hbound
  rcases hrun : (renderWatched id name data).perform (w, []) with ⟨result, s⟩
  rw [hrun] at h hused hbound
  obtain rfl : result = .ok text := h
  -- The rendering succeeded, so the steps before the last one did.
  obtain ⟨r, s₁, hload, hrun⟩ := Stateful.exists_of_perform_bind hrun
  obtain ⟨e, s₂, hfind, hrun⟩ := Stateful.exists_of_perform_bind hrun
  obtain ⟨-, s₃, -, hrun⟩ := Stateful.exists_of_perform_bind hrun
  rw [Stateful.perform_beside] at hload hfind
  have hafter : ((load id name).perform w).2 = s₁.1 := congrArg (fun o => o.2.1) hload
  have hengine : ((load id name).perform w).2.engine? id = some e :=
    hafter ▸ engine?_of_find (congrArg Prod.fst hfind)
  have htr := (load_keepsMade id name).translations_inert hcatalogs hengine
  have hpromise := (renderNoted_promises id htr name hdata ⟨r.1, r.2.body⟩).result s₃ text
  rw [hrun] at hpromise
  exact hpromise rfl fun p hp => (hused p hp).clean (hbound p hp)

/-- A template whose file is a clean source was compiled from it. -/
theorem fromClean_of_file {c : Config} {x : Extensions} {t : Files} {p : Template.Program}
    {content : Content} {m : Nat} {source : List Char}
    (hfile : fileOf? c t p.name = some (content, m)) (hchars : content.chars = .ok source)
    (hsource : Template.CleanSource x.tags source)
    (hread : readAnew c x t p.name = .ok p.body) : p.FromClean := by
  rw [readAnew_of_fileOf? hfile, compiled, hchars] at hread
  exact ⟨⟨c.isStrict, p.name, x.tags⟩, source, hread, hsource⟩

/-- An engine that was just made for some texts uses templates that were compiled from clean
    sources if all of them are clean sources. -/
theorem used_fromClean {entries : List (String × String)} {x : Extensions} {tr : Translations}
    {w : World} {name : Value} {data : Bindings}
    (hw : Running .default x tr 0 w) (hcur : ∀ n, Current .default x 0 w n)
    (hfiles : ∀ e ∈ entries, fileOf? .default w.files e.1 = some (.text e.2, 10))
    (hclean : ∀ e ∈ entries, Template.CleanSource x.tags (Text.unifyNewlines e.2.toList))
    (hnames : ∀ p ∈ used 0 name data w, p.name ∈ entries.map (·.1)) :
    ∀ p ∈ used 0 name data w, p.FromClean := by
  intro p hp
  obtain ⟨e, he, hname⟩ := List.mem_map.mp (hnames p hp)
  exact fromClean_of_file (hname ▸ hfiles e he) rfl (hclean e he)
    (used_readAnew hw hcur name data p hp)

/-- A template that includes another, which translates what it is given. -/
def greetingSource : String :=
  "Dear \x7b\x7b user \x7d\x7d, " ++ including "note.j2"

def noteSource : String :=
  "\x7b% trans %\x7dHello \x7b\x7b user \x7d\x7d\x7b% endtrans %\x7d" ++
    "\x7b\x7b user|trans ~ \"'\" \x7d\x7d"

/-- A template that prints what it is given. -/
def printingSource : String := "\x7b\x7b user \x7d\x7d"

/-- A template that has its loop pick the text of a block that counts: the message for one,
    the message for more, and what is counted. -/
def pickingSource : String :=
  "\x7b% for i in [1, 2, 3] %\x7d\x7b% set ngettext = loop.cycle %\x7d" ++
    "\x7b% trans n=user %\x7done\x7b% pluralize %\x7dmany\x7b% endtrans %\x7d\x7b% endfor %\x7d"

/-- The sources, each under the name of its template. -/
def politeSources : List (String × String) :=
  [("greeting.j2", greetingSource), ("note.j2", noteSource), ("printing.j2", printingSource),
    ("picking.j2", pickingSource)]

/-- The files of the templates. -/
def politeFiles : World :=
  .ofFiles (textFiles (politeSources.map fun e => ("templates/" ++ e.1, e.2)) 10) 0 ""
    ⟨.here, []⟩

def greetingCatalog : Catalog :=
  { singular := [("Hello %(user)s", "Salut %(user)s")], plural := [] }

/-- An engine with a catalog was made for them. -/
def polite : World := ((create .default none (some [greetingCatalog])).perform politeFiles).2

def politeEngine : Engine :=
  ⟨.default, ⟨true, false⟩, [greetingCatalog], some Config.default.cacheDir, []⟩

theorem polite_made :
    (create .default none (some [greetingCatalog])).perform politeFiles = (.ok 0, polite) := by
  have hid : ((create .default none (some [greetingCatalog])).perform politeFiles).1 = .ok 0 := by
    decide +kernel
  rw [polite, ← hid]

theorem polite_engine : polite.engine? 0 = some politeEngine := rfl

theorem polite_inert : ∀ e, polite.engine? 0 = some e → e.translations.Inert := by
  intro e he
  obtain rfl := Option.some.inj (polite_engine.symm.trans he)
  exact ⟨by decide, by decide, by decide⟩

/-- Whatever is rendered there is compiled from clean sources. -/
theorem polite_fromClean {name : Value} {data : Bindings}
    (hnames : ∀ p ∈ used 0 name data polite, p.name ∈ politeSources.map (·.1)) :
    ∀ p ∈ used 0 name data polite, p.FromClean := by
  have htidy : Files.Tidy politeFiles.files := (textFiles_edit _ _).tidy
  have hnothing : NothingKept .default politeFiles.files := textFiles_nothingKept _ _ _
  have hsound := hnothing.sound htidy ⟨true, false⟩
  refine used_fromClean ((created_of_create polite_made polite_engine).running hsound) ?_
    (by decide +kernel) (by decide +kernel) hnames
  intro n e l content he hl
  obtain rfl := Option.some.inj (polite_engine.symm.trans he)
  cases hl

/-- What the user is called is escaped, in both templates and in the translation. -/
theorem render_inert_greeting :
    ((render 0 (.text "greeting") [("user", .text "<b>")]).perform polite).1 =
        .ok "Dear &lt;b&gt;, Salut &lt;b&gt;&lt;b&gt;&#39;" ∧
      Inert "Dear &lt;b&gt;, Salut &lt;b&gt;&lt;b&gt;&#39;" := by
  have hresult : ((render 0 (.text "greeting") [("user", .text "<b>")]).perform polite).1 =
      .ok "Dear &lt;b&gt;, Salut &lt;b&gt;&lt;b&gt;&#39;" := by decide +kernel
  have hdata : Bindings.Clean [("user", .text "<b>")] :=
    List.forall_mem_singleton.mpr (Value.clean_text.as (by decide))
  exact ⟨hresult, render_inert polite_inert hdata (polite_fromClean (by decide +kernel))
    (by decide +kernel) hresult⟩

/-- Without these conditions data has a part in it. What comes in as markup is printed as it
    is, and a block that counts prints the count as it is where its function is the one of a
    loop, though neither template has anything harmful in its text or declares it to be
    markup. -/
theorem not_inert_whatever_bound :
    ((∀ p ∈ used 0 (.text "printing") [("user", .markup "<b>")] polite, p.FromClean) ∧
      ((render 0 (.text "printing") [("user", .markup "<b>")]).perform polite).1 = .ok "<b>") ∧
    ((∀ p ∈ used 0 (.text "picking") [("user", .text "<b>")] polite, p.FromClean) ∧
      ((render 0 (.text "picking") [("user", .text "<b>")]).perform polite).1 =
        .ok "onemany<b>") ∧
    ¬ Inert "<b>" ∧ ¬ Inert "onemany<b>" := by
  refine ⟨⟨polite_fromClean (by decide +kernel), by decide +kernel⟩,
    ⟨polite_fromClean (by decide +kernel), by decide +kernel⟩, by decide, by decide⟩

end Engine

end Stencil
