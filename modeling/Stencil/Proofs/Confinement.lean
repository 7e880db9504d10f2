import Stencil.Proofs.Ownership
import Stencil.Proofs.Staging

/-!
# Names stay under the root

A name is meant to stand for something under the root, or to be refused. This holds of
every name that has segments, as long as the extensions can be put behind the last of
them. A name without segments stands for the root itself, and its candidates lie beside
the root and not under it.

That nothing outside the root is looked at is said by comparing two worlds. They are
alike if they differ in their files only, and neither inside the root nor in the
directory of compiled templates, which is where engines look of their own accord. What
depends on a confined name is the same in both. For rendering this is one more relation
that ways of putting actions together keep, and inclusions keep it because no segment of
theirs leads upwards.

## Main definitions

* `Path.Inside`: A path is a root, or a root followed by segments.
* `Confined`: A name is refused, or both its candidates lie under the root.
* `Files.SameInside`: Two trees are the same inside a root.
* `Engine.Alike`: Two worlds are the same as far as an engine may look.
* `Engine.SameOn`: Actions that do the same in worlds that are alike.
* `LooksInside`: What depends on a name looks inside the root only.

## Theorems

* `confined_iff`: Which names are confined.
* `Engine.fetch_sameOn`: Inclusions are loaded from inside the root.
* `Engine.render_sameOn`: So rendering looks inside the root only.
* `Confined.looksInside`: And so does all that depends on a confined name.
* `name_confined`: Which names are confined, what becomes of the others, and where the
  confined ones make the library look.
* `not_confined_dot`: Not every name is confined.
-/

namespace Stencil

/-- A path is a root, or a root followed by segments, none a double dot. -/
def Path.Inside (p root : Path) : Prop :=
  ∃ segs, ".." ∉ segs ∧ p = ⟨root.anchor, root.parts ++ segs⟩

theorem Path.Under.inside {p root : Path} (h : p.Under root) : p.Inside root := by
  rcases h with ⟨segs, -, hdots, hp⟩
  exact ⟨segs, hdots, hp⟩

/-- A name is refused as no template, or both its candidates lie under the root. -/
def Confined (c : Config) (name : String) : Prop :=
  (∃ f, Resolution.candidates c.templateRoot (.text name) c.extensions = .error f ∧
    f.kind = "TemplateNotFoundError") ∨
  ∃ a b, Resolution.candidates c.templateRoot (.text name) c.extensions = .ok (a, b) ∧
    a.path.Under c.templateRoot ∧ b.path.Under c.templateRoot

variable {c : Config} {name : String}

theorem Path.withName_error {p : Path} {n : String} {f : Fault} (h : p.withName n = .error f) :
    f.kind = "ValueError" := by
  rw [withName] at h
  split at h
  · cases h
    rfl
  · simp only at h
    split at h
    · cases h
      rfl
    · cases h

/-- A name that is not refused can only fail when the extensions are put behind it. -/
theorem Resolution.candidates_error {root : Path} {ext : Extensions} {f : Fault}
    (hname : ¬Refused name) (h : candidates root (.text name) ext = .error f) :
    f.kind = "ValueError" := by
  rw [candidates_accepted root ext hname] at h
  simp only [bind, Except.bind, pure, Except.pure] at h
  split at h
  · rename_i hcompiled
    cases h
    exact Path.withName_error hcompiled
  · split at h
    · rename_i hraw
      cases h
      exact Path.withName_error hraw
    · cases h

/-- No segment of a name that is not refused leads upwards, with or without the extension. -/
theorem dots_not_mem_of_segments (hname : ¬Refused name) {pre : List String} {n ext : String}
    (hsegments : nameSegments name = pre ++ [n]) (hext : ext.toList.head? = some '.') :
    ".." ∉ pre ++ [n ++ ext] := by
  have hn : Path.IsSegment n := Resolution.isSegment_of_mem_nameSegments
    (hsegments ▸ List.mem_append_right _ (List.mem_singleton_self n))
  intro hdots
  -- A double dot would be a segment of the name, which is refused, or the last one with its
  -- extension.
  rcases List.mem_append.mp hdots with hdots | hdots
  · refine hname (Or.inr (Or.inr ?_))
    rw [hsegments]
    exact List.mem_append_left _ hdots
  · exact Path.ne_dots_of_append hn hext (List.mem_singleton.mp hdots).symm

theorem under_of_segments (hname : ¬Refused name) {pre : List String} {n ext : String}
    (hsegments : nameSegments name = pre ++ [n]) (hext : ext.toList.head? = some '.') :
    (⟨c.templateRoot.anchor, c.templateRoot.parts ++ (pre ++ [n ++ ext])⟩ : Path).Under
      c.templateRoot :=
  ⟨_, by simp, dots_not_mem_of_segments hname hsegments hext, rfl⟩

/-- A path under the root has more parts than the root. -/
theorem not_under_of_length {p root : Path} (h : p.parts.length = root.parts.length) :
    ¬p.Under root := by
  rintro ⟨segs, hne, -, hp⟩
  rw [hp, List.length_append] at h
  have hpos := List.length_pos_iff.mpr hne
  omega

/-- A name is confined exactly if it is refused, or has segments and the extensions can be
    put behind them. -/
theorem confined_iff (hc : c.Sound) : Confined c name ↔
    Refused name ∨ nameSegments name ≠ [] ∧
      Attachable c.compiledExtension ∧ Attachable c.rawExtension := by
  constructor
  · rintro (⟨f, hf, hkind⟩ | ⟨a, b, hcs, ha, hb⟩)
    · left
      -- Only names that are refused fail as missing templates do.
      by_contra hname
      rw [Resolution.candidates_error hname hf] at hkind
      exact absurd hkind (by decide)
    · right
      rcases (hc.candidates_cases hcs).2 with ⟨-, hlen, -⟩ | ⟨pre, n, hname, hca, hra, -, -⟩
      · exact absurd ha (not_under_of_length hlen)
      · exact ⟨by rw [hname]; simp, hca, hra⟩
  · intro h
    by_cases hname : Refused name
    · exact Or.inl (Resolution.candidates_refused c.templateRoot c.extensions hname)
    · rcases h.resolve_left hname with ⟨hne, hca, hra⟩
      -- There is a last segment, and both extensions can be put behind it.
      rcases (List.eq_nil_or_concat' (nameSegments name)).resolve_left hne with
        ⟨pre, n, hsegments⟩
      have hcs : Resolution.candidates c.templateRoot (.text name) c.extensions = _ :=
        Resolution.candidates_of_segments hname hsegments hc.compiled hc.raw
      exact Or.inr ⟨_, _, hcs.trans ((if_pos hca).trans (if_pos hra)),
        under_of_segments hname hsegments hc.compiled,
        under_of_segments hname hsegments hc.raw⟩

/-- Two trees are the same inside a root. -/
def Files.SameInside (root : Path) (t t' : Files) : Prop :=
  ∀ p : Path, p.Inside root → t.stat p = t'.stat p

namespace Files

variable {root p : Path} {t t' : Files}

theorem SameInside.isFile (h : SameInside root t t') (hp : p.Inside root) :
    t.isFile p = t'.isFile p := by
  rw [Files.isFile, Files.isFile, asks, asks, h p hp]

theorem SameInside.file? (h : SameInside root t t') (hp : p.Inside root) :
    t.file? p = t'.file? p := by
  rw [Files.file?, Files.file?, h p hp]

theorem SameInside.contentAt (h : SameInside root t t') (hp : p.Inside root) :
    t.contentAt p = t'.contentAt p := by
  rw [Files.contentAt, Files.contentAt, h p hp]

end Files

/-- The owner of a confined name depends on the files inside the root only. -/
theorem Confined.owner (hconfined : Confined c name) {t t' : Files}
    (h : Files.SameInside c.templateRoot t t') :
    Resolution.owner t c.templateRoot (.text name) c.extensions =
      Resolution.owner t' c.templateRoot (.text name) c.extensions := by
  rw [Resolution.owner, Resolution.owner]
  rcases hconfined with ⟨f, hf, -⟩ | ⟨a, b, hcs, ha, hb⟩
  · rw [hf]
  · rw [hcs]
    simp only [Resolution.owner?, h.isFile ha.inside, h.isFile hb.inside]

/-- The owner of a confined name lies under the root. -/
theorem Confined.under (hconfined : Confined c name) {t : Files} {r : Resolution}
    (h : Resolution.owner t c.templateRoot (.text name) c.extensions = .ok r) :
    r.path.Under c.templateRoot := by
  rcases Resolution.owner_eq_ok_iff.mp h with ⟨cs, hcs, howner⟩
  rcases hconfined with ⟨f, hf, -⟩ | ⟨a, b, hcs', ha, hb⟩
  · rw [hf] at hcs
    cases hcs
  · obtain rfl := Except.ok.inj (hcs'.symm.trans hcs)
    rcases Resolution.owner?_eq_some_iff.mp howner with ⟨-, rfl⟩ | ⟨-, -, rfl⟩
    · exact ha
    · exact hb

/-- So does the answer of the command line. -/
theorem Confined.answer (hconfined : Confined c name) (host : Host) {t t' : Files}
    (h : Files.SameInside c.templateRoot t t') :
    Command.answer host t c name = Command.answer host t' c name := by
  rw [Command.answer, Command.answer]
  rcases hconfined with ⟨f, hf, -⟩ | ⟨a, b, hcs, ha, hb⟩
  · rw [hf]
  · rw [hcs]
    simp only [h.isFile ha.inside, h.isFile hb.inside]

namespace Engine

open Files (Agree Reachable)

/-- Two trees are the same as far as the directory of compiled templates goes. -/
structure SameStore (store : Option Path) (t t' : Files) : Prop where
  stat : ∀ dir, store = some dir → t.stat dir = t'.stat dir
  locate : ∀ dir, store = some dir → t.locate dir = t'.locate dir
  kept : ∀ dir l name file, store = some dir → t.locate dir = .ok l →
    t.node? (l ++ [storedName name file]) = t'.node? (l ++ [storedName name file])

/-- Two worlds differ in their files only, and there neither inside the root of an engine
    nor in its directory of compiled templates. -/
structure Alike (c : Config) (store : Option Path) (id : EngineId) (w w' : World) : Prop where
  world : w' = { w with files := w'.files }
  inside : Files.SameInside c.templateRoot w.files w'.files
  kept : SameStore store w.files w'.files
  engine : ∃ e, w.engine? id = some e ∧ e.config = c ∧ e.store = store

variable {c : Config} {store : Option Path} {id : EngineId} {w w' : World} {t t' : Files}

theorem SameStore.storedAt? (h : SameStore store t t') (name file : String) :
    storedAt? t store name file = storedAt? t' store name file := by
  cases hstore : store with
  | none => rfl
  | some dir =>
      simp only [Engine.storedAt?, Option.bind_eq_bind, Option.bind_some, h.locate dir hstore]

theorem SameStore.stored? (h : SameStore store t t') (name file text : String) :
    stored? t store name file text = stored? t' store name file text := by
  simp only [Engine.stored?, h.storedAt? name file]
  cases hat : Engine.storedAt? t' store name file with
  | none => rfl
  | some k =>
      have hkept : t.node? k = t'.node? k := by
        -- What is looked up is kept in the directory, where both trees are the same.
        rw [← h.storedAt?] at hat
        rcases Option.bind_eq_some_iff.mp hat with ⟨dir, hstore, hat⟩
        cases hl : t.locate dir with
        | error r =>
            rw [hl] at hat
            cases hat
        | ok l =>
            rw [hl] at hat
            obtain rfl := Option.some.inj hat
            exact h.kept dir l name file hstore hl
      simp only [Option.bind_eq_bind, Option.bind_some, hkept]

theorem node?_put_congr {k l : Location} (h : t.node? k = t'.node? k) (n : Node) :
    (t.put l n).node? k = (t'.put l n).node? k := by
  by_cases hk : k = l
  · subst hk
    simp [Files.node?, Files.put]
  · rw [Files.node?_put_of_ne n hk, Files.node?_put_of_ne n hk, h]

/-- Keeping the same in both leaves them the same, and paths do not see it. -/
theorem SameStore.put (h : SameStore store t t') (l : Location) (name file : String) (n : Node) :
    SameStore store (t.put (l ++ [storedName name file]) n)
      (t'.put (l ++ [storedName name file]) n) := by
  -- What is put there is not seen by paths, so the directory stays where it is.
  have hagree := Files.put_agree t n (not_reachable_stored l name file)
  have hagree' := Files.put_agree t' n (not_reachable_stored l name file)
  refine ⟨fun dir hdir => ?_, fun dir hdir => ?_, fun dir k name' file' hdir hk => ?_⟩
  · rw [Files.agree_stat hagree, Files.agree_stat hagree', h.stat dir hdir]
  · rw [Files.agree_locate hagree, Files.agree_locate hagree', h.locate dir hdir]
  · rw [Files.agree_locate hagree] at hk
    exact node?_put_congr (h.kept dir k name' file' hdir hk) n

/-- What two actions do in worlds that are alike is alike. -/
def SameOn (c : Config) (store : Option Path) (id : EngineId) {α : Type} (a b : Act α) : Prop :=
  ∀ w w', Alike c store id w w' → (a.perform w).1 = (b.perform w').1 ∧
    Alike c store id (a.perform w).2 (b.perform w').2

/-- Doing the same in worlds that are alike, as a relation that rendering keeps. -/
def sameOn (c : Config) (store : Option Path) (id : EngineId) : Template.Relation Act Act where
  holds := SameOn c store id
  pure _ := fun _ _ h => ⟨rfl, h⟩
  throw _ := fun _ _ h => ⟨rfl, h⟩
  bind := by
    intro α β a b f g hab hfg w w' h
    have hpart := hab w w' h
    rw [Stateful.perform_bind, Stateful.perform_bind]
    rcases ha : a.perform w with ⟨r, w₁⟩
    rcases hb : b.perform w' with ⟨r', w₁'⟩
    rw [ha, hb] at hpart
    rcases hpart with ⟨rfl, hnext⟩
    cases r with
    | error e => exact ⟨rfl, hnext⟩
    | ok y => exact hfg y w₁ w₁' hnext
  tryCatch := by
    intro α a b f g hab hfg w w' h
    have hpart := hab w w' h
    rw [Stateful.perform_tryCatch, Stateful.perform_tryCatch]
    rcases ha : a.perform w with ⟨r, w₁⟩
    rcases hb : b.perform w' with ⟨r', w₁'⟩
    rw [ha, hb] at hpart
    rcases hpart with ⟨rfl, hnext⟩
    cases r with
    | error e => exact hfg e w₁ w₁' hnext
    | ok y => exact ⟨rfl, hnext⟩

namespace SameOn

variable {α β : Type}

theorem log (level : Level) (source name : String) (fields : Bindings) :
    SameOn c store id (Act.log level source name fields) (Act.log level source name fields) := by
  intro w w' h
  refine ⟨rfl, ?_, h.inside, h.kept, h.engine⟩
  rw [Act.perform_log, Act.perform_log, h.world]
  rfl

theorem ofExcept (r : Except Fault α) :
    SameOn c store id (Act.ofExcept r) (Act.ofExcept r) := by
  intro w w' h
  rw [Act.perform_ofExcept, Act.perform_ofExcept]
  exact ⟨rfl, h⟩

/-- What is asked of the files may be the same although the files are not. -/
theorem get {k k' : World → Act α}
    (h : ∀ w w', Alike c store id w w' → SameOn c store id (k w) (k' w')) :
    SameOn c store id (MonadState.get >>= k) (MonadState.get >>= k') := by
  intro w w' hw
  rw [Stateful.perform_bind_ok (Stateful.perform_get w),
    Stateful.perform_bind_ok (Stateful.perform_get w')]
  exact h w w' hw w w' hw

theorem find {k k' : Engine → Act α}
    (h : ∀ e, e.config = c → e.store = store → SameOn c store id (k e) (k' e)) :
    SameOn c store id (Engine.find id >>= k) (Engine.find id >>= k') := by
  intro w w' hw
  rcases hw.engine with ⟨e, hid, hc, hstore⟩
  have hid' : w'.engine? id = some e := by
    rw [hw.world]
    exact hid
  rw [Stateful.perform_bind_ok (find_perform hid), Stateful.perform_bind_ok (find_perform hid')]
  exact h e hc hstore w w' hw

end SameOn

/-- Keeping a compiled template. -/
theorem keepStored_sameOn (name file text : String) (body : List Template.Stmt) :
    SameOn c store id (keepStored store name file text body)
      (keepStored store name file text body) := by
  intro w w' h
  -- Both worlds hold the same under the kept names and under the names that are looked up, and so
  -- keeping asks and writes the same.
  cases hstore : store with
  | none =>
      subst hstore
      exact ⟨rfl, h⟩
  | some dir =>
      subst hstore
      have hdir : w.files.isDirectory dir = w'.files.isDirectory dir := by
        rw [Files.isDirectory, Files.isDirectory, Files.asks, Files.asks, h.kept.stat dir rfl]
      rw [keepStored, Stateful.perform_bind_ok (Stateful.perform_get w),
        Stateful.perform_bind_ok (Stateful.perform_get w'), h.kept.storedAt? name file, hdir]
      cases hk : storedAt? w'.files (some dir) name file with
      | none => exact ⟨rfl, h⟩
      | some k =>
          rcases w'.files.isDirectory dir with f | (- | -)
          · exact ⟨rfl, h⟩
          · exact ⟨rfl, h⟩
          · -- What is kept has a name that no path can use.
            have hput : ∃ l, k = l ++ [storedName name file] := by
              cases hl : w'.files.locate dir with
              | error r =>
                  simp [storedAt?, hl] at hk
              | ok l =>
                  simp only [storedAt?, hl, Option.bind_eq_bind, Option.bind_some,
                    Option.some.injEq] at hk
                  exact ⟨l, hk.symm⟩
            rcases hput with ⟨l, rfl⟩
            have hclock : w'.clock = w.clock := by rw [h.world]
            refine ⟨rfl, ?_, fun p hp => ?_, ?_, h.engine⟩
            · show { w' with files := _ } = { w with files := _ }
              rw [h.world]
              rfl
            · show (w.files.put _ _).stat p = (w'.files.put _ _).stat p
              rw [Files.agree_stat (Files.put_agree _ _ (not_reachable_stored l name file)),
                Files.agree_stat (Files.put_agree _ _ (not_reachable_stored l name file)),
                h.inside p hp]
            · show SameStore _ (w.files.put _ _) (w'.files.put _ _)
              rw [hclock]
              exact h.kept.put l name file _

/-- Keeping a template in memory. -/
theorem keepLoaded_sameOn (name : String) (body : List Template.Stmt) (modified : Nat) :
    SameOn c store id (keepLoaded id name body modified) (keepLoaded id name body modified) := by
  intro w w' h
  rcases h.engine with ⟨e, hid, hc, hstore⟩
  -- Remembering goes by the engine and the number of loads, and leaves the files alone.
  have hw := keepLoaded_perform hid w.files name body modified
  have hw' := keepLoaded_perform hid w'.files name body modified
  rw [← h.world] at hw'
  change (keepLoaded id name body modified).perform w = _ at hw
  rw [hw, hw']
  refine ⟨rfl, rfl, h.inside, h.kept, { e with
    memory := Memory.keep e.memory name ⟨body, modified, w.loads⟩ }, ?_, hc, hstore⟩
  exact List.getElem?_set_self (List.getElem?_eq_some_iff.mp hid).1

theorem statements_sameOn {e : Engine} (hstore : e.store = store) (name file : String)
    (chars : List Char) :
    SameOn c store id (statements e name file chars) (statements e name file chars) := by
  unfold statements
  refine .get fun w w' h => ?_
  rw [hstore, h.kept.stored?]
  cases stored? w'.files store name file (String.ofList chars) with
  | some body => exact (sameOn c store id).pure body
  | none =>
      refine (sameOn c store id).bind (.ofExcept _) fun body => ?_
      exact (sameOn c store id).bind (keepStored_sameOn _ _ _ body) fun _ =>
        (sameOn c store id).pure body

theorem loadContent_sameOn {e : Engine} (hstore : e.store = store) (name : String) (path : Path)
    (content : Content) (modified : Nat) :
    SameOn c store id (loadContent id e name path content modified)
      (loadContent id e name path content modified) :=
  (sameOn c store id).bind (.ofExcept _) fun chars =>
    (sameOn c store id).bind (statements_sameOn hstore name _ chars) fun body =>
      keepLoaded_sameOn name body modified

theorem includePath_inside {segments : List String}
    (hsegments : includeSegments? name = some segments) :
    (includePath c segments).Inside c.templateRoot :=
  ⟨segments, (isSegment_of_includeSegments? hsegments).2, rfl⟩

theorem loadFresh_sameOn {e : Engine} (hc : e.config = c) (hstore : e.store = store)
    (n : String) : SameOn c store id (loadFresh id e n) (loadFresh id e n) := by
  unfold loadFresh
  cases hsegments : includeSegments? n with
  | none => exact (sameOn c store id).throw _
  | some segments =>
      refine .get fun w w' h => ?_
      rw [hc, h.inside.file? (includePath_inside hsegments)]
      cases w'.files.file? (includePath c segments) with
      | none => exact (sameOn c store id).throw _
      | some file => exact loadContent_sameOn hstore n _ _ _

theorem fetch_sameOn (n : String) : SameOn c store id (fetch id n) (fetch id n) := by
  refine .find fun e hc hstore => .get fun w w' h => ?_
  -- The memory is asked for the time of the file, which lies inside the root.
  have hremembered : e.remembered? w.files n = e.remembered? w'.files n := by
    rw [remembered?, remembered?]
    cases hsegments : includeSegments? n with
    | none => rfl
    | some segments =>
        simp only [Option.bind_eq_bind, Option.bind_some]
        rw [hc, h.inside.file? (includePath_inside hsegments)]
  rw [hremembered]
  cases e.remembered? w'.files n with
  | some l => exact (sameOn c store id).pure l
  | none => exact loadFresh_sameOn hc hstore n

theorem load_sameOn (name : Value) :
    SameOn c store id (load id name) (load id name) := by
  refine .find fun e hc hstore => (sameOn c store id).bind (.ofExcept _) fun r => ?_
  refine (sameOn c store id).bind ((sameOn c store id).tryCatch (fetch_sameOn r.2) fun f => ?_)
    fun l => (sameOn c store id).pure (r.2, l)
  unfold reportLoading
  split
  · exact (sameOn c store id).throw _
  · exact (sameOn c store id).bind (.log _ _ _ _) fun _ => (sameOn c store id).throw _
  · exact (sameOn c store id).throw _

/-- Rendering is the same in worlds that are alike. -/
theorem render_sameOn (name : Value) (data : Bindings) :
    SameOn c store id (render id name data) (render id name data) := by
  refine (sameOn c store id).bind (load_sameOn name) fun r => .find fun e hc hstore => ?_
  -- Inclusions are loaded as the template itself is.
  have hrenderers : (sameOn c store id).Renderers (renderer id e) (renderer id e) := by
    refine ⟨fun n => ?_, rfl, rfl, rfl, rfl⟩
    exact (sameOn c store id).bind (fetch_sameOn n) fun l => (sameOn c store id).pure _
  refine (sameOn c store id).bind (.log _ _ _ _) fun _ => (sameOn c store id).tryCatch
    (Template.Relation.render hrenderers ⟨r.1, r.2.body⟩ data) fun f => ?_
  unfold reportRendering
  split
  · exact (sameOn c store id).bind (.log _ _ _ _) fun _ => (sameOn c store id).throw _
  · exact (sameOn c store id).throw _

end Engine

open Engine (Alike SameOn sameOn)

variable {store : Option Path} {w w' : World}

/-- Finding the owner of a confined name is the same in worlds that are alike. -/
theorem Confined.resolve_sameOn (hconfined : Confined c name) (id : EngineId) :
    SameOn c store id (Resolution.resolve c.templateRoot (.text name) c.extensions)
      (Resolution.resolve c.templateRoot (.text name) c.extensions) := by
  intro w w' h
  rw [Resolution.resolve]
  rcases hconfined with ⟨f, hf, -⟩ | ⟨a, b, hcs, ha, hb⟩
  · rw [hf]
    exact ⟨rfl, h⟩
  · rw [hcs, Stateful.perform_bind_ok (Act.perform_ofExcept _ w),
      Stateful.perform_bind_ok (Act.perform_ofExcept _ w')]
    refine SameOn.get (fun w w' h => ?_) w w' h
    have howner : Resolution.owner? w.files (a, b) = Resolution.owner? w'.files (a, b) := by
      simp only [Resolution.owner?, h.inside.isFile ha.inside, h.inside.isFile hb.inside]
    rw [howner]
    refine (sameOn c store id).bind (.ofExcept _) fun r => ?_
    cases r with
    | some r => exact (sameOn c store id).bind (.log _ _ _ _) fun _ => (sameOn c store id).pure r
    | none => exact (sameOn c store id).bind (.log _ _ _ _) fun _ => (sameOn c store id).throw _

/-- Rendering a view of a confined name that no script owns is the same in worlds that are
    alike. -/
theorem Confined.render_eq (hconfined : Confined c name) {v : View} (hname : v.name = .text name)
    (hconfig : v.config = c) (data : Bindings) (helpers : List (String × Helper))
    (h : Alike c store v.engine w w')
    (hscript : ∀ p, Resolution.owner w.files c.templateRoot (.text name) c.extensions ≠
      .ok ⟨.rawScript, p⟩) :
    ((v.render data helpers).perform ⟨v.data, v.helpers, w⟩).1 =
      ((v.render data helpers).perform ⟨v.data, v.helpers, w'⟩).1 := by
  have hresolve := hconfined.resolve_sameOn v.engine w w' h
  have howner := Resolution.resolve_result c.templateRoot (.text name) c.extensions w
  rcases hr : (Resolution.resolve c.templateRoot (.text name) c.extensions).perform w with ⟨r, w₁⟩
  rcases hr' : (Resolution.resolve c.templateRoot (.text name) c.extensions).perform w' with
    ⟨r', w₁'⟩
  rw [hr] at howner hresolve
  rw [hr'] at hresolve
  rcases hresolve with ⟨hresult, halike⟩
  obtain rfl : r = r' := hresult
  have hplay : (Play.ofAct (Resolution.resolve c.templateRoot (.text name)
      c.extensions)).perform ⟨v.data, v.helpers, w⟩ = (r, ⟨v.data, v.helpers, w₁⟩) := by
    rw [Play.perform_ofAct, hr]
  have hplay' : (Play.ofAct (Resolution.resolve c.templateRoot (.text name)
      c.extensions)).perform ⟨v.data, v.helpers, w'⟩ = (r, ⟨v.data, v.helpers, w₁'⟩) := by
    rw [Play.perform_ofAct, hr']
  rw [View.render, hname, hconfig, renderOwned]
  cases r with
  | error f => rw [Stateful.perform_bind_error hplay, Stateful.perform_bind_error hplay']
  | ok r =>
      -- No script owns the name, so a template does.
      have hkind : r.kind = .compiled := by
        rcases r with ⟨k, p⟩
        cases k with
        | compiled => rfl
        | rawScript => exact absurd howner.symm (hscript p)
      rw [Stateful.perform_bind_ok hplay, Stateful.perform_bind_ok hplay', View.setAll,
        Stateful.perform_bind_ok (Stateful.perform_modify _ _),
        Stateful.perform_bind_ok (Stateful.perform_modify _ _), hkind]
      cases hempty : helpers.isEmpty with
      | true => exact (Engine.render_sameOn (.text name) (v.data.update data) _ _ halike).1
      | false =>
          -- One more line is logged in both worlds before rendering starts.
          have hlogged := SameOn.log .debug View.source
            "call_scoped_helpers_ignored_for_compiled_template"
            [("name", .text name), ("helpers", View.sortedNames (helpers.map (·.1)))] _ _ halike
          exact (Engine.render_sameOn (.text name) (v.data.update data) _ _ hlogged.2).1

/-- Rendering from the command line renders a view of the name. -/
theorem Command.renderText_perform {r : Request} {g : Globals} {w₁ w₂ : World} {v : View}
    (hconfig : (r.config g).perform w = (.ok c, w₁))
    (hview : (View.get (.text r.name) [] [] (some c) none).perform w₁ = (.ok v, w₂))
    (data : Bindings) :
    ((renderText r g data).perform w).1 =
      ((v.render data []).perform ⟨v.data, v.helpers, w₂⟩).1 := by
  rw [renderText, Stateful.perform_bind_ok hconfig, Stateful.perform_bind_ok hview,
    Stateful.perform_bind_ok (Stateful.perform_get w₂)]
  simp only [View.play]
  rw [Stateful.perform_bind_ok (Stateful.perform_set _ _), Act.perform_ofExcept]

/-- What depends on a name depends, among the files, on those inside the root only. -/
structure LooksInside (c : Config) (name : String) : Prop where
  /-- Its owner does. -/
  resolve : ∀ w w' : World, Files.SameInside c.templateRoot w.files w'.files →
    ((Resolution.resolve c.templateRoot (.text name) c.extensions).perform w).1 =
      ((Resolution.resolve c.templateRoot (.text name) c.extensions).perform w').1
  /-- So does what the command line tells of it on one host. -/
  command : ∀ (ws : List String) (w w' : World),
    Files.SameInside c.templateRoot w.files w'.files → w.host = w'.host →
    Command.Asked ws w name c → Command.Asked ws w' name c →
    (Command.run ws w).1 = (Command.run ws w').1
  /-- So does what a view renders, apart from what is kept compiled. -/
  view : ∀ (v : View) (data : Bindings) (helpers : List (String × Helper)) (store : Option Path)
    (w w' : World), v.name = .text name → v.config = c → Alike c store v.engine w w' →
    (∀ p, ((Resolution.resolve c.templateRoot (.text name) c.extensions).perform w).1 ≠
      .ok ⟨.rawScript, p⟩) →
    ((v.render data helpers).perform ⟨v.data, v.helpers, w⟩).1 =
      ((v.render data helpers).perform ⟨v.data, v.helpers, w'⟩).1
  /-- Where it runs a script, that lies under the root, and reading it does. -/
  script : ∀ (w w' : World) (p : Path), Files.SameInside c.templateRoot w.files w'.files →
    ((Resolution.resolve c.templateRoot (.text name) c.extensions).perform w).1 =
      .ok ⟨.rawScript, p⟩ →
    p.Under c.templateRoot ∧ ScriptOwns c (.text name) p w ∧ ScriptOwns c (.text name) p w' ∧
      ((RawScript.compile p).perform w).1 = ((RawScript.compile p).perform w').1
  /-- The command line renders by rendering a view of the name. -/
  rendered : ∀ (r : Command.Request) (g : Command.Globals) (data : Bindings) (v : View)
    (w w₁ w₂ : World), r.name = name → (r.config g).perform w = (.ok c, w₁) →
    (View.get (.text name) [] [] (some c) none).perform w₁ = (.ok v, w₂) →
    v.name = .text name ∧ v.config = c ∧
      ((Command.renderText r g data).perform w).1 =
        ((v.render data []).perform ⟨v.data, v.helpers, w₂⟩).1

/-- Reading a script depends on its file only. -/
theorem compile_eq {root p : Path} (h : Files.SameInside root w.files w'.files)
    (hp : p.Inside root) :
    ((RawScript.compile p).perform w).1 = ((RawScript.compile p).perform w').1 := by
  rw [RawScript.compile, Stateful.perform_bind_ok (Stateful.perform_get w),
    Stateful.perform_bind_ok (Stateful.perform_get w'), h.contentAt hp]
  split
  · rfl
  · rfl
  · rfl
  · rfl
  · rename_i content _ _ _
    rw [Stateful.perform_bind, Stateful.perform_bind, Act.perform_ofExcept, Act.perform_ofExcept]
    cases content.chars with
    | error f => rfl
    | ok cs =>
        simp only
        cases Script.ofText? cs <;> rfl

/-- What depends on a confined name looks inside the root only. -/
theorem Confined.looksInside (hconfined : Confined c name) : LooksInside c name := by
  have hresolve := Resolution.resolve_result c.templateRoot (.text name) c.extensions
  refine ⟨fun w w' h => ?_, fun ws w w' h hhost hw hw' => ?_,
    fun v data helpers store w w' hname hconfig h hscript => ?_, fun w w' p h hp => ?_,
    fun r g data v w w₁ w₂ hname hconfig hview => ?_⟩
  · rw [hresolve, hresolve, hconfined.owner h]
  · rw [Command.run_of_asked hw, Command.run_of_asked hw', hhost, hconfined.answer _ h]
  · refine hconfined.render_eq hname hconfig data helpers h fun p => ?_
    rw [← hresolve]
    exact hscript p
  · rw [hresolve] at hp
    have hunder := hconfined.under hp
    have hp' := (hconfined.owner h).symm.trans hp
    exact ⟨hunder, scriptOwns_of_owner hp, scriptOwns_of_owner hp', compile_eq h hunder.inside⟩
  · subst hname
    rcases View.get_made hview with ⟨hname, -, -, hchosen⟩
    exact ⟨hname, hchosen rfl c rfl, Command.renderText_perform hconfig hview data⟩

/-- A name is confined exactly if it is refused, or has segments and the extensions can be
    put behind them. The others either fail as values do, or have candidates beside the root.
    What depends on a confined name looks inside the root only. -/
theorem name_confined {given : Bindings} {c : Config} (hc : Config.ofFields given = .ok c)
    (name : String) :
    (Confined c name ↔ Refused name ∨ nameSegments name ≠ [] ∧
      Attachable c.compiledExtension ∧ Attachable c.rawExtension) ∧
    (¬Confined c name →
      (∃ f, Resolution.candidates c.templateRoot (.text name) c.extensions = .error f ∧
        f.kind = "ValueError") ∨
      nameSegments name = [] ∧
        ∃ a b, Resolution.candidates c.templateRoot (.text name) c.extensions = .ok (a, b) ∧
          ¬a.path.Under c.templateRoot ∧ ¬b.path.Under c.templateRoot) ∧
    (Confined c name → LooksInside c name) := by
  have hsound := Config.sound_of_ofFields hc
  refine ⟨confined_iff hsound, fun hnot => ?_, Confined.looksInside⟩
  have hrefused : ¬Refused name := fun h => hnot ((confined_iff hsound).mpr (Or.inl h))
  rcases hcs : Resolution.candidates c.templateRoot (.text name) c.extensions with f | ⟨a, b⟩
  · exact Or.inl ⟨f, rfl, Resolution.candidates_error hrefused hcs⟩
  · right
    rcases (hsound.candidates_cases hcs).2 with ⟨hnil, ha, hb⟩ | ⟨pre, n, hname, hca, hra, -, -⟩
    · exact ⟨hnil, a, b, rfl, not_under_of_length ha, not_under_of_length hb⟩
    · -- With segments and both extensions in place it would be confined.
      exact absurd ((confined_iff hsound).mpr (Or.inr ⟨by rw [hname]; simp, hca, hra⟩)) hnot

/-- A name that leads upwards and one that does not are both confined. -/
theorem name_confined_greet :
    Confined .default "../greet" ∧ Confined .default "greet" ∧ LooksInside .default "greet" := by
  have hc : Config.ofFields [] = .ok .default := rfl
  have hgreet := (name_confined hc "greet").1.mpr (Or.inr (by decide +kernel))
  exact ⟨(name_confined hc "../greet").1.mpr (Or.inl (by decide +kernel)), hgreet,
    (name_confined hc "greet").2.2 hgreet⟩

/-- A dot is a name that is not confined: its candidates lie beside the root. -/
theorem not_confined_dot :
    ¬∀ (given : Bindings) (c : Config) (name : String), Config.ofFields given = .ok c →
      Confined c name := by
  intro h
  have hc : Config.ofFields [] = .ok .default := rfl
  have hdot := (confined_iff (Config.sound_of_ofFields hc)).mp (h [] .default "." hc)
  exact absurd hdot (by decide +kernel)

end Stencil
