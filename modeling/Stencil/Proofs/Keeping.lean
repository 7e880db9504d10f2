import Mathlib.Algebra.GroupWithZero.Nat
import Stencil.Proofs.Steady

/-!
# What an engine finds in its directory

An engine looks into the directory of compiled templates before it compiles. Whatever is kept
there, and whoever kept it, what the engine has for a name is settled by its memory, the
directory and the files, and rendering depends on nothing else. While it renders it keeps what
it compiles, in memory and in the directory, and this is what it would have had anyway.

For that, keeping a template must not replace what is kept for another one. The directory goes
by a name and a file in one text, which in general can be parted in more than one way. But
where the file is the one that the name leads to, one text is not that of two names: both parts
have the same marks in them, so the name is told by their number.

## Main definitions

* `readKept`: What the directory and the files have for a name.
* `readHere`: What an engine has for a name.
* `Keeps`: A world in which an engine has the same for all names as before.

## Theorems

* `name_of_storedName`: What is kept for a name is kept for no other one.
* `Keeps.fetch_gives`: Loading by name gives what the engine has for the name.
* `Created.render_kept`: What a new engine renders depends on the directory and the files.
-/

namespace Stencil

namespace Engine

open Files (Agree Tidy Reachable place)

/-! ## Names of what is kept -/

/-- How often the mark that parts the name of a template from its file stands in a text. -/
def marks (s : String) : Nat := s.toList.count '|'

theorem marks_append (s t : String) : marks (s ++ t) = marks s + marks t := by
  rw [marks, String.toList_append, List.count_append]
  rfl

theorem marks_intercalate (ss : List String) :
    marks ("/".intercalate ss) = (ss.map marks).sum := by
  rw [marks, String.toList_intercalate]
  induction ss with
  | nil => rfl
  | cons s ss ih =>
      cases ss with
      | nil => simp [marks]
      | cons s' ss =>
          rw [List.map_cons, List.map_cons, List.intercalate_cons_cons, ← List.map_cons,
            List.count_append, List.count_append, ih]
          simp [marks]

theorem marks_text (p : Path) : marks p.text = (p.parts.map marks).sum := by
  unfold Path.text
  split
  · rename_i h
    simp only [Bool.and_eq_true, decide_eq_true_eq] at h
    rw [h.2]
    rfl
  · rw [marks_append, marks_intercalate]
    cases p.anchor <;> simp [Anchor.text, marks]

theorem sum_count_splitOn (sep c : Char) (h : c ≠ sep) (s : List Char) :
    ((Path.splitOn sep s).map (List.count c)).sum = s.count c := by
  induction s with
  | nil => rfl
  | cons d s ih =>
      rw [Path.splitOn]
      split
      · rename_i hd
        rw [List.map_cons, List.sum_cons, ih, List.count_nil, Nat.zero_add,
          List.count_cons_of_ne (by rw [hd]; exact h.symm)]
      · have hne : Path.splitOn sep s ≠ [] := by
          rw [Path.splitOn_eq]
          exact List.splitOn_ne_nil sep s
        cases hpieces : Path.splitOn sep s with
        | nil => exact absurd hpieces hne
        | cons p ps =>
            rw [hpieces, List.map_cons, List.sum_cons] at ih
            simp only [List.map_cons, List.sum_cons, List.count_cons, ← ih]
            omega

/-- No mark is lost where a name is cut into segments. -/
theorem marks_includeSegments? {n : String} {segments : List String}
    (h : includeSegments? n = some segments) : (segments.map marks).sum = marks n := by
  simp only [includeSegments?] at h
  split at h
  · cases h
  · obtain rfl := Option.some.inj h
    rw [marks, ← sum_count_splitOn '/' '|' (by decide)]
    generalize Path.splitOn '/' n.toList = pieces
    induction pieces with
    | nil => rfl
    | cons p ps ih =>
        rw [List.map_cons, List.filter_cons]
        -- The pieces that are left out are empty or a dot, and so without a mark.
        split
        · rw [List.map_cons, List.sum_cons, List.map_cons, List.sum_cons, ih, marks,
            String.toList_ofList]
        · rename_i hout
          have hnone : p.count '|' = 0 := by
            have hp : String.ofList p = "" ∨ String.ofList p = "." := by
              by_contra hne
              simp [not_or] at hne hout
              tauto
            rcases hp with hp | hp
            · rw [← String.toList_ofList (l := p), hp]
              rfl
            · rw [← String.toList_ofList (l := p), hp]
              rfl
          rw [ih, List.map_cons, List.sum_cons, hnone, Nat.zero_add]

theorem collapse_append {absolute : Bool} {steps segments : List String}
    (h : ".." ∉ segments) :
    collapse absolute (steps ++ segments) = collapse absolute steps ++ segments := by
  rw [collapse, List.foldl_append, ← collapse]
  -- Whatever has been collapsed by then, a segment that is no step up is put behind it.
  generalize collapse absolute steps = done
  induction segments generalizing done with
  | nil => rw [List.append_nil, List.foldl_nil]
  | cons s ss ih =>
      rw [List.mem_cons, not_or] at h
      rw [List.foldl_cons, if_neg (Ne.symm h.1), ih h.2, List.append_assoc,
        List.singleton_append]

variable {c : Config} {n m : String} {segments segments' : List String}

/-- The key of a file in the root is the key of the root, and the segments behind it. -/
theorem fileKey_includePath (h : includeSegments? n = some segments) :
    fileKey (includePath c segments) =
      (⟨c.templateRoot.anchor, collapse c.templateRoot.isAbsolute
        ((Files.steps c.templateRoot).filter (· != ".")) ++ segments⟩ : Path).text := by
  obtain ⟨hsegments, hdots⟩ := isSegment_of_includeSegments? h
  have hkept : segments.filter (· != ".") = segments :=
    List.filter_eq_self.mpr fun s hs => bne_iff_ne.mpr (hsegments s hs).2.1
  rw [fileKey, includePath, Files.steps_append hsegments, List.filter_append, hkept,
    collapse_append hdots]
  rfl

/-- If one text goes on where the other one ends, with a mark, it has more marks. -/
theorem eq_of_marked {a b rest rest' : List Char} (h : a ++ '|' :: rest = b ++ '|' :: rest')
    (hcount : a.count '|' = b.count '|') : a = b := by
  have hnil {more rest rest' : List Char} (hmore : '|' :: rest = more ++ '|' :: rest')
      (hnone : more.count '|' = 0) : more = [] := by
    cases more with
    | nil => rfl
    | cons c more =>
        obtain rfl := (List.cons.inj hmore).1
        rw [List.count_cons_self] at hnone
        cases hnone
  rcases List.append_eq_append_iff.mp h with ⟨more, rfl, hmore⟩ | ⟨more, rfl, hmore⟩
  · rw [List.count_append] at hcount
    rw [hnil hmore (by omega), List.append_nil]
  · rw [List.count_append] at hcount
    rw [hnil hmore (by omega), List.append_nil]

/-- What is kept for a name in the root is kept for no other one: the name and its file have
    as many marks in them, but for those of the root. -/
theorem name_of_storedName (hn : includeSegments? n = some segments)
    (hm : includeSegments? m = some segments')
    (h : storedName n (fileKey (includePath c segments)) =
      storedName m (fileKey (includePath c segments'))) : n = m := by
  have hmarks := congrArg marks h
  simp only [storedName, marks_append, fileKey_includePath hn, fileKey_includePath hm, marks_text,
    List.map_append, List.sum_append, marks_includeSegments? hn, marks_includeSegments? hm]
    at hmarks
  have hcount : n.toList.count '|' = m.toList.count '|' := by
    simp only [marks] at hmarks
    omega
  have hchars := congrArg String.toList h
  simp only [storedName, String.toList_append, List.append_assoc] at hchars
  exact String.ext (eq_of_marked hchars hcount)

/-! ## What is kept -/

/-- What the directory has for a name and a file with some content, or what compiling the
    content gives. -/
def keptContent (c : Config) (x : Extensions) (store : Option Path) (t : Files) (name : String)
    (path : Path) (content : Content) : Except Fault (List Template.Stmt) := do
  let chars ← content.chars
  match stored? t store name (fileKey path) (String.ofList chars) with
  | some body => return body
  | none => Template.compile ⟨c.isStrict, name, x.tags⟩ chars

/-- What the directory and the files have for a name. -/
def readKept (c : Config) (x : Extensions) (store : Option Path) (t : Files) (name : String) :
    Except Fault (List Template.Stmt) :=
  match includeSegments? name with
  | none => .error (.includeMissing name none)
  | some segments =>
    match t.file? (includePath c segments) with
    | none => .error (.includeMissing name (some c.templateRoot.text))
    | some (content, _) => keptContent c x store t name (includePath c segments) content

variable {x x' : Extensions} {c' : Config} {t t' : Files} {store : Option Path}

theorem keptContent_of_chars {content : Content} {chars : List Char}
    (hchars : content.chars = .ok chars) (path : Path) :
    keptContent c x store t n path content =
      match stored? t store n (fileKey path) (String.ofList chars) with
      | some body => .ok body
      | none => Template.compile ⟨c.isStrict, n, x.tags⟩ chars := by
  rw [keptContent, hchars]
  rfl

theorem stored?_congr (h : Agree t t') {name file : String}
    (hnode : t'.node? (keptAt c name file) = t.node? (keptAt c name file)) (text : String) :
    stored? t' (some c.cacheDir) name file text = stored? t (some c.cacheDir) name file text := by
  simp only [stored?, storedAt?, Option.bind_eq_bind, Option.bind_some, Files.agree_locate h]
  cases hl : t'.locate c.cacheDir with
  | error r => rfl
  | ok l =>
      obtain rfl := Files.locate_eq_place hl
      simp only [Option.bind_some]
      rw [show t'.node? (place c.cacheDir ++ [storedName name file]) = _ from hnode]
      rfl

/-- What was kept is found. -/
theorem stored?_put (ht : Tidy t) (hdir : t.isDirectory c.cacheDir = .ok true)
    (name file text : String) (body : List Template.Stmt) (modified : Nat) :
    stored? (t.put (keptAt c name file) (.file (.compiled name file text body) modified))
      (some c.cacheDir) name file text = some body := by
  have hagree := Files.put_agree t (.file (.compiled name file text body) modified)
    (not_reachable_keptAt c name file)
  rcases Files.isDirectory_iff.mp hdir with ⟨-, l, hl, -⟩
  obtain rfl := Files.locate_eq_place hl
  simp only [stored?, storedAt?, Option.bind_eq_bind, Option.bind_some, Files.agree_locate hagree,
    hl]
  rw [show place c.cacheDir ++ [storedName name file] = keptAt c name file from rfl,
    node?_put_keptAt ht, if_pos rfl]
  exact if_pos ⟨rfl, rfl, rfl⟩

/-- At most one template is kept besides what was kept before. -/
structure KeepsOne (c : Config) (store : Option Path) (n : String) (body : List Template.Stmt)
    (t t' : Files) : Prop where
  agree : Agree t t'
  tidy : Tidy t'
  others : ∀ c' x k, c'.templateRoot = c.templateRoot → k ≠ n →
    readKept c' x store t' k = readKept c' x store t k
  own : ∀ c' x, c'.templateRoot = c.templateRoot →
    readKept c' x store t' n = .ok body ∨ readKept c' x store t' n = readKept c' x store t n

theorem KeepsOne.refl (ht : Tidy t) (body : List Template.Stmt) : KeepsOne c store n body t t :=
  ⟨fun _ _ => rfl, ht, fun _ _ _ _ _ => rfl, fun _ _ _ => .inr rfl⟩

theorem includePath_eq (hroot : c'.templateRoot = c.templateRoot) (segments : List String) :
    includePath c' segments = includePath c segments := by
  rw [includePath, includePath, hroot]

/-- Keeping a template adds it to what is kept. -/
theorem keepIn_keepsOne (ht : Tidy t)
    (hstore : ∀ dir, store = some dir → dir = c.cacheDir ∧ t.isDirectory c.cacheDir = .ok true)
    {content : Content} {modified : Nat} {chars : List Char} (body : List Template.Stmt)
    (hn : includeSegments? n = some segments)
    (hfile : t.file? (includePath c segments) = some (content, modified))
    (hchars : content.chars = .ok chars) (clock : Nat) :
    KeepsOne c store n body t (keepIn c store t n (fileKey (includePath c segments))
      (String.ofList chars) body clock) := by
  have hagree : Agree t (keepIn c store t n (fileKey (includePath c segments))
    (String.ofList chars) body clock) := keepIn_agree _ _ _ _ _ _ _
  cases store with
  | none => exact .refl ht body
  | some dir =>
      obtain ⟨rfl, hdir⟩ := hstore dir rfl
      refine ⟨hagree, put_tidy ht hdir, fun c' x k hroot hk => ?_, fun c' x hroot => .inl ?_⟩
      · unfold readKept
        cases hsegments : includeSegments? k with
        | none => rfl
        | some segments' =>
            simp only [Files.agree_file? hagree, keptContent, includePath_eq hroot]
            -- What is kept for the one name is not where something is kept for the other.
            have hnode : (keepIn c (some c.cacheDir) t n (fileKey (includePath c segments))
                (String.ofList chars) body clock).node?
                  (keptAt c k (fileKey (includePath c segments'))) =
                t.node? (keptAt c k (fileKey (includePath c segments'))) := by
              refine (node?_put_keptAt ht ..).trans (if_neg fun heq => hk ?_)
              rw [keptAt, keptAt] at heq
              exact name_of_storedName hsegments hn
                (List.singleton_inj.mp (List.append_cancel_left heq))
            simp only [stored?_congr hagree hnode]
      · have hfile' := (Files.agree_file? hagree (includePath c segments)).symm.trans hfile
        have hfound := stored?_put ht hdir n (fileKey (includePath c segments))
          (String.ofList chars) body clock
        simp only [readKept, hn, includePath_eq hroot, hfile', keptContent_of_chars hchars]
        rw [keepIn, hfound]

/-! ## Loading -/

variable {tr : Translations} {id : EngineId} {w w' : World} {e : Engine}

/-- The statements of a text are what is kept for it, or what compiling it gives, and then this
    is kept. -/
theorem statements_kept (he : Serves c x w.files e) (n file : String) (chars : List Char) :
    (statements e n file chars).perform w =
      match stored? w.files e.store n file (String.ofList chars) with
      | some body => (.ok body, w)
      | none =>
        match Template.compile ⟨c.isStrict, n, x.tags⟩ chars with
        | .error f => (.error f, w)
        | .ok body => (.ok body, { w with
            files := keepIn c e.store w.files n file (String.ofList chars) body w.clock }) := by
  have hsettings : e.settings n = ⟨c.isStrict, n, x.tags⟩ := by
    rw [settings, he.config, he.extensions]
  simp only [statements]
  rw [Stateful.perform_bind_ok (Stateful.perform_get w), hsettings]
  cases stored? w.files e.store n file (String.ofList chars) with
  | some body => rfl
  | none =>
      cases Template.compile ⟨c.isStrict, n, x.tags⟩ chars with
      | error f => rfl
      | ok body =>
          simp only
          rw [Stateful.perform_bind_ok (Act.perform_ofExcept _ w),
            Stateful.perform_bind_ok (keepStored_eq he n file _ body)]
          rfl

/-- Reading a template gives what the directory and the files have for it, and keeps it, or fails
    as they do and keeps nothing. -/
theorem loadFresh_kept (ht : Tidy w.files) (hid : w.engine? id = some e)
    (he : Serves c x w.files e) (n : String) :
    (∃ t content m body, fileOf? c w.files n = some (content, m) ∧
      readKept c x e.store w.files n = .ok body ∧ KeepsOne c e.store n body w.files t ∧
      (loadFresh id e n).perform w =
        (.ok ⟨body, m, w.loads⟩, afterLoad w id e t n ⟨body, m, w.loads⟩)) ∨
    ∃ f, (loadFresh id e n).perform w = (.error f, w) ∧
      readKept c x e.store w.files n = .error f := by
  simp only [loadFresh]
  -- The name may lead nowhere, to no file, or to one that does not compile.
  cases hsegments : includeSegments? n with
  | none => exact .inr ⟨_, rfl, by simp only [readKept, hsegments]⟩
  | some segments =>
      simp only
      rw [Stateful.perform_bind_ok (Stateful.perform_get w), he.config]
      cases hfile : w.files.file? (includePath c segments) with
      | none => exact .inr ⟨_, rfl, by simp only [readKept, hsegments, hfile]⟩
      | some r =>
          obtain ⟨content, m⟩ := r
          have hof : fileOf? c w.files n = some (content, m) := by
            rw [fileOf?, hsegments]
            exact hfile
          have hread : readKept c x e.store w.files n =
              keptContent c x e.store w.files n (includePath c segments) content := by
            simp only [readKept, hsegments, hfile]
          rw [hread]
          simp only [loadContent]
          cases hchars : content.chars with
          | error f => exact .inr ⟨f, rfl, by rw [keptContent, hchars]; rfl⟩
          | ok chars =>
              have hstatements := statements_kept he n (fileKey (includePath c segments)) chars
              rw [Stateful.perform_bind_ok (Act.perform_ofExcept _ w), keptContent_of_chars hchars]
              split at hstatements
              · rename_i body _
                rw [Stateful.perform_bind_ok hstatements]
                exact .inl ⟨w.files, content, m, body, hof, rfl, .refl ht body,
                  keepLoaded_perform hid w.files n body m⟩
              · split at hstatements
                · rename_i f hbody
                  exact .inr ⟨f, Stateful.perform_bind_error hstatements _, hbody⟩
                · rename_i body hbody
                  rw [Stateful.perform_bind_ok hstatements]
                  exact .inl ⟨_, content, m, body, hof, hbody,
                    keepIn_keepsOne ht he.store body hsegments hfile hchars w.clock,
                    keepLoaded_perform hid _ n body m⟩

/-- What an engine has for a name: the template in its memory, if the file is as it was when
    this was read, and else what the directory and the files have. -/
def readHere (c : Config) (x : Extensions) (e : Engine) (t : Files) (n : String) :
    Except Fault (List Template.Stmt) :=
  match e.remembered? t n with
  | some l => .ok l.body
  | none => readKept c x e.store t n

/-- A world in which an engine has some result for each name, with the files of a tree. What the
    directory has for another engine is what it had in that tree, or what this one has. -/
structure Keeps (c : Config) (x : Extensions) (tr : Translations) (id : EngineId)
    (store : Option Path) (base : Files) (reading : String → Except Fault (List Template.Stmt))
    (w : World) : Prop where
  tidy : Tidy w.files
  agree : Agree base w.files
  engine : ∃ e, w.engine? id = some e ∧ Serves c x w.files e ∧ e.translations = tr ∧
    e.store = store ∧ ∀ n, readHere c x e w.files n = reading n
  kept : ∀ c' x' n, c'.templateRoot = c.templateRoot →
    readKept c' x' store w.files n = reading n ∨
      readKept c' x' store w.files n = readKept c' x' store base n

variable {base : Files} {reading : String → Except Fault (List Template.Stmt)}

/-- An engine has something of its own for each name to start with. -/
theorem Keeps.start (ht : Tidy w.files) (hid : w.engine? id = some e) (he : Serves c x w.files e) :
    Keeps c x e.translations id e.store w.files (readHere c x e w.files) w :=
  ⟨ht, fun _ _ => rfl, ⟨e, hid, he, rfl, rfl, fun _ => rfl⟩, fun _ _ _ _ => .inr rfl⟩

theorem Keeps.logged (h : Keeps c x tr id store base reading w) (hlog : w.Logged w') :
    Keeps c x tr id store base reading w' := by
  obtain ⟨es, rfl⟩ := hlog
  exact ⟨h.tidy, h.agree, h.engine, h.kept⟩

/-- What an engine has for names is not changed by loading one that it does not remember. -/
theorem readHere_keep (hc : e.config = c) {n : String} {content : Content} {l : Loaded}
    (hnone : e.remembered? t n = none) (hfile : fileOf? c t n = some (content, l.modified))
    (hread : readKept c x e.store t n = .ok l.body) (hkept : KeepsOne c e.store n l.body t t')
    (m : String) :
    readHere c x { e with memory := Memory.keep e.memory n l } t' m = readHere c x e t m := by
  rw [readHere, readHere, ← remembered?_agree hkept.agree]
  by_cases hm : m = n
  · -- What was loaded is remembered from now on, and it is what the engine had before.
    subst hm
    rw [remembered?_keep hc hfile, hnone]
    exact hread.symm
  · rw [remembered?_keep_of_ne _ _ _ hm]
    cases e.remembered? t m with
    | some l' => rfl
    | none => exact hkept.others c x m rfl hm

/-- Loading by name gives what the engine has for the name. -/
theorem Keeps.fetch_gives (n : String) :
    Gives (Keeps c x tr id store base reading) (fun l : Loaded => l.body) (fetch id n)
      (reading n) := by
  intro w hw
  obtain ⟨e, hid, he, htr, rfl, hreads⟩ := hw.engine
  rw [fetch_perform hid, ← hreads n]
  cases hmem : e.remembered? w.files n with
  -- What is remembered and still counts is what the engine reads, and nothing is changed.
  | some l => exact ⟨by rw [readHere, hmem]; rfl, hw⟩
  | none =>
      have hhere : readHere c x e w.files n = readKept c x e.store w.files n := by
        rw [readHere, hmem]
      rw [hhere]
      rcases loadFresh_kept hw.tidy hid he n with
        ⟨t, content, m, body, hof, hread, hkept, hload⟩ | ⟨f, hload, hread⟩
      · simp only [hload, hread]
        have hlen : id < w.engines.length := (List.getElem?_eq_some_iff.mp hid).1
        refine ⟨rfl, hkept.tidy, hw.agree.trans hkept.agree, ⟨_, List.getElem?_set_self hlen,
          ⟨he.config, he.extensions, (he.agree hkept.agree).store⟩, htr, rfl, fun k => ?_⟩,
          fun c' x' k hroot => ?_⟩
        · exact (readHere_keep (l := ⟨body, m, w.loads⟩) he.config hmem hof hread hkept k).trans
            (hreads k)
        · -- Another engine now finds what this one had, or what it had itself.
          have hbefore := hw.kept c' x' k hroot
          by_cases hk : k = n
          · subst hk
            rcases hkept.own c' x' hroot with hown | hown
            · exact .inl (hown.trans (hread.symm.trans (hhere.symm.trans (hreads k))))
            · exact hbefore.imp hown.trans hown.trans
          · exact hbefore.imp (hkept.others c' x' k hroot hk).trans
              (hkept.others c' x' k hroot hk).trans
      · simp only [hload, hread]
        exact ⟨rfl, hw⟩

theorem Keeps.reads : Reads (Keeps c x tr id store base reading) c x tr id reading where
  logged _ _ hlog hw := hw.logged hlog
  engine w hw := by
    obtain ⟨e, hid, he, htr, -, -⟩ := hw.engine
    exact ⟨e, hid, he.config, he.extensions, htr⟩
  fetch := Keeps.fetch_gives

/-- A new engine has nothing in memory, so it goes by the directory and the files. -/
theorem Created.keeps (h : Created c x w w' id e) (hw : Tidy w.files) :
    Keeps c x e.translations id e.store w'.files (readKept c x e.store w'.files) w' := by
  have hreading : readHere c x e w'.files = readKept c x e.store w'.files := by
    funext n
    have hnone : e.remembered? w'.files n = none := by
      rw [remembered?, h.memory]
      rfl
    rw [readHere, hnone]
  exact hreading ▸ Keeps.start (h.grown hw).tidy h.engine? (h.serves hw)

/-- What a new engine renders depends on the directory and the files only. -/
theorem Created.render_kept (h : Created c x w w' id e) (hw : Tidy w.files) (name : Value)
    (data : Bindings) :
    ((Engine.render id name data).perform w').1 =
        renderReading c x e.translations (readKept c x e.store w'.files) name data ∧
      Keeps c x e.translations id e.store w'.files (readKept c x e.store w'.files)
        ((Engine.render id name data).perform w').2 :=
  (Keeps.reads.render name data).result (h.keeps hw)

end Engine

end Stencil
