import Stencil.Proofs.Overwriting
import Stencil.Proofs.Unreported

/-!
# Keys that are no fields

Settings may have keys that are no fields, and profiles may have them too. They take part in
everything that is done before the fields are taken out: a table with such a key is not
empty, it is laid over another one with the key in it, and so is a profile. What is shown here
is that none of it matters in the end. Two tables that have the same fields and the same
fields in their profiles still do when something is laid over both, and a configuration is
built from nothing else.

Nothing depends on how a file is read: the host may have any reader, as long as it gives
tables.

There is one thing that an entry of no meaning does. The file of the project that counts is
the first that has an entry, whatever its key is. So a file that had none gets in front of a
later one when it is given one, and then what the later one says is lost.

## Main definitions

* `Config.OneMore`, `Config.Enlarged`: A table with one more entry that is no field, in it, or
  in it or a profile.
* `Config.Alike`: Two tables have the same fields, and so do their profiles.
* `Config.Overtakes`: A file of the project that said nothing gets in front of another.

## Theorems

* `Config.Enlarged.alike`: One more entry that is no field makes a table no different.
* `Config.load_alike`: Sources that are no different give the same configuration.
* `Config.projectSettings_extends`: The search through the files of a project comes to the
  same, or to tables that are no different.
* `Config.load_ignores`: Keys that are no fields are ignored, unless a file overtakes another.
* `Config.overtaken`: A file that overtakes another changes the configuration.
-/

namespace Stencil

namespace Config

open Loader

/-! ## Tables that are no different -/

/-- A table with one more entry that is neither a field nor the profiles. -/
inductive OneMore : Bindings → Bindings → Prop
  | entry (front back : Bindings) (k : String) (v : Value) (hk : k ∉ fieldNames)
      (hprofiles : k ≠ profilesKey) : OneMore (front ++ back) (front ++ (k, v) :: back)

/-- The same, where the entry may be in a profile. -/
inductive Enlarged : Bindings → Bindings → Prop
  | here {b b' : Bindings} (h : OneMore b b') : Enlarged b b'
  | inProfile (front back before after : Bindings) (name : String) {b b' : Bindings}
      (h : OneMore b b') :
      Enlarged (front ++ (profilesKey, Bindings.toValue (before ++ (name, b.toValue) :: after)) ::
          back)
        (front ++ (profilesKey, Bindings.toValue (before ++ (name, b'.toValue) :: after)) :: back)

/-- Two tables have the same fields. -/
def SameFields (b b' : Bindings) : Prop := ∀ k ∈ fieldNames, b'.get? k = b.get? k

/-- What two tables have for a profile is the same, or tables with the same fields. -/
inductive ProfilesAlike : Option Value → Option Value → Prop
  | same (v : Option Value) : ProfilesAlike v v
  | tables {b b' : Bindings} (h : SameFields b b') :
      ProfilesAlike (some b.toValue) (some b'.toValue)

/-- Two tables have the same fields, and so do their profiles. What is no table under the name
    of the profiles is the same. -/
structure Alike (b b' : Bindings) : Prop where
  fields : SameFields b b'
  profiles : ∀ name,
    ProfilesAlike ((Sources.profilesIn b).get? name) ((Sources.profilesIn b').get? name)
  misplaced : ∀ v, ¬ isTable v → (b.get? profilesKey = some v ↔ b'.get? profilesKey = some v)

theorem SameFields.refl (b : Bindings) : SameFields b b := fun _ _ => rfl

theorem Alike.refl (b : Bindings) : Alike b b := ⟨.refl b, fun _ => .same _, fun _ _ => .rfl⟩

theorem get?_append_cons_of_ne {k j : String} (front back : Bindings) (v : Value) (h : j ≠ k) :
    Bindings.get? (front ++ (k, v) :: back) j = Bindings.get? (front ++ back) j := by
  have hne : (j == k) = false := beq_false_of_ne h
  rw [Bindings.get?, Bindings.get?, List.lookup_append, List.lookup_append, List.lookup_cons, hne]

/-- Only one key is looked up differently in tables that differ in one entry. -/
theorem get?_replaced {k j : String} (front back : Bindings) (v v' : Value) (h : j ≠ k) :
    Bindings.get? (front ++ (k, v') :: back) j = Bindings.get? (front ++ (k, v) :: back) j := by
  rw [get?_append_cons_of_ne _ _ _ h, get?_append_cons_of_ne _ _ _ h]

/-- The replaced entry is found, or none of the two is. -/
theorem get?_replaced_self (k : String) (front back : Bindings) (v v' : Value) :
    Bindings.get? (front ++ (k, v') :: back) k = Bindings.get? (front ++ (k, v) :: back) k ∨
      Bindings.get? (front ++ (k, v) :: back) k = some v ∧
        Bindings.get? (front ++ (k, v') :: back) k = some v' := by
  simp only [Bindings.get?, List.lookup_append, List.lookup_cons_self]
  cases front.lookup k with
  | some u => exact .inl rfl
  | none => exact .inr ⟨rfl, rfl⟩

theorem OneMore.get? {b b' : Bindings} (h : OneMore b b') {k : String}
    (hk : k ∈ fieldNames ∨ k = profilesKey) : b'.get? k = b.get? k := by
  obtain ⟨front, back, j, v, hj, hprofiles⟩ := h
  refine get?_append_cons_of_ne front back v ?_
  rintro rfl
  exact hk.elim hj hprofiles

/-- A table that has something for a profile has something alike when the profile is
    replaced by one that is no different. -/
theorem profilesAlike_replaced {b b' : Bindings} (h : SameFields b b') (before after : Bindings)
    (name j : String) :
    ProfilesAlike (Bindings.get? (before ++ (name, b.toValue) :: after) j)
      (Bindings.get? (before ++ (name, b'.toValue) :: after) j) := by
  by_cases hj : j = name
  · subst hj
    rcases get?_replaced_self j before after b.toValue b'.toValue with heq | ⟨hb, hb'⟩
    · rw [heq]
      exact .same _
    · rw [hb, hb']
      exact .tables h
  · rw [get?_replaced before after b.toValue b'.toValue hj]
    exact .same _

theorem profilesIn_of_get? {b : Bindings} {ps : Bindings}
    (h : b.get? profilesKey = some ps.toValue) : Sources.profilesIn b = ps := by
  rw [Sources.profilesIn, h]
  exact Bindings.ofEntries_toValue ps

/-- One more entry that is no field makes a table no different. -/
theorem Enlarged.alike {b b' : Bindings} (h : Enlarged b b') : Alike b b' := by
  -- The entry is in the table itself, or in one of its profiles.
  cases h with
  | here h =>
      have hprofiles := h.get? (.inr rfl)
      refine ⟨fun k hk => h.get? (.inl hk), fun name => ?_, fun v _ => by rw [hprofiles]⟩
      rw [Sources.profilesIn, Sources.profilesIn, hprofiles]
      exact .same _
  | @inProfile front back before after name t t' h =>
      have hfields : SameFields t t' := fun k hk => h.get? (.inl hk)
      refine ⟨fun k hk => get?_replaced _ _ _ _ ?_, ?_, ?_⟩
      · rintro rfl
        exact absurd hk (by decide)
      all_goals
        rcases get?_replaced_self profilesKey front back
          (Bindings.toValue (before ++ (name, t.toValue) :: after))
          (Bindings.toValue (before ++ (name, t'.toValue) :: after)) with heq | ⟨hb, hb'⟩
      · intro j
        rw [Sources.profilesIn, Sources.profilesIn, heq]
        exact .same _
      · intro j
        rw [profilesIn_of_get? hb, profilesIn_of_get? hb']
        exact profilesAlike_replaced hfields before after name j
      · exact fun v _ => by rw [heq]
      · intro v hv
        rw [hb, hb']
        exact ⟨fun h => absurd (Option.some.inj h ▸ rfl) hv,
          fun h => absurd (Option.some.inj h ▸ rfl) hv⟩

theorem Enlarged.ne_nil {b b' : Bindings} (h : Enlarged b b') : b' ≠ [] := by
  cases h with
  | here h =>
      cases h
      simp
  | inProfile => simp

/-! ## Sources that are no different -/

/-- What is laid over something alike is alike where the two on top are. -/
theorem ProfilesAlike.or {v v' u u' : Option Value} (h : ProfilesAlike v v')
    (hu : ProfilesAlike u u') : ProfilesAlike (v.or u) (v'.or u') := by
  cases h with
  | tables h => exact .tables h
  | same v =>
      cases v with
      | some v => exact .same _
      | none => exact hu

section

variable {s s' : Sources}

/-- What is no table has no settings. -/
theorem profileTable_eq {name : String} (hname : s.profile = some name) (hne : name ≠ "") :
    s.profileTable = tableOf ((s.profileEntry? name).getD .null) := by
  unfold Sources.profileTable
  rw [hname]
  split
  · contradiction
  · rename_i heq
    exact absurd (Option.some.inj heq) hne
  · rename_i heq
    cases heq
    rcases s.profileEntry? name with _ | v
    · rfl
    · cases v <;> rfl

/-- The profile that is asked for has the same fields. -/
theorem profileTable_alike (huser : Alike s.user s'.user) (hproject : Alike s.project s'.project)
    (hprofile : s'.profile = s.profile) : SameFields s.profileTable s'.profileTable := by
  have htable {v v' : Option Value} (h : ProfilesAlike v v') :
      SameFields (tableOf (v.getD .null)) (tableOf (v'.getD .null)) := by
    cases h with
    | same => exact .refl _
    | tables h => rwa [Option.getD_some, Option.getD_some, tableOf_toValue, tableOf_toValue]
  rcases hasked : s.profile with _ | name
  · rw [Sources.profileTable, Sources.profileTable, hprofile, hasked]
    exact .refl _
  · by_cases hname : name = ""
    · subst hname
      rw [Sources.profileTable, Sources.profileTable, hprofile, hasked]
      exact .refl _
    · rw [profileTable_eq hasked hname, profileTable_eq (hprofile.trans hasked) hname]
      exact htable ((hproject.profiles name).or (huser.profiles name))

theorem canBeAsked_alike (huser : Alike s.user s'.user) (hprofile : s'.profile = s.profile)
    (h : s.CanBeAsked) : s'.CanBeAsked := by
  intro name hname hne v hv
  by_contra hno
  exact hno (h name (hprofile ▸ hname) hne v ((huser.misplaced v hno).mpr hv))

end

/-- The keys of a table with another one laid over it, in the order in which they come first. -/
theorem find?_keys_update (p : String → Bool) (b ws : Bindings) :
    (b.update ws).keys.find? p = (b.keys.find? p).or (ws.keys.find? p) := by
  induction ws generalizing b with
  | nil => exact (Option.or_none).symm
  | cons e ws ih =>
      have hset : (b.set e.1 e.2).keys.find? p = (b.keys ++ [e.1]).find? p := by
        rw [Bindings.keys_set]
        split
        · rename_i hmem
          rw [List.find?_append]
          cases hb : b.keys.find? p with
          | some k => rfl
          | none =>
              -- A key that is there already would have been found.
              have hno : p e.1 = false := Bool.eq_false_iff.mpr (List.find?_eq_none.mp hb _ hmem)
              rw [List.find?_singleton, hno]
              rfl
        · rfl
      have hcons : Bindings.keys (e :: ws) = [e.1] ++ Bindings.keys ws := rfl
      rw [Bindings.update, List.foldl_cons, ← Bindings.update, ih, hset, List.find?_append,
        Option.or_assoc, ← List.find?_append, hcons]

/-- A configuration of known fields is built from what they are looked up to. -/
theorem ofKnownFields_congr {b b' : Bindings} (h : SameFields b b') :
    ofKnownFields b' = ofKnownFields b := by
  unfold ofKnownFields
  simp only [h "template_root" (by decide), h "cache_dir" (by decide), h "locale_dir" (by decide),
    h "compiled_extension" (by decide), h "raw_extension" (by decide),
    h "translation_domain" (by decide), h "languages" (by decide), h "enable_i18n" (by decide),
    h "strict_undefined" (by decide)]

/-- With the same overrides, settings that have the same fields and no other keys give the
    same configuration. -/
theorem ofFields_congr {b b' given : Bindings} (hb : ∀ k ∈ b.keys, k ∈ fieldNames)
    (hb' : ∀ k ∈ b'.keys, k ∈ fieldNames) (h : SameFields b b') :
    ofFields (b'.update given) = ofFields (b.update given) := by
  have hunknown {c : Bindings} (hc : ∀ k ∈ c.keys, k ∈ fieldNames) :
      unknownField? (c.update given) = given.keys.find? fun k => !fieldNames.contains k := by
    have hnone : (c.keys.find? fun k => !fieldNames.contains k) = none :=
      List.find?_eq_none.mpr fun k hk => by simpa using hc k hk
    rw [unknownField?, find?_keys_update, hnone, Option.none_or]
  have hsame : SameFields (b.update given) (b'.update given) := fun k hk => by
    rw [Bindings.get?_update, Bindings.get?_update, h k hk]
  rw [ofFields, ofFields, hunknown hb, hunknown hb', ofKnownFields_congr hsame]

/-- Sources that are no different give the same configuration, or the same fault. -/
theorem load_alike {w w' : World} {searchDir : Option Path} (s s' : Sources)
    (hs : s.Found w searchDir) (hs' : s'.Found w' searchDir) (huser : Alike s.user s'.user)
    (hproject : Alike s.project s'.project) (hprofile : s'.profile = s.profile)
    (hoverrides : s'.overrides = s.overrides) :
    ((load s'.profile s'.overrides searchDir).perform w').1 =
      ((load s.profile s.overrides searchDir).perform w).1 := by
  by_cases hasked : s.CanBeAsked
  · obtain ⟨chosen, hfields, hvalues, hload⟩ := load_found hs hasked
    obtain ⟨chosen', hfields', hvalues', hload'⟩ :=
      load_found hs' (canBeAsked_alike huser hprofile hasked)
    have hsame : SameFields chosen chosen' := fun k hk => by
      rw [hvalues k hk, hvalues' k hk, profileTable_alike huser hproject hprofile k hk,
        hproject.fields k hk, huser.fields k hk]
    rw [hload, hload', hoverrides, ofFields_congr hfields hfields' hsame]
  · -- A profile that cannot be looked up ends loading with the same fault.
    unfold Sources.CanBeAsked at hasked
    push Not at hasked
    obtain ⟨name, hname, hne, v, hv, hno⟩ := hasked
    have hv' : s'.user.get? profilesKey = some v := (huser.misplaced v hno).mp hv
    rw [hprofile, hname, load_profiles hs hne hv hno, load_profiles hs' hne hv' hno]

/-! ## Reading what was enlarged -/

section

variable (reader : Toml.Reader) (files files' : Files)

/-- What becomes of one file: it is read as before, or has one more entry that is no field. -/
inductive Extends (file : Path) : Prop
  | same (hthere : files'.isFile file = files.isFile file)
      (hread : files'.read file = files.read file)
  | enlarged {b b' : Bindings} (h : Says reader files file b.toValue)
      (h' : Says reader files' file b'.toValue) (hb : Enlarged b b')

/-- A file that says nothing. -/
def Silent (file : Path) : Prop := ∃ v, Says reader files file v ∧ isSet v = false

/-- A file of the project that said nothing, and is asked, gets in front of one that said
    something. -/
def Overtakes (base : Path) (names : List String) : Prop :=
  ∃ before n after, names = before ++ n :: after ∧
    (∀ m ∈ before ++ [n], Silent reader files (base ++ Path.ofString m)) ∧
    ¬ Silent reader files' (base ++ Path.ofString n) ∧
    ∃ m ∈ after, ¬ Silent reader files (base ++ Path.ofString m)

end

variable {reader : Toml.Reader} {files files' : Files} {file base : Path} {w w' : World}
  {v : Value} {f : Fault}

/-- What a file says depends on what it is asked only. -/
theorem Says.congr {files₁ files₂ : Files} {p q : Path} (h : Says reader files₁ p v)
    (hthere : files₂.isFile q = files₁.isFile p) (hread : files₂.read q = files₁.read p)
    (hname : q.name = p.name) : Says reader files₂ q v := by
  cases h with
  | nothing h => exact .nothing (hthere.trans h)
  | settings h hv =>
      exact .settings ⟨hthere.trans h.there, by rw [hread, h.read]⟩ (by rw [hname, hv])

/-- A file says one thing only. -/
theorem Says.unique {v' : Value} (h : Says reader files file v) (h' : Says reader files file v') :
    v = v' := by
  cases h with
  | nothing hthere =>
      cases h' with
      | nothing => rfl
      | settings h' _ => cases hthere.symm.trans h'.there
  | settings h hv =>
      cases h' with
      | nothing hthere => cases hthere.symm.trans h.there
      | settings h' hv' =>
          cases h.read.symm.trans h'.read
          exact Except.ok.inj (hv.symm.trans hv')

theorem readSettings_congr (w w' : World) (hreader : w'.host.toml = w.host.toml)
    (hthere : w'.files.isFile file = w.files.isFile file)
    (hread : w'.files.read file = w.files.read file) (shown : String) :
    ((readSettings file shown).perform w').1 = ((readSettings file shown).perform w).1 := by
  unfold readSettings
  rw [Stateful.perform_bind_ok (Stateful.perform_get w),
    Stateful.perform_bind_ok (Stateful.perform_get w')]
  simp only [hthere, hread, hreader]
  rcases w.files.isFile file with f | (- | -)
  · rfl
  · rfl
  · rw [Stateful.perform_bind_ok (Act.perform_ofExcept _ w),
      Stateful.perform_bind_ok (Act.perform_ofExcept _ w'), if_pos rfl,
      Stateful.perform_bind_ok (Act.perform_log _ _ _ _ w),
      Stateful.perform_bind_ok (Act.perform_log _ _ _ _ w')]
    rcases w.files.read file >>= w.host.toml.read with f | data
    · simp only
      split <;> rfl
    · simp only [Act.perform_ofExcept]

/-- Reading the settings of a file gives what it says, or fails. -/
theorem readSettings_ends (file : Path) (shown : String) (w : World) :
    (∃ v, Says w.host.toml w.files file v) ∨ ∃ f, ((readSettings file shown).perform w).1 = .error f := by
  rcases readSettings_cases file shown w with h | ⟨f, hf⟩ | ⟨f, hf, -⟩
  · exact .inl h
  · exact .inr ⟨f, readSettings_spoils hf shown⟩
  · exact .inr ⟨f, hf⟩

/-- A file that cannot be read is asked for or cannot even be asked for. -/
theorem isFile_of_readSettings {shown : String}
    (h : ((readSettings file shown).perform w).1 = .error f) :
    w.files.isFile file = .ok true ∨ w.files.isFile file = .error f := by
  rcases hthere : w.files.isFile file with g | (- | -)
  · rw [readSettings_spoils (.unasked hthere)] at h
    exact .inr (congrArg Except.error (Except.error.inj h))
  · rw [readSettings_said (.nothing hthere)] at h
    cases h
  · exact .inl rfl

theorem userSettings_failed
    (h : ((readSettings w.settings w.settings.text).perform w).1 = .error f) :
    (userSettings.perform w).1 = .error f := by
  unfold userSettings
  rw [Stateful.perform_bind_ok (Stateful.perform_get w)]
  rcases isFile_of_readSettings h with hthere | hthere
  · rw [hthere, Stateful.perform_bind_ok (Act.perform_ofExcept _ w), if_pos rfl,
      Stateful.perform_bind_ok (Act.perform_log _ _ _ _ w)]
    refine Stateful.perform_bind_of_error (.trans ?_ h) _
    exact readSettings_congr w (w.log _) rfl rfl rfl _
  · rw [hthere]
    rfl

/-- A file of the project that cannot be read ends the search, if it is asked. -/
theorem projectSettings_stopped {n : String} {names : List String} {shownBase : String}
    (h : ((readSettings (base ++ Path.ofString n) (shownBase ++ n)).perform w).1 = .error f) :
    ((projectSettings base shownBase (n :: names)).perform w).1 = .error f := by
  rcases isFile_of_readSettings h with hthere | hthere
  · exact projectSettings_failed shownBase hthere h
  · exact projectSettings_error (.spoiled (.unasked hthere)) shownBase

/-- The user's settings cannot be read, or are no different. -/
theorem userSettings_extends (w w' : World) (hreader : w'.host.toml = w.host.toml)
    (h : Extends w.host.toml w.files w'.files w.settings) (hsettings : w'.settings = w.settings) :
    (∃ f, (userSettings.perform w).1 = .error f ∧ (userSettings.perform w').1 = .error f) ∨
      ∃ v v', Says w.host.toml w.files w.settings v ∧ Says w'.host.toml w'.files w'.settings v' ∧
        Alike (tableOf v) (tableOf v') := by
  rw [hreader]
  cases h with
  | same hthere hread =>
      rcases readSettings_ends w.settings w.settings.text w with ⟨v, hv⟩ | ⟨f, hf⟩
      · exact .inr ⟨v, v, hv, hsettings ▸ hv.congr hthere hread rfl, .refl _⟩
      · refine .inl ⟨f, userSettings_failed hf, userSettings_failed ?_⟩
        rw [hsettings, readSettings_congr w w' hreader hthere hread, hf]
  | enlarged hb hb' henlarged =>
      refine .inr ⟨_, _, hb, hsettings ▸ hb', ?_⟩
      rw [tableOf_toValue, tableOf_toValue]
      exact henlarged.alike

theorem search_of_silent {names : List String}
    (h : ∀ n ∈ names, Silent reader files (base ++ Path.ofString n)) :
    Search reader files base names (.ok []) := by
  induction names with
  | nil => exact .silent
  | cons n names ih =>
      obtain ⟨v, hv, hset⟩ := h n List.mem_cons_self
      exact .passed hv hset (ih fun m hm => h m (List.mem_cons_of_mem n hm))

theorem isSet_toValue (b : Bindings) : isSet b.toValue = !b.isEmpty := by cases b <;> rfl

/-- A table that is not empty is what is found. -/
theorem search_of_toValue {n : String} {names : List String} {b : Bindings}
    (h : Says reader files (base ++ Path.ofString n) b.toValue) (hb : b ≠ []) :
    Search reader files base (n :: names) (.ok b) := by
  have hset : isSet b.toValue = true := by
    rw [isSet_toValue, List.isEmpty_eq_false_iff.mpr hb]
    rfl
  have hfound : Search reader files base (n :: names) (.ok (tableOf b.toValue)) :=
    .found h hset rfl
  rwa [tableOf_toValue] at hfound

theorem not_silent_toValue {b : Bindings} (h : Says reader files file b.toValue) (hb : b ≠ []) :
    ¬ Silent reader files file := by
  rintro ⟨v, hv, hset⟩
  rw [hv.unique h, isSet_toValue, List.isEmpty_eq_false_iff.mpr hb] at hset
  cases hset

/-- A file behind one that says nothing still gets in front of another. -/
theorem Overtakes.passed {n : String} {names : List String}
    (h : Overtakes reader files files' base names)
    (hsilent : Silent reader files (base ++ Path.ofString n)) :
    Overtakes reader files files' base (n :: names) := by
  obtain ⟨before, m, after, rfl, hbefore, hspeaks, hlate⟩ := h
  exact ⟨n :: before, m, after, rfl, List.forall_mem_cons.mpr ⟨hsilent, hbefore⟩, hspeaks, hlate⟩

/-- A file that has one more entry is what is found, and so it was unless it had none, and then
    nothing was. -/
theorem search_enlarged {n : String} {names : List String} {b b' : Bindings}
    (hb : Says reader files (base ++ Path.ofString n) b.toValue)
    (hb' : Says reader files' (base ++ Path.ofString n) b'.toValue) (henlarged : Enlarged b b')
    (hno : ¬ Overtakes reader files files' base (n :: names)) :
    ∃ c, Search reader files base (n :: names) (.ok c) ∧
      Search reader files' base (n :: names) (.ok b') ∧ Alike c b' := by
  have hfound : Search reader files' base (n :: names) (.ok b') :=
    search_of_toValue hb' henlarged.ne_nil
  by_cases hnil : b = []
  · -- A table that was empty counts now, so none of the later ones may have.
    subst hnil
    have hlater : ∀ m ∈ names, Silent reader files (base ++ Path.ofString m) := by
      by_contra hsome
      push Not at hsome
      refine hno ⟨[], n, names, rfl, fun m hm => ?_, not_silent_toValue hb' henlarged.ne_nil, hsome⟩
      rw [List.mem_singleton.mp hm]
      exact ⟨_, hb, rfl⟩
    exact ⟨[], .passed hb rfl (search_of_silent hlater), hfound, henlarged.alike⟩
  · exact ⟨b, search_of_toValue hb hnil, hfound, henlarged.alike⟩

/-- Where no file overtakes another, the search through the files of a project fails as before,
    or comes to a table that is no different. -/
theorem projectSettings_extends (w w' : World) (hreader : w'.host.toml = w.host.toml)
    {names : List String} (shownBase : String)
    (h : ∀ n ∈ names, Extends w.host.toml w.files w'.files (base ++ Path.ofString n))
    (hno : ¬ Overtakes w.host.toml w.files w'.files base names) :
    (∃ f, ((projectSettings base shownBase names).perform w).1 = .error f ∧
        ((projectSettings base shownBase names).perform w').1 = .error f) ∨
      ∃ b b', Search w.host.toml w.files base names (.ok b) ∧
        Search w'.host.toml w'.files base names (.ok b') ∧ Alike b b' := by
  induction names generalizing w w' with
  | nil => exact .inr ⟨[], [], .silent, .silent, .refl _⟩
  | cons n names ih =>
      rcases h n List.mem_cons_self with ⟨hthere, hread⟩ | ⟨hb, hb', henlarged⟩
      · rcases readSettings_ends (base ++ Path.ofString n) (shownBase ++ n) w with
          ⟨v, hv⟩ | ⟨f, hf⟩
        · have hv' := hreader ▸ hv.congr hthere hread rfl
          cases hset : isSet v with
          | true =>
              have hset₁ := projectSettings_set hv hset shownBase names
              have hset₂ := projectSettings_set hv' hset shownBase names
              cases htable : popFault? v with
              | none => exact .inr ⟨_, _, .found hv hset htable, .found hv' hset htable, .refl _⟩
              | some f =>
                  rw [htable] at hset₁ hset₂
                  exact .inl ⟨f, hset₁, hset₂⟩
          | false =>
              -- It is passed over in both, and the next one is asked.
              have hlater : ¬ Overtakes w.host.toml w.files w'.files base names :=
                fun hlate => hno (hlate.passed ⟨v, hv, hset⟩)
              obtain ⟨es, hes⟩ := projectSettings_passed hv hset shownBase names
              obtain ⟨es', hes'⟩ := projectSettings_passed hv' hset shownBase names
              rw [hes, hes']
              rcases ih { w with events := es ++ w.events }
                { w' with events := es' ++ w'.events } hreader
                (fun m hm => h m (List.mem_cons_of_mem n hm)) hlater with
                hfail | ⟨b, b', hb, hb', halike⟩
              · exact .inl hfail
              · exact .inr ⟨b, b', .passed hv hset hb, .passed hv' hset hb', halike⟩
        · refine .inl ⟨f, projectSettings_stopped hf, projectSettings_stopped ?_⟩
          rw [readSettings_congr w w' hreader hthere hread, hf]
      · obtain ⟨c, hc, hc', halike⟩ := search_enlarged hb hb' henlarged hno
        exact .inr ⟨c, _, hc, hreader ▸ hc', halike⟩

/-! ## Loading -/

/-- The settings files that loading asks: that of the user and those of the project. -/
def settingsFiles (w : World) (searchDir : Option Path) : List Path :=
  w.settings ::
    projectFiles.map fun n => (projectBase w.directory searchDir).1 ++ Path.ofString n

/-- Loading gives the same where every settings file is read as before or has one more entry
    that is no field, and no file overtakes another. -/
theorem load_extends {profile : Option String} {overrides : Bindings} {searchDir : Option Path}
    (h : ∀ file ∈ settingsFiles w searchDir, Extends w.host.toml w.files files' file)
    (hno : ¬ Overtakes w.host.toml w.files files' (projectBase w.directory searchDir).1
      projectFiles) :
    ((load profile overrides searchDir).perform { w with files := files' }).1 =
      ((load profile overrides searchDir).perform w).1 := by
  rcases userSettings_extends w { w with files := files' } rfl
    (h w.settings List.mem_cons_self) rfl with ⟨f, hf, hf'⟩ | ⟨v, v', hv, hv', huser⟩
  · rw [load_of_readAll (readAll_user hf), load_of_readAll (readAll_user hf')]
  · obtain ⟨es, hes⟩ := perform_of_quiet userSettings_quiet (userSettings_said hv)
    obtain ⟨es', hes'⟩ := perform_of_quiet userSettings_quiet (userSettings_said hv')
    rcases projectSettings_extends { w with events := es ++ w.events }
      { w with files := files', events := es' ++ w.events } rfl
      (projectBase w.directory searchDir).2
      (fun n hn => h _ (List.mem_cons_of_mem _ (List.mem_map_of_mem hn))) hno with
      ⟨f, hf, hf'⟩ | ⟨b, b', hb, hb', hproject⟩
    · rw [load_of_readAll (readAll_project hes hf), load_of_readAll (readAll_project hes' hf')]
    · exact load_alike ⟨tableOf v, b, profile, overrides⟩ ⟨tableOf v', b', profile, overrides⟩
        ⟨⟨v, hv, rfl⟩, hb⟩ ⟨⟨v', hv', rfl⟩, hb'⟩ huser hproject rfl rfl

/-- The files of a project have names. -/
theorem named_of_mem_projectFiles {n : String} (hn : n ∈ projectFiles) (base : Path) :
    Files.Named (base ++ Path.ofString n) := by
  have hall : ∀ n ∈ projectFiles,
      Path.ofString n = ⟨.here, [n]⟩ ∧ Path.IsSegment n ∧ n ≠ ".." := by
    unfold Path.IsSegment
    decide +kernel
  have hplain := hall n hn
  have hname : (base ++ Path.ofString n).name = n := by
    rw [Path.name, Path.parts_append _ _ (by rw [hplain.1]), hplain.1, List.getLastD_concat]
  rw [Files.Named, hname]
  exact hplain.2

section

variable {searchDir : Option Path} {c : Content} {m : Nat} {b b' : Bindings}

theorem named_of_mem_settingsFiles (hsettings : Files.Named w.settings)
    (hfile : file ∈ settingsFiles w searchDir) : Files.Named file := by
  rcases List.mem_cons.mp hfile with rfl | hfile
  · exact hsettings
  · obtain ⟨n, hn, rfl⟩ := List.mem_map.mp hfile
    exact named_of_mem_projectFiles hn _

/-- When a file is written over with one more entry, every path is read as before or leads to
    that file. -/
theorem extends_of_write {q : Path} (hfile : Files.Named file) (hq : Files.Named q)
    (hthere : files.isFile file = .ok true) (hwrite : files.write file c m = .ok files')
    (hb : Says reader files file b.toValue) (hb' : Says reader files' file b'.toValue)
    (henlarged : Enlarged b b') : Extends reader files files' q := by
  obtain ⟨l, hl, hover⟩ := Files.overwritten_of_write hwrite hthere
  by_cases hql : files.locate q = .ok l
  · cases hnul : Files.hasNul q with
    | true =>
        refine .same (hover.isFile q) ?_
        rw [Files.read, Files.read, Files.contentAt, Files.contentAt, hnul]
        rfl
    | false =>
        have hname := Files.name_eq_of_locate hq hfile hql hl
        have hnul' := (Files.write_cases hwrite).1
        -- What is asked of the two paths is the same in each of the trees.
        have htransfer {t : Files} {v : Value} (hp : t.locate file = .ok l)
            (hp' : t.locate q = .ok l) (hnode : ∃ c m, t.node? l = some (.file c m))
            (h : Says reader t file v) : Says reader t q v := by
          obtain ⟨c, m, hnode⟩ := hnode
          refine h.congr ?_ ?_ hname
          · rw [Files.isFile_of_locate hnul hp' hnode, Files.isFile_of_locate hnul' hp hnode]
          · rw [Files.read_of_locate hnul hp' hnode, Files.read_of_locate hnul' hp hnode]
        exact .enlarged (htransfer hl hql hover.before hb)
          (htransfer ((hover.locate file).trans hl) ((hover.locate q).trans hql) hover.after hb')
          henlarged
  · exact .same (hover.isFile q) (hover.read hql)

/-- Adding an entry that is no field to one of the settings files, or to a profile in it, leaves
    loading as it was, whether it gives a configuration or fails, unless the file gets in front
    of a file of the project that said something. -/
theorem load_ignores {profile : Option String} {overrides : Bindings}
    (hsettings : Files.Named w.settings) (hfile : file ∈ settingsFiles w searchDir)
    (hthere : w.files.isFile file = .ok true) (hwrite : w.files.write file c m = .ok files')
    (hb : Says w.host.toml w.files file b.toValue) (hb' : Says w.host.toml files' file b'.toValue)
    (henlarged : Enlarged b b')
    (hno : ¬ Overtakes w.host.toml w.files files' (projectBase w.directory searchDir).1
      projectFiles) :
    ((load profile overrides searchDir).perform { w with files := files' }).1 =
      ((load profile overrides searchDir).perform w).1 :=
  load_extends (fun _ hq => extends_of_write (named_of_mem_settingsFiles hsettings hfile)
    (named_of_mem_settingsFiles hsettings hq) hthere hwrite hb hb' henlarged) hno

end

/-- The texts of a table that holds only texts. -/
def textsIn? (b : Bindings) : Option (List (String × String)) :=
  b.mapM fun e =>
    match e.2 with
    | .text s => some (e.1, s)
    | _ => none

theorem eq_of_textsIn? {b : Bindings} {ts : List (String × String)} (h : textsIn? b = some ts) :
    b = ts.map fun t => (t.1, Value.text t.2) := by
  induction b generalizing ts with
  | nil =>
      cases h
      rfl
  | cons e b ih =>
      obtain ⟨k, v⟩ := e
      rw [textsIn?, List.mapM_cons] at h
      obtain ⟨t, ht, h⟩ := Option.bind_eq_some_iff.mp h
      obtain ⟨ts', hts, h⟩ := Option.bind_eq_some_iff.mp h
      cases h
      cases v <;> cases ht
      rw [ih hts]
      rfl

/-- A file with a table of texts says it. -/
theorem said_of_textsIn? (ts : List (String × String))
    (h : (tableIn? reader files file).bind textsIn? = some ts) :
    Says reader files file (Bindings.toValue (ts.map fun t => (t.1, Value.text t.2))) := by
  obtain ⟨b, hb, hts⟩ := Option.bind_eq_some_iff.mp h
  rw [← eq_of_textsIn? hts]
  exact said_of_tableIn? hb

/-- A user with an extension of their own, and a project with a language. -/
def painted : World :=
  let settings := Path.ofString "home/config.toml"
  let files := Files.empty.writeDeep settings (.file (.text "compiled_extension = \"tpl\"\n") 10)
  .ofFiles (files.writeDeep (Path.ofString "pyproject.toml")
    (.file (.text "[tool.templateview]\nlanguages = \"fr\"\n") 10)) 0 "" settings

/-- The files after the user wrote a colour into the settings. -/
def repainted : Files :=
  (painted.files.write painted.settings
    (.text "compiled_extension = \"tpl\"\ncolour = \"blue\"\n") 20).toOption.getD .empty

/-- A colour in the user's settings changes nothing. -/
theorem load_ignores_colour :
    Files.Named painted.settings ∧ painted.settings ∈ settingsFiles painted none ∧
      painted.files.isFile painted.settings = .ok true ∧
      Enlarged [("compiled_extension", .text "tpl")]
        [("compiled_extension", .text "tpl"), ("colour", .text "blue")] ∧
      ¬ Overtakes painted.host.toml painted.files repainted
        (projectBase painted.directory none).1 projectFiles ∧
      ((load none [] none).perform { painted with files := repainted }).1 =
        ((load none [] none).perform painted).1 := by
  have hnamed : Files.Named painted.settings := by
    unfold Files.Named Path.IsSegment
    decide +kernel
  have hfile : painted.settings ∈ settingsFiles painted none := List.mem_cons_self
  have hthere : painted.files.isFile painted.settings = .ok true := by decide +kernel
  have hwrite : painted.files.write painted.settings
      (.text "compiled_extension = \"tpl\"\ncolour = \"blue\"\n") 20 = .ok repainted :=
    Files.write_over hthere _ _
  have hb : Says painted.host.toml painted.files painted.settings
      (Bindings.toValue [("compiled_extension", .text "tpl")]) :=
    said_of_textsIn? [("compiled_extension", "tpl")] (by decide +kernel)
  have hb' : Says painted.host.toml repainted painted.settings
      (Bindings.toValue [("compiled_extension", .text "tpl"), ("colour", .text "blue")]) :=
    said_of_textsIn? [("compiled_extension", "tpl"), ("colour", "blue")] (by decide +kernel)
  have henlarged : Enlarged [("compiled_extension", .text "tpl")]
      [("compiled_extension", .text "tpl"), ("colour", .text "blue")] :=
    .here (.entry [("compiled_extension", .text "tpl")] [] "colour" (.text "blue")
      (by decide) (by decide))
  have hno : ¬ Overtakes painted.host.toml painted.files repainted
      (projectBase painted.directory none).1 projectFiles := by
    have habsent : ∀ n ∈ projectFiles.dropLast,
        repainted.isFile ((projectBase painted.directory none).1 ++ Path.ofString n) =
          .ok false := by
      decide +kernel
    -- Only the last of the files is there, and that has none behind it.
    rintro ⟨before, n, after, hnames, -, hspeaks, m, hm, -⟩
    refine hspeaks ⟨_, .nothing (habsent n ?_), rfl⟩
    rw [hnames, List.dropLast_append_of_ne_nil (List.cons_ne_nil n after),
      List.dropLast_cons_of_ne_nil (List.ne_nil_of_mem hm)]
    exact List.mem_append_right _ List.mem_cons_self
  exact ⟨hnamed, hfile, hthere, henlarged, hno,
    load_ignores hnamed hfile hthere hwrite hb hb' henlarged hno⟩

/-- A project with an empty file in front of one that says something. -/
def hushed : World :=
  let files := Files.empty.writeDeep (Path.ofString ".templateview.toml")
    (.file (.text "# nothing\n") 10)
  .ofFiles (files.writeDeep (Path.ofString "templateview.toml")
    (.file (.text "compiled_extension = \"tpl\"\n") 10)) 0 "" (Path.ofString "home/config.toml")

/-- The files after a colour was written into the first. -/
def unhushed : Files :=
  (hushed.files.write (Path.ofString ".templateview.toml")
    (.text "colour = \"blue\"\n") 20).toOption.getD .empty

/-- A file that said nothing and is given an entry counts, whatever the entry is, so not every
    key that is no field is ignored. -/
theorem overtaken :
    ¬∀ (w : World) (profile : Option String) (overrides : Bindings) (searchDir : Option Path)
      (file : Path) (c : Content) (m : Nat) (files' : Files) (b b' : Bindings),
      Files.Named w.settings → file ∈ settingsFiles w searchDir →
      w.files.isFile file = .ok true → w.files.write file c m = .ok files' →
      Says w.host.toml w.files file b.toValue → Says w.host.toml files' file b'.toValue →
      Enlarged b b' →
      ((load profile overrides searchDir).perform { w with files := files' }).1 =
        ((load profile overrides searchDir).perform w).1 := by
  intro h
  have hnamed : Files.Named hushed.settings := by
    unfold Files.Named Path.IsSegment
    decide +kernel
  have hfile : Path.ofString ".templateview.toml" ∈ settingsFiles hushed none := by decide +kernel
  have hthere : hushed.files.isFile (Path.ofString ".templateview.toml") = .ok true := by
    decide +kernel
  have hwrite : hushed.files.write (Path.ofString ".templateview.toml")
      (.text "colour = \"blue\"\n") 20 = .ok unhushed :=
    Files.write_over hthere _ _
  have hb : Says hushed.host.toml hushed.files (Path.ofString ".templateview.toml") (Bindings.toValue []) :=
    said_of_textsIn? [] (by decide +kernel)
  have hb' : Says hushed.host.toml unhushed (Path.ofString ".templateview.toml")
      (Bindings.toValue [("colour", .text "blue")]) :=
    said_of_textsIn? [("colour", "blue")] (by decide +kernel)
  have hload := h hushed none [] none _ _ _ _ _ _ hnamed hfile hthere hwrite hb hb'
    (.here (.entry [] [] "colour" (.text "blue") (by decide) (by decide)))
  have hextension : (((load none [] none).perform { hushed with files := unhushed }).1.toOption.map
      fun c => c.compiledExtension) = some ".j2" := by decide +kernel
  rw [hload] at hextension
  exact absurd hextension (by decide +kernel)

end Config

end Stencil
