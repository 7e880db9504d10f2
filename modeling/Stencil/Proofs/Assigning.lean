import Stencil.Proofs.Arranging
import Stencil.Proofs.Tables

/-!
# The data of a request

A request to render may name a file with an object in it, and it may assign variables. The
variables are laid over the object: a variable goes by the text in front of the first equals
sign of its word, without the blanks around it, and its value is all the rest, as it stands. The
last word that assigns a variable counts, while its place among the keys is that of the first,
and the keys of the object come before all others, in their order.

A word without an equals sign, and a file with anything else than an object in it, are misuse,
and the words are only looked at when the file has been read. A file with more in it than can be
read is a fault that goes through.

## Main definitions

* `Assigns`: What a word assigns.
* `Based`, `Baseless`, `Troubled`: What the file of a request gives.
* `Readable`: There is not too much in it.
* `Overlaid`: Data with variables laid over them.

## Theorems

* `Json.read_object`: An object has each of its keys once.
* `binding_iff`: A word is read as what it assigns.
* `Request.data_overlaid`: The data of a request are those of its file with its variables over
  them.
* `Request.data_refused`: Without an equals sign or without an object there are no data.
* `Request.data_troubled`: With too much in the file there are none either.
-/

namespace Stencil

/-! ## Objects in files -/

theorem Bindings.toValue_inj {b c : Bindings} : b.toValue = c.toValue ↔ b = c := by
  refine ⟨fun h => ?_, fun h => h ▸ rfl⟩
  have hentries := Value.dict.inj h
  rw [← ofEntries_toValue b, hentries, ofEntries_toValue]

namespace Json

theorem word?_ne_dict (s : List Char) {v : Value} {rest : List Char}
    (h : word? s = some (v, rest)) (es : List (Value × Value)) : v ≠ .dict es := by
  obtain ⟨e, he, hv⟩ := List.exists_of_findSome?_eq_some h
  have hwords : ∀ e ∈ words, e.2 ≠ .dict es := by simp [words]
  obtain ⟨-, heq⟩ := Option.ite_none_right_eq_some.mp hv
  cases heq
  exact hwords e he

theorem number_ne_dict {l : Limits} {s : List Char} {v : Value} {rest : List Char}
    (h : number l s = .ok (v, rest)) (es : List (Value × Value)) : v ≠ .dict es := by
  unfold number at h
  split at h
  extract_lets ds ds' at h
  split at h
  split at h
  split at h
  · cases h
  · split at h
    · split at h <;> cases h
      exact Value.noConfusion
    · cases h
      exact Value.noConfusion

/-- A key that is repeated is put in the place of the old one. -/
theorem entries_nodup {l : Limits} (fuel level : Nat) (s : List Char) (found : Bindings)
    {b : Bindings} {rest : List Char} (hfound : found.keys.Nodup)
    (h : entries l fuel level found s = .ok (b, rest)) : b.keys.Nodup := by
  induction fuel generalizing found s with
  | zero => cases h
  | succ fuel ih =>
      unfold entries at h
      split at h
      · obtain ⟨⟨k, s'⟩, -, h⟩ := exists_of_bind_eq_ok h
        simp only at h
        split at h
        · obtain ⟨⟨v, s''⟩, -, h⟩ := exists_of_bind_eq_ok h
          have hset := Bindings.nodup_set hfound (String.ofList k) v
          simp only at h
          split at h
          · cases h
            exact hset
          · exact ih _ _ hset h
          · cases h
        · cases h
      · cases h

theorem value_object {l : Limits} {fuel level : Nat} {s : List Char} {es : List (Value × Value)}
    {rest : List Char} (h : value l fuel level s = .ok (.dict es, rest)) :
    ∃ b : Bindings, b.keys.Nodup ∧ .dict es = b.toValue := by
  cases fuel with
  | zero => cases h
  | succ fuel =>
      unfold value at h
      split at h
      · obtain ⟨_, -, h⟩ := exists_of_bind_eq_ok h
        cases h
      · split at h
        · cases h
        · split at h
          · cases h
          · obtain ⟨_, -, h⟩ := exists_of_bind_eq_ok h
            cases h
      · split at h
        · cases h
        · split at h
          · cases h
            exact ⟨[], List.nodup_nil, rfl⟩
          · obtain ⟨⟨b, _⟩, hb, h⟩ := exists_of_bind_eq_ok h
            cases h
            exact ⟨b, entries_nodup _ _ _ [] List.nodup_nil hb, rfl⟩
      · split at h
        · rename_i hword
          cases h
          exact absurd rfl (word?_ne_dict s hword es)
        · exact absurd rfl (number_ne_dict h es)

/-- An object has each of its keys once. -/
theorem read_object {l : Limits} {s : List Char} {es : List (Value × Value)}
    (h : read l s = .ok (.dict es)) : ∃ b : Bindings, b.keys.Nodup ∧ .dict es = b.toValue := by
  obtain ⟨⟨v, rest⟩, hv, h⟩ := exists_of_bind_eq_ok h
  simp only at h
  split at h
  · cases h
    exact value_object hv
  · cases h

end Json

namespace Command

variable {w : World} {item k v : String}

/-! ## Variables -/

/-- A word assigns a value to a variable: it has the name of the variable in front of its first
    equals sign, maybe between blanks, and the value behind it. -/
def Assigns (item k v : String) : Prop :=
  ∃ name : String, '=' ∉ name.toList ∧ item = name ++ "=" ++ v ∧
    k = String.ofList (Text.trim name.toList)

theorem splitBinding?_none {s : List Char} (h : '=' ∉ s) : splitBinding? s = none := by
  have hdrop : s.dropWhile (· != '=') = [] :=
    List.dropWhile_eq_nil_iff.mpr fun c hc => bne_iff_ne.mpr fun heq => h (heq ▸ hc)
  rw [splitBinding?, hdrop]

/-- A word without an equals sign assigns nothing. -/
theorem binding_of_not_mem (h : '=' ∉ item.toList) :
    binding item = .error (.badValue "--var" ("expected KEY=VALUE, got '" ++ item ++ "'")) := by
  rw [binding, splitBinding?_none h]

theorem binding_joined {name : String} (h : '=' ∉ name.toList) (v : String) :
    binding (name ++ "=" ++ v) = .ok (String.ofList (Text.trim name.toList), .text v) := by
  have hlist : (name ++ "=" ++ v).toList = name.toList ++ '=' :: v.toList := by simp
  rw [binding, hlist, splitBinding?_append _ _ h]
  simp only [String.ofList_toList]

/-- A word is read as what it assigns. -/
theorem binding_iff {b : String × Value} :
    binding item = .ok b ↔ ∃ v, Assigns item b.1 v ∧ b.2 = .text v := by
  constructor
  · intro h
    rcases word_cases item with hname | ⟨name, v, hname, rfl⟩
    · rw [binding_of_not_mem hname] at h
      cases h
    · rw [binding_joined hname] at h
      cases h
      exact ⟨v, ⟨name, hname, rfl, rfl⟩, rfl⟩
  · obtain ⟨k, x⟩ := b
    rintro ⟨v, ⟨name, hname, rfl, hk⟩, hv⟩
    obtain rfl : k = _ := hk
    obtain rfl : x = _ := hv
    exact binding_joined hname v

/-- A word with an equals sign assigns something. -/
theorem exists_binding (h : '=' ∈ item.toList) : ∃ b, binding item = .ok b := by
  rcases word_cases item with hname | ⟨name, v, hname, rfl⟩
  · exact absurd h hname
  · exact ⟨_, binding_joined hname v⟩

/-! ## Variables over data -/

/-- Variables are laid over data. The value of one is what the last word that assigns it gives,
    and its place is where its key stands in the data, or else behind them, in the order in
    which the words assign them first. -/
structure Overlaid (base : Bindings) (items : List String) (data : Bindings) : Prop where
  last : ∀ {front back : List String} {item k v : String}, items = front ++ item :: back →
    Assigns item k v → (∀ i ∈ back, ∀ u, ¬Assigns i k u) → data.get? k = some (.text v)
  kept : ∀ k, (∀ i ∈ items, ∀ v, ¬Assigns i k v) → data.get? k = base.get? k
  keys : ∃ ks, List.Forall₂ (fun item k => ∃ v, Assigns item k v) items ks ∧
    data.keys = base.keys ++ (ks.removeAll base.keys).eraseDups

/-- The variables are those that the words assign, one after the other. -/
def Read (items : List String) (bs : Bindings) : Prop :=
  List.Forall₂ (fun item b => binding item = .ok b) items bs

theorem read_of_mapM {items : List String} {bs : Bindings} (h : items.mapM binding = .ok bs) :
    Read items bs := by
  induction items generalizing bs with
  | nil =>
      cases h
      exact .nil
  | cons item items ih =>
      rw [List.mapM_cons] at h
      obtain ⟨b, hb, h⟩ := exists_of_bind_eq_ok h
      obtain ⟨bs', hbs, h⟩ := exists_of_bind_eq_ok h
      cases h
      exact .cons hb (ih hbs)

/-- Words with equals signs are all read. -/
theorem exists_mapM {items : List String} (h : ∀ item ∈ items, '=' ∈ item.toList) :
    ∃ bs, items.mapM binding = .ok bs := by
  induction items with
  | nil => exact ⟨[], rfl⟩
  | cons item items ih =>
      obtain ⟨b, hb⟩ := exists_binding (h item List.mem_cons_self)
      obtain ⟨bs, hbs⟩ := ih fun i hi => h i (List.mem_cons_of_mem _ hi)
      exact ⟨b :: bs, by rw [List.mapM_cons, hb, hbs]; rfl⟩

/-- What is assigned is assigned by a word. -/
theorem Read.assigned {items : List String} {bs : Bindings} (h : Read items bs) {k : String}
    (hk : k ∈ bs.keys) : ∃ item ∈ items, ∃ v, Assigns item k v := by
  induction h with
  | nil => nomatch hk
  | @cons item b items bs hb _ ih =>
      rcases List.mem_cons.mp hk with rfl | hk
      · obtain ⟨v, hv, -⟩ := binding_iff.mp hb
        exact ⟨item, List.mem_cons_self, v, hv⟩
      · obtain ⟨i, hi, hassigns⟩ := ih hk
        exact ⟨i, List.mem_cons_of_mem _ hi, hassigns⟩

theorem Read.keys {items : List String} {bs : Bindings} (h : Read items bs) :
    List.Forall₂ (fun item k => ∃ v, Assigns item k v) items bs.keys := by
  refine List.forall₂_map_right_iff.mpr (h.imp fun item b hb => ?_)
  obtain ⟨v, hv, -⟩ := binding_iff.mp hb
  exact ⟨v, hv⟩

theorem Read.split {front back : List String} {item : String} {bs : Bindings}
    (h : Read (front ++ item :: back) bs) :
    ∃ bs₁ b bs₂, bs = bs₁ ++ b :: bs₂ ∧ binding item = .ok b ∧ Read back bs₂ := by
  induction front generalizing bs with
  | nil =>
      cases h with
      | cons hb h => exact ⟨[], _, _, rfl, hb, h⟩
  | cons i front ih =>
      cases h with
      | cons hi h =>
          obtain ⟨bs₁, b, bs₂, rfl, hb, h⟩ := ih h
          exact ⟨_ :: bs₁, b, bs₂, rfl, hb, h⟩

/-- One word without an equals sign is too many. -/
theorem mapM_refused {items : List String} (h : ∃ item ∈ items, '=' ∉ item.toList) :
    ∃ u, items.mapM binding = .error u := by
  obtain ⟨item, hmem, heq⟩ := h
  obtain ⟨front, back, rfl⟩ := List.append_of_mem hmem
  cases hbs : (front ++ item :: back).mapM binding with
  | error u => exact ⟨u, rfl⟩
  | ok bs =>
      obtain ⟨_, b, _, -, hb, -⟩ := (read_of_mapM hbs).split
      rw [binding_of_not_mem heq] at hb
      cases hb

theorem get?_update_of_not_mem (base : Bindings) {bs : Bindings} {k : String} (h : k ∉ bs.keys) :
    (base.update bs).get? k = base.get? k := by
  have hnone : bs.reverse.lookup k = none := by
    rw [List.lookup_eq_none_iff]
    intro e he
    exact bne_iff_ne.mpr fun heq => h (heq ▸ List.mem_map_of_mem (List.mem_reverse.mp he))
  rw [Bindings.get?_update, hnone, Option.none_or]

theorem Assigns.unique {k' v' : String} (h : Assigns item k v) (h' : Assigns item k' v') :
    k = k' ∧ v = v' := by
  have hb : binding item = .ok (k, .text v) := binding_iff.mpr ⟨v, h, rfl⟩
  have hb' : binding item = .ok (k', .text v') := binding_iff.mpr ⟨v', h', rfl⟩
  rw [hb'] at hb
  cases hb
  exact ⟨rfl, rfl⟩

/-- Variables that were read are laid over data by writing them one after the other. -/
theorem Read.overlaid {items : List String} {bs : Bindings} (h : Read items bs)
    (base : Bindings) : Overlaid base items (base.update bs) where
  last := by
    rintro front back item k v rfl hassigns hlast
    obtain ⟨bs₁, b, bs₂, rfl, hb, hback⟩ := h.split
    obtain ⟨u, hu, hbu⟩ := binding_iff.mp hb
    obtain ⟨rfl, rfl⟩ := hassigns.unique hu
    -- No word behind the last one that assigns the variable writes to its key.
    have hrest : b.1 ∉ Bindings.keys bs₂ := fun hk =>
      have ⟨i, hi, u, hiu⟩ := hback.assigned hk
      hlast i hi u hiu
    have hsplit : base.update (bs₁ ++ b :: bs₂) = ((base.update bs₁).set b.1 b.2).update bs₂ := by
      simp only [Bindings.update, List.foldl_append, List.foldl_cons]
    rw [hsplit, get?_update_of_not_mem _ hrest, Bindings.get?_set_self, hbu]
  kept k hk := get?_update_of_not_mem base fun hmem =>
    have ⟨i, hi, v, hv⟩ := h.assigned hmem
    hk i hi v hv
  keys := ⟨bs.keys, h.keys, Bindings.keys_update base bs⟩

theorem nodup_update {base : Bindings} (h : base.keys.Nodup) (bs : Bindings) :
    (base.update bs).keys.Nodup := by
  induction bs generalizing base with
  | nil => exact h
  | cons b bs ih => exact ih (Bindings.nodup_set h b.1 b.2)

/-! ## Data of requests -/

/-- The data that the file of a request gives, if it names one. -/
inductive Based (w : World) : Option String → Bindings → Prop
  | unnamed : Based w none []
  | named {file : String} {cs : List Char} {b : Bindings}
      (hread : w.files.read (Path.ofString file) = .ok cs)
      (hobject : Json.read w.host.json cs = .ok b.toValue) : Based w (some file) b

/-- The file of a request has no object in it: it is not well formed, or something else. -/
def Baseless (w : World) (file? : Option String) : Prop :=
  ∃ file cs, file? = some file ∧ w.files.read (Path.ofString file) = .ok cs ∧
    (Json.read w.host.json cs = .error .malformed ∨
      ∃ v, Json.read w.host.json cs = .ok v ∧ ∀ b : Bindings, v ≠ b.toValue)

/-- The file of a request is a text, and trouble in it keeps the text from being read. -/
def Troubled (w : World) (file? : Option String) (t : Json.Trouble) : Prop :=
  ∃ file cs, file? = some file ∧ w.files.read (Path.ofString file) = .ok cs ∧
    Json.read w.host.json cs = .error t

/-- The file of a request, if it names one, is a text that is well formed or not, and nothing
    else is the matter with it. -/
def Readable (w : World) (file? : Option String) : Prop :=
  ∀ file, file? = some file → ∃ cs, w.files.read (Path.ofString file) = .ok cs ∧
    ∀ t, Json.read w.host.json cs = .error t → t = .malformed

theorem Based.nodup {file? : Option String} {base : Bindings} (h : Based w file? base) :
    base.keys.Nodup := by
  cases h with
  | unnamed => exact List.nodup_nil
  | named _ hobject =>
      obtain ⟨b, hb, heq⟩ := Json.read_object hobject
      exact Bindings.toValue_inj.mp heq ▸ hb

theorem Based.not_baseless {file? : Option String} {base : Bindings}
    (h : Based w file? base) : ¬Baseless w file? := by
  rintro ⟨file, cs, rfl, hcs, hbad⟩
  cases h with
  | named hcs' hb =>
      cases hcs.symm.trans hcs'
      rcases hbad with hbad | ⟨v, hv, hobject⟩
      · cases hb.symm.trans hbad
      · cases hb.symm.trans hv
        exact hobject base rfl

/-- A file that can be read is an object, or it is none. -/
theorem based_or_baseless {file? : Option String} (h : Readable w file?) :
    (∃ base, Based w file? base) ∨ Baseless w file? := by
  cases file? with
  | none => exact .inl ⟨_, .unnamed⟩
  | some file =>
      obtain ⟨cs, hcs, htrouble⟩ := h file rfl
      cases hread : Json.read w.host.json cs with
      | error t => exact .inr ⟨file, cs, rfl, hcs, .inl (htrouble t hread ▸ hread)⟩
      | ok v =>
          by_cases hobject : ∃ b : Bindings, v = b.toValue
          · obtain ⟨b, rfl⟩ := hobject
            exact .inl ⟨b, .named hcs hread⟩
          · exact .inr ⟨file, cs, rfl, hcs, .inr ⟨v, hread, fun b hb => hobject ⟨b, hb⟩⟩⟩

theorem fileData_ok {file : String} {base : Bindings} (h : Based w (some file) base) :
    fileData w file = .ok base := by
  cases h with
  | named hread hobject =>
      simp only [fileData, hread, hobject, Bindings.toValue, Bindings.ofEntries_toValue]

theorem fileData_refused {file : String} (h : Baseless w (some file)) :
    ∃ u, fileData w file = .error (.usage u) := by
  obtain ⟨_, cs, heq, hread, hbad⟩ := h
  obtain rfl := Option.some.inj heq
  simp only [fileData, hread]
  rcases hbad with hbad | ⟨v, hv, hobject⟩
  · rw [hbad]
    exact ⟨_, rfl⟩
  · rw [hv]
    split
    · rename_i heq
      cases heq
    · rename_i es hes
      obtain rfl := Except.ok.inj hes
      obtain ⟨b, -, hb⟩ := Json.read_object hv
      exact absurd hb (hobject b)
    · exact ⟨_, rfl⟩

/-- What is too much for the reader ends a run with a fault. -/
theorem dataTrouble_fault (refuse : String → Halt) {t : Json.Trouble} (h : t ≠ .malformed) :
    ∃ f, dataTrouble refuse t = .fault f ∧ f.Foreign := by
  cases t with
  | malformed => exact absurd rfl h
  | digits limit count => exact ⟨_, rfl, trivial⟩
  | depth isList => exact ⟨_, rfl, trivial⟩
  | half => exact ⟨_, rfl, trivial⟩

/-- The data of a request are those of its file with its variables over them. -/
theorem Request.data_overlaid {r : Request} {base : Bindings}
    (hbase : Based w (r.options.last? .dataFile) base)
    (hitems : ∀ item ∈ r.options.all .binding, '=' ∈ item.toList) :
    ∃ data, r.data w = .ok data ∧ Overlaid base (r.options.all .binding) data ∧
      data.keys.Nodup := by
  obtain ⟨bs, hbs⟩ := exists_mapM hitems
  refine ⟨base.update bs, ?_, (read_of_mapM hbs).overlaid base, nodup_update hbase.nodup bs⟩
  unfold Request.data
  rw [hbs]
  cases hfile : r.options.last? .dataFile with
  | none =>
      rw [hfile] at hbase
      cases hbase
      rfl
  | some file =>
      rw [hfile] at hbase
      simp only [fileData_ok hbase]
      rfl

/-- Without an equals sign in a word or without an object in the file there are no data. -/
theorem Request.data_refused {r : Request}
    (hread : Readable w (r.options.last? .dataFile))
    (h : (∃ item ∈ r.options.all .binding, '=' ∉ item.toList) ∨
      Baseless w (r.options.last? .dataFile)) :
    ∃ u, r.data w = .error (.usage u) := by
  unfold Request.data
  -- The file is looked at first, and the words only if it gives data.
  rcases based_or_baseless hread with ⟨base, hbase⟩ | hno
  · obtain ⟨u, hu⟩ := mapM_refused (h.resolve_right hbase.not_baseless)
    refine ⟨u, ?_⟩
    rw [hu]
    cases hfile : r.options.last? .dataFile with
    | none => rfl
    | some file =>
        rw [hfile] at hbase
        simp only [fileData_ok hbase]
        rfl
  · obtain ⟨file, hfile⟩ : ∃ file, r.options.last? .dataFile = some file :=
      have ⟨file, _, hfile, _⟩ := hno
      ⟨file, hfile⟩
    rw [hfile] at hno ⊢
    obtain ⟨u, hu⟩ := fileData_refused hno
    exact ⟨u, by simp only [hu]; rfl⟩

/-- A file that is too much for the reader gives no data. -/
theorem Request.data_troubled {r : Request} {t : Json.Trouble}
    (h : Troubled w (r.options.last? .dataFile) t) (ht : t ≠ .malformed) :
    ∃ f, r.data w = .error (.fault f) ∧ f.Foreign := by
  obtain ⟨file, cs, hfile, hread, htrouble⟩ := h
  obtain ⟨f, hf, hforeign⟩ := dataTrouble_fault
    (fun what => .usage (.badValue "--data-file" ((Path.ofString file).text ++ " " ++ what))) ht
  refine ⟨f, ?_, hforeign⟩
  unfold Request.data
  simp only [hfile, fileData, hread, htrouble, hf]
  rfl

end Command

end Stencil
