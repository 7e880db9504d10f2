import Mathlib.Data.List.Forall2
import Stencil.Template.Eval

/-!
# Values eased

A strict undefined value refuses every use but asking whether it is there. Where it is
replaced by one that is not strict, fewer uses fail, and those that did not fail come to the
same: the value was not used, or not in a way that tells. So a value is eased by making
undefined values in it less strict, as deep as they stand, and every question about values
is answered for eased ones as it was, up to easing.

It cannot be told from a value that can be a key, because such a value has no strict
undefined value in it. This is why entries of mappings keep their keys.

The same sweep says how the questions fail: only because of how the values are used, and not
for want of a template.

## Main definitions

* `Fault.OfUse`: The faults of using values.
* `Carries`: What one computation gives another one gives as well, up to a relation.
* `Value.Eases`: A value is the other one eased.

## Theorems

* `Carries.bind`: Computations one after the other.
* `Value.eq_of_keyFault?`: Nothing in a key can be eased.
* `Value.equal_eases`, `Value.ordered_eases`, `Value.member_eases`: Comparisons.
* `Value.truth_eases`, `Value.str_eases`, `Value.items_eases`: Other questions.
-/

namespace Stencil

/-- A fault of using values, as opposed to one of looking for templates. -/
def Fault.OfUse : Fault → Prop
  | .undefined _ | .misuse _ | .refused _ | .missingKey _ | .zeroDivision _ | .overflow _
  | .noFilter _ | .noTest _ | .tooDeep | .halfCharacter => True
  | _ => False

/-- A computation fails only of how values are used, and what it gives another one gives as
    well, up to a relation. -/
structure Carries {α β : Type} (R : α → β → Prop) (a : Except Fault α) (b : Except Fault β) :
    Prop where
  gives : ∀ x, a = .ok x → ∃ y, b = .ok y ∧ R x y
  fails : ∀ f, a = .error f → f.OfUse

/-- Related results are there on both sides or on none. -/
theorem rel_cases {α β : Type} {R : α → β → Prop} {a : Option α} {b : Option β}
    (h : Option.Rel R a b) : (a = none ∧ b = none) ∨ ∃ x y, a = some x ∧ b = some y ∧ R x y := by
  cases h with
  | none => exact .inl ⟨rfl, rfl⟩
  | some h => exact .inr ⟨_, _, rfl, rfl, h⟩

theorem isSome_of_rel {α β : Type} {R : α → β → Prop} {a : Option α} {b : Option β}
    (h : Option.Rel R a b) : a.isSome = b.isSome := by
  cases h <;> rfl

theorem rel_ite {α β : Type} {R : α → β → Prop} {p : Prop} [Decidable p] {a₁ a₂ : Option α}
    {b₁ b₂ : Option β} (h₁ : Option.Rel R a₁ b₁) (h₂ : Option.Rel R a₂ b₂) :
    Option.Rel R (if p then a₁ else a₂) (if p then b₁ else b₂) := by
  split
  · exact h₁
  · exact h₂

theorem isEmpty_of_forall₂ {α β : Type} {R : α → β → Prop} {xs : List α} {ys : List β}
    (h : List.Forall₂ R xs ys) : xs.isEmpty = ys.isEmpty := by
  cases h <;> rfl

namespace Carries

variable {α β γ δ : Type} {R : α → β → Prop} {S : γ → δ → Prop} {a : Except Fault α}
  {b : Except Fault β}

theorem ok {x : α} {y : β} (h : R x y) : Carries R (.ok x) (.ok y) :=
  ⟨fun _ hx => ⟨y, rfl, Except.ok.inj hx ▸ h⟩, nofun⟩

theorem error {f : Fault} (h : f.OfUse) : Carries R (.error f) b :=
  ⟨nofun, fun _ hf => Except.error.inj hf ▸ h⟩

theorem refuse {u : Undefined} : Carries R (Value.refuse u) b := error trivial

theorem bind {f : α → Except Fault γ} {g : β → Except Fault δ} (h : Carries R a b)
    (hf : ∀ x y, R x y → Carries S (f x) (g y)) : Carries S (a >>= f) (b >>= g) := by
  cases a with
  | error e => exact error (h.fails e rfl)
  | ok x =>
      obtain ⟨y, rfl, hxy⟩ := h.gives x rfl
      exact hf x y hxy

theorem map {f : α → γ} {g : β → δ} (h : Carries R a b) (hf : ∀ x y, R x y → S (f x) (g y)) :
    Carries S (a.map f) (b.map g) := by
  cases a with
  | error e => exact error (h.fails e rfl)
  | ok x =>
      obtain ⟨y, rfl, hxy⟩ := h.gives x rfl
      exact ok (hf x y hxy)

theorem mapM {ε : Type} {T : γ → ε → Prop} {f : γ → Except Fault α} {g : ε → Except Fault β}
    (h : ∀ x y, T x y → Carries R (f x) (g y)) {xs : List γ} {ys : List ε}
    (hxs : List.Forall₂ T xs ys) :
    Carries (List.Forall₂ R) (xs.mapM f) (ys.mapM g) := by
  induction hxs with
  | nil => exact ok .nil
  | cons hxy _ ih =>
      rw [List.mapM_cons, List.mapM_cons]
      exact (h _ _ hxy).bind fun _ _ hz => ih.bind fun _ _ hzs => ok (.cons hz hzs)

theorem ite {p : Prop} [Decidable p] {a₁ a₂ : Except Fault α} {b₁ b₂ : Except Fault β}
    (h₁ : Carries R a₁ b₁) (h₂ : Carries R a₂ b₂) :
    Carries R (if p then a₁ else a₂) (if p then b₁ else b₂) := by
  split
  · exact h₁
  · exact h₂

/-- Two uses of undefined values that strict ones refuse. -/
theorem lenient {u u' : Undefined} (hu : u'.strict → u.strict) {x : α} {y : β} (h : R x y) :
    Carries R (if u.strict then Value.refuse u else .ok x)
      (if u'.strict then Value.refuse u' else .ok y) := by
  by_cases hs : u.strict
  · rw [if_pos hs]
    exact refuse
  · rw [if_neg hs, if_neg fun hs' => hs (hu hs')]
    exact ok h

end Carries

namespace Value

/-- A value in which undefined values may be less strict than in another one, and which is
    the same otherwise. Keys are the same. -/
inductive Eases : Value → Value → Prop where
  | same (v : Value) : Eases v v
  | list {xs ys : List Value} (h : List.Forall₂ Eases xs ys) : Eases (.list xs) (.list ys)
  | tuple {xs ys : List Value} (h : List.Forall₂ Eases xs ys) : Eases (.tuple xs) (.tuple ys)
  | dict {es fs : List (Value × Value)} (hkeys : es.map (·.1) = fs.map (·.1))
      (hvalues : List.Forall₂ Eases (es.map (·.2)) (fs.map (·.2))) : Eases (.dict es) (.dict fs)
  | undefined {u u' : Undefined} (hm : u.message = u'.message) (hs : u'.strict → u.strict) :
      Eases (.undefined u) (.undefined u')

/-- Entries with the same keys and eased values. -/
abbrev EntriesEase : List (Value × Value) → List (Value × Value) → Prop :=
  List.Forall₂ fun e f => e.1 = f.1 ∧ Eases e.2 f.2

/-- Named values with the same names and eased values. -/
abbrev NamedEase : List (String × Value) → List (String × Value) → Prop :=
  List.Forall₂ fun e f => e.1 = f.1 ∧ Eases e.2 f.2

theorem allEase_refl (vs : List Value) : List.Forall₂ Eases vs vs :=
  List.forall₂_same.mpr fun v _ => .same v

theorem entriesEase_iff {es fs : List (Value × Value)} :
    EntriesEase es fs ↔
      es.map (·.1) = fs.map (·.1) ∧ List.Forall₂ Eases (es.map (·.2)) (fs.map (·.2)) := by
  induction es generalizing fs with
  | nil => cases fs <;> simp
  | cons e es ih => cases fs <;> simp [ih, and_assoc, and_left_comm]

section

variable {v w : Value} {xs : List Value} {es : List (Value × Value)} {u : Undefined}

theorem Eases.list_left (h : Eases (.list xs) w) : ∃ ys, w = .list ys ∧ List.Forall₂ Eases xs ys := by
  cases h with
  | same => exact ⟨xs, rfl, allEase_refl xs⟩
  | list h => exact ⟨_, rfl, h⟩

theorem Eases.tuple_left (h : Eases (.tuple xs) w) :
    ∃ ys, w = .tuple ys ∧ List.Forall₂ Eases xs ys := by
  cases h with
  | same => exact ⟨xs, rfl, allEase_refl xs⟩
  | tuple h => exact ⟨_, rfl, h⟩

theorem Eases.dict_left (h : Eases (.dict es) w) : ∃ fs, w = .dict fs ∧ EntriesEase es fs := by
  cases h with
  | same => exact ⟨es, rfl, entriesEase_iff.mpr ⟨rfl, allEase_refl _⟩⟩
  | dict hkeys hvalues => exact ⟨_, rfl, entriesEase_iff.mpr ⟨hkeys, hvalues⟩⟩

theorem Eases.dict_of {es fs : List (Value × Value)} (h : EntriesEase es fs) :
    Eases (.dict es) (.dict fs) :=
  have h := entriesEase_iff.mp h
  .dict h.1 h.2

theorem Eases.undefined_left (h : Eases (.undefined u) w) :
    ∃ u', w = .undefined u' ∧ u.message = u'.message ∧ (u'.strict → u.strict) := by
  cases h with
  | same => exact ⟨u, rfl, rfl, id⟩
  | undefined hm hs => exact ⟨_, rfl, hm, hs⟩

end

mutual

theorem quoted_eases {v w : Value} (h : Eases v w) : v.quoted = w.quoted := by
  match v, h with
  | .list xs, h =>
      obtain ⟨ys, rfl, hxs⟩ := h.list_left
      rw [quoted, quoted, quotedItems_ease hxs]
  | .tuple xs, h =>
      obtain ⟨ys, rfl, hxs⟩ := h.tuple_left
      -- A tuple of one item is written with a comma, and so is an eased one.
      cases hxs with
      | nil => rfl
      | cons hv hvs =>
          cases hvs with
          | nil => simp only [quoted, quoted_eases hv]
          | cons hv' hvs =>
              have hitems := quotedItems_ease (.cons hv (.cons hv' hvs))
              simp only [quoted, hitems]
  | .dict es, h =>
      obtain ⟨fs, rfl, hes⟩ := h.dict_left
      rw [quoted, quoted, quotedEntries_ease hes]
  | .undefined u, h =>
      obtain ⟨u', rfl, -⟩ := h.undefined_left
      rfl
  | .null, h | .bool _, h | .int _, h | .float _, h | .text _, h | .markup _, h | .loop .., h
  | .function _, h | .moment _, h => cases h; rfl

theorem quotedItems_ease {vs ws : List Value} (h : List.Forall₂ Eases vs ws) :
    quotedItems vs = quotedItems ws := by
  match vs, h with
  | [], h => cases h; rfl
  | v :: vs, .cons hv hvs => rw [quotedItems, quotedItems, quoted_eases hv, quotedItems_ease hvs]

theorem quotedEntries_ease {es fs : List (Value × Value)} (h : EntriesEase es fs) :
    quotedEntries es = quotedEntries fs := by
  match es, h with
  | [], h => cases h; rfl
  | (k, v) :: es, .cons hv hes =>
      obtain ⟨hk, hv⟩ := hv
      obtain rfl : k = _ := hk
      rw [quotedEntries, quotedEntries, quoted_eases hv, quotedEntries_ease hes]

end


variable {v v' w w' : Value} {xs ys : List Value} {es fs : List (Value × Value)}

/-- A value that holds no others and is defined. -/
def isLeaf : Value → Bool
  | .list _ | .tuple _ | .dict _ | .undefined _ => false
  | _ => true

theorem shown_eases (h : Eases v w) : v.shown = w.shown := by
  have hquoted := quoted_eases h
  cases h with
  | undefined => rfl
  | _ => first | rfl | exact hquoted

theorem text?_eases (h : Eases v w) : v.text? = w.text? := by cases h <;> rfl

theorem number?_eases (h : Eases v w) : v.number? = w.number? := by cases h <;> rfl

theorem whole?_eases (h : Eases v w) : v.whole? = w.whole? := by cases h <;> rfl

theorem isSequence_eases (h : Eases v w) : v.isSequence = w.isSequence := by cases h <;> rfl

theorem isMarkup_eases (h : Eases v w) : Filter.isMarkup v = Filter.isMarkup w := by
  cases h <;> rfl

theorem str_eases (h : Eases v w) : Carries Eq v.str w.str := by
  have hshown := shown_eases h
  cases v with
  | undefined u =>
      obtain ⟨u', rfl, -, hs⟩ := h.undefined_left
      exact .lenient hs rfl
  | _ => 
    cases h <;> exact .ok hshown

theorem escaped_eases (h : Eases v w) : Carries Eq v.escaped w.escaped := by
  have hstr := str_eases h
  cases v with
  | markup s => cases h; exact .ok rfl
  | _ => cases h <;> exact hstr.map fun _ _ h => congrArg escape h

theorem truth_eases (h : Eases v w) : Carries Eq v.truth w.truth := by
  cases v with
  | undefined u =>
      obtain ⟨u', rfl, -, hs⟩ := h.undefined_left
      exact .lenient hs rfl
  | list xs =>
      obtain ⟨ys, rfl, hxs⟩ := h.list_left
      cases hxs <;> exact .ok rfl
  | tuple xs =>
      obtain ⟨ys, rfl, hxs⟩ := h.tuple_left
      cases hxs <;> exact .ok rfl
  | dict es =>
      obtain ⟨fs, rfl, hes⟩ := h.dict_left
      cases hes <;> exact .ok rfl
  | _ => cases h; exact .ok rfl

theorem length_eases (h : Eases v w) : Carries Eq v.length w.length := by
  cases v with
  | undefined u =>
      obtain ⟨u', rfl, -, hs⟩ := h.undefined_left
      exact .lenient hs rfl
  | list xs =>
      obtain ⟨ys, rfl, hxs⟩ := h.list_left
      exact .ok hxs.length_eq
  | tuple xs =>
      obtain ⟨ys, rfl, hxs⟩ := h.tuple_left
      exact .ok hxs.length_eq
  | dict es =>
      obtain ⟨fs, rfl, hes⟩ := h.dict_left
      exact .ok hes.length_eq
  | text | markup | loop => cases h; exact .ok rfl
  | _ => exact .error trivial

theorem items_eases (h : Eases v w) : Carries (List.Forall₂ Eases) v.items w.items := by
  cases v with
  | undefined u =>
      obtain ⟨u', rfl, -, hs⟩ := h.undefined_left
      exact .lenient hs .nil
  | list xs =>
      obtain ⟨ys, rfl, hxs⟩ := h.list_left
      exact .ok hxs
  | tuple xs =>
      obtain ⟨ys, rfl, hxs⟩ := h.tuple_left
      exact .ok hxs
  | dict es =>
      obtain ⟨fs, rfl, hes⟩ := h.dict_left
      refine .ok ?_
      rw [(entriesEase_iff.mp hes).1]
      exact allEase_refl _
  | text | markup => cases h; exact .ok (allEase_refl _)
  | _ => exact .error trivial

/-- The entry of a key among entries whose values are eased. -/
theorem findSome_ease (k : Value) (h : EntriesEase es fs) :
    Option.Rel Eases (es.findSome? fun e => if isTrue (equal k e.1) then some e.2 else none)
      (fs.findSome? fun e => if isTrue (equal k e.1) then some e.2 else none) := by
  induction h with
  | nil => exact .none
  | @cons e f es fs hef _ ih =>
      rw [List.findSome?_cons, List.findSome?_cons, ← hef.1]
      by_cases hk : isTrue (equal k e.1)
      · simp only [hk, if_true]
        exact .some hef.2
      · simp only [hk]
        exact ih

/-- Nothing but a list equals a list, and so on. -/
theorem equal_leaf {v : Value} (hv : v.isLeaf) (hw : Eases w w') :
    Carries Eq (equal v w) (equal v w') := by
  cases w with
  | undefined u =>
      obtain ⟨u', rfl, -, hs⟩ := hw.undefined_left
      cases v <;> first | exact .lenient hs rfl | cases hv
  | _ => 
      cases v <;> first | (cases hw <;> exact .ok rfl) | cases hv

/-- An undefined value equals its like alone, and whichever is strict refuses to be asked. -/
theorem equal_undefined {u u' : Undefined} (hu : u'.strict → u.strict) (hw : Eases w w') :
    Carries Eq (equal (.undefined u) w) (equal (.undefined u') w') := by
  by_cases hs : u.strict
  · simp only [equal, if_pos hs]
    exact .refuse
  · simp only [equal, if_neg hs, if_neg fun hs' => hs (hu hs')]
    cases w with
    | undefined u₂ =>
        obtain ⟨u₂', rfl, -, hs₂⟩ := hw.undefined_left
        exact .lenient hs₂ rfl
    | _ => cases hw <;> exact .ok rfl

mutual

theorem equal_eases {v v' w w' : Value} (hv : Eases v v') (hw : Eases w w') :
    Carries Eq (equal v w) (equal v' w') := by
  -- An undefined value on the right decides, whatever is on the left. Two containers of one kind
  -- are compared item by item, and other values are leaves.
  match v, hv with
  | .undefined u, hv =>
      obtain ⟨u', rfl, -, hs⟩ := hv.undefined_left
      exact equal_undefined hs hw
  | .list xs, hv =>
      obtain ⟨xs', rfl, hxs⟩ := hv.list_left
      cases w with
      | undefined u =>
          obtain ⟨u', rfl, -, hs⟩ := hw.undefined_left
          exact .lenient hs rfl
      | list ys =>
          obtain ⟨ys', rfl, hys⟩ := hw.list_left
          simp only [equal, ← hxs.length_eq, ← hys.length_eq]
          exact .ite (equalItems_ease hxs hys) (.ok rfl)
      | _ => cases hw <;> exact .ok rfl
  | .tuple xs, hv =>
      obtain ⟨xs', rfl, hxs⟩ := hv.tuple_left
      cases w with
      | undefined u =>
          obtain ⟨u', rfl, -, hs⟩ := hw.undefined_left
          exact .lenient hs rfl
      | tuple ys =>
          obtain ⟨ys', rfl, hys⟩ := hw.tuple_left
          simp only [equal, ← hxs.length_eq, ← hys.length_eq]
          exact .ite (equalItems_ease hxs hys) (.ok rfl)
      | _ => cases hw <;> exact .ok rfl
  | .dict es, hv =>
      obtain ⟨es', rfl, hes⟩ := hv.dict_left
      cases w with
      | undefined u =>
          obtain ⟨u', rfl, -, hs⟩ := hw.undefined_left
          exact .lenient hs rfl
      | dict fs =>
          obtain ⟨fs', rfl, hfs⟩ := hw.dict_left
          simp only [equal, ← hes.length_eq, ← hfs.length_eq]
          exact .ite (equalEntries_ease hes hfs) (.ok rfl)
      | _ => cases hw <;> exact .ok rfl
  | .null, hv | .bool _, hv | .int _, hv | .float _, hv | .text _, hv | .markup _, hv | .loop .., hv
  | .function _, hv | .moment _, hv =>
    cases hv
    exact equal_leaf rfl hw

theorem equalItems_ease {xs xs' ys ys' : List Value} (hxs : List.Forall₂ Eases xs xs')
    (hys : List.Forall₂ Eases ys ys') : Carries Eq (equalItems xs ys) (equalItems xs' ys') := by
  match xs, hxs, ys, hys with
  | [], .nil, _, _ => cases hys <;> exact .ok rfl
  | _ :: _, .cons .., [], .nil => exact .ok rfl
  | x :: xs, .cons hx hxs, y :: ys, .cons hy hys =>
      refine (equal_eases hx hy).bind ?_
      rintro b _ rfl
      exact .ite (equalItems_ease hxs hys) (.ok rfl)

theorem equalEntries_ease {es es' fs fs' : List (Value × Value)} (hes : EntriesEase es es')
    (hfs : EntriesEase fs fs') : Carries Eq (equalEntries es fs) (equalEntries es' fs') := by
  match es, es', hes with
  | [], [], .nil => exact .ok rfl
  | (k, v) :: es, (k', v') :: es', .cons hkv hes =>
      obtain ⟨hk, hv⟩ := hkv
      obtain rfl : k = k' := hk
      rw [equalEntries, equalEntries]
      rcases rel_cases (findSome_ease k hfs) with ⟨hw, hw'⟩ | ⟨w, w', hw, hw', hww'⟩
      · rw [hw, hw']
        exact .ok rfl
      · rw [hw, hw']
        refine (equal_eases hv hww').bind ?_
        rintro b _ rfl
        exact .ite (equalEntries_ease hes hfs) (.ok rfl)

end

mutual

/-- A value that can be a key has nothing in it that can be eased. -/
theorem eq_of_keyFault? {v w : Value} (h : Eases v w) (hv : v.keyFault? = none) : v = w := by
  match v, h with
  | .undefined ⟨m, s⟩, h =>
      obtain ⟨⟨m', s'⟩, rfl, hm, hs⟩ := h.undefined_left
      obtain rfl : m = m' := hm
      cases s with
      | true => cases hv
      | false =>
          cases s' with
          | true => exact absurd (hs rfl) Bool.false_ne_true
          | false => rfl
  | .tuple xs, h =>
      obtain ⟨ys, rfl, hxs⟩ := h.tuple_left
      rw [eq_of_keyFaultItems? hxs hv]
  | .list _, _ | .dict _, _ => cases hv
  | .null, h | .bool _, h | .int _, h | .float _, h | .text _, h | .markup _, h | .loop .., h
  | .function _, h | .moment _, h => cases h; rfl

theorem eq_of_keyFaultItems? {xs ys : List Value} (h : List.Forall₂ Eases xs ys)
    (hxs : keyFaultItems? xs = none) : xs = ys := by
  match xs, h with
  | [], .nil => rfl
  | x :: xs, .cons hx hrest =>
      rw [keyFaultItems?, Option.or_eq_none_iff] at hxs
      rw [eq_of_keyFault? hx hxs.1, eq_of_keyFaultItems? hrest hxs.2]

end

theorem eq_of_findSome? {vs ws : List Value} (h : List.Forall₂ Eases vs ws)
    (hvs : vs.findSome? keyFault? = none) : vs = ws := by
  rw [List.findSome?_eq_none_iff] at hvs
  rw [← List.forall₂_eq_eq_eq]
  exact ((List.forall₂_and_left _ _).mpr ⟨hvs, h⟩).imp fun _ _ h => eq_of_keyFault? h.2 h.1

mutual

/-- What keeps a value from being a key keeps an eased one, but for undefined values. -/
theorem keyFault?_eases {v w : Value} (h : Eases v w) :
    (∃ m, v.keyFault? = some (.undefined m)) ∨ v.keyFault? = w.keyFault? := by
  match v, h with
  | .undefined u, h =>
      obtain ⟨u', rfl, -, hs⟩ := h.undefined_left
      by_cases hu : u.strict
      · exact .inl ⟨u.message, by rw [keyFault?, if_pos hu]⟩
      · rw [keyFault?, keyFault?, if_neg hu, if_neg fun hu' => hu (hs hu')]
        exact .inr rfl
  | .tuple xs, h =>
      obtain ⟨ys, rfl, hxs⟩ := h.tuple_left
      exact keyFaultItems?_ease hxs
  | .list xs, h =>
      obtain ⟨ys, rfl, -⟩ := h.list_left
      exact .inr rfl
  | .dict es, h =>
      obtain ⟨fs, rfl, -⟩ := h.dict_left
      exact .inr rfl
  | .null, h | .bool _, h | .int _, h | .float _, h | .text _, h | .markup _, h | .loop .., h
  | .function _, h | .moment _, h => cases h; exact .inr rfl

theorem keyFaultItems?_ease {xs ys : List Value} (h : List.Forall₂ Eases xs ys) :
    (∃ m, keyFaultItems? xs = some (.undefined m)) ∨ keyFaultItems? xs = keyFaultItems? ys := by
  match xs, h with
  | [], .nil => exact .inr rfl
  | x :: xs, .cons hx hrest =>
      rw [keyFaultItems?, keyFaultItems?]
      rcases keyFault?_eases hx with ⟨m, hm⟩ | hsame
      · exact .inl ⟨m, by rw [hm, Option.some_or]⟩
      · rw [← hsame]
        cases keyFault? x with
        | some f => exact .inr rfl
        | none => exact keyFaultItems?_ease hrest

end

mutual

/-- What keeps a value from being a key is a fault of its use. -/
theorem keyFault?_ofUse {v : Value} {f : Fault} (h : v.keyFault? = some f) : f.OfUse := by
  match v with
  | .undefined u =>
      rw [keyFault?] at h
      split at h <;> cases h
      trivial
  | .tuple xs => exact keyFaultItems?_ofUse h
  | .list _ | .dict _ => cases h; trivial
  | .null | .bool _ | .int _ | .float _ | .text _ | .markup _ | .loop .. | .function _ => cases h

theorem keyFaultItems?_ofUse {xs : List Value} {f : Fault} (h : keyFaultItems? xs = some f) :
    f.OfUse := by
  match xs with
  | [] => cases h
  | x :: xs =>
      rw [keyFaultItems?] at h
      rcases Option.or_eq_some_iff.mp h with h | ⟨-, h⟩
      · exact keyFault?_ofUse h
      · exact keyFaultItems?_ofUse h

end

theorem findEntry_ease (k : Value) (h : EntriesEase es fs) :
    Option.Rel Eases (findEntry k es) (findEntry k fs) := findSome_ease k h

theorem lookup?_eases (hv : Eases v v') (h : EntriesEase es fs) :
    Carries (Option.Rel Eases) (lookup? v es) (lookup? v' fs) := by
  unfold lookup?
  cases hkey : v.keyFault? with
  | some f => exact .error (keyFault?_ofUse hkey)
  | none =>
      obtain rfl := eq_of_keyFault? hv hkey
      simp only [hkey]
      exact .ok (findEntry_ease v h)

theorem putEntry_ease {k : Value} (hv : Eases v v') (h : EntriesEase es fs) :
    EntriesEase (putEntry k v es) (putEntry k v' fs) := by
  induction h with
  | nil => exact .cons ⟨rfl, hv⟩ .nil
  | @cons e f es fs hef hrest ih =>
      obtain ⟨k₁, v₁⟩ := e
      obtain ⟨k₂, v₂⟩ := f
      obtain ⟨hk, hv₁⟩ := hef
      obtain rfl : k₁ = k₂ := hk
      rw [putEntry, putEntry]
      split
      · exact .cons ⟨rfl, hv⟩ hrest
      · exact .cons ⟨rfl, hv₁⟩ ih

/-- The order of values that are not of one kind of sequence is that of numbers or texts. -/
theorem ordered_leaf (r : Relation) {v : Value} (hv : v.isLeaf) (hw : Eases w w') :
    Carries Eq (ordered r v w) (ordered r v w') := by
  cases w with
  | undefined u => cases v <;> exact .refuse
  | list | tuple => cases v <;> first | exact .error trivial | cases hv
  | dict => cases v <;> exact .error trivial
  | _ => cases hw; cases v <;> first | exact .ok rfl | exact .error trivial

mutual

theorem ordered_eases (r : Relation) {v v' w w' : Value} (hv : Eases v v') (hw : Eases w w') :
    Carries Eq (ordered r v w) (ordered r v' w') := by
  -- An undefined value cannot be ordered on either side, strict or not.
  match v, hv with
  | .undefined u, hv =>
      rw [ordered]
      exact .refuse
  | .list xs, hv =>
      obtain ⟨xs', rfl, hxs⟩ := hv.list_left
      cases w with
      | undefined u => exact .refuse
      | list ys =>
          obtain ⟨ys', rfl, hys⟩ := hw.list_left
          exact orderedItems_ease r hxs hys
      | _ => exact .error trivial
  | .tuple xs, hv =>
      obtain ⟨xs', rfl, hxs⟩ := hv.tuple_left
      cases w with
      | undefined u => exact .refuse
      | tuple ys =>
          obtain ⟨ys', rfl, hys⟩ := hw.tuple_left
          exact orderedItems_ease r hxs hys
      | _ => exact .error trivial
  | .dict es, hv =>
      cases w with
      | undefined u => exact .refuse
      | _ => exact .error trivial
  | .null, hv | .bool _, hv | .int _, hv | .float _, hv | .text _, hv | .markup _, hv | .loop .., hv
  | .function _, hv | .moment _, hv =>
    cases hv
    exact ordered_leaf r rfl hw

theorem orderedItems_ease (r : Relation) {xs xs' ys ys' : List Value}
    (hxs : List.Forall₂ Eases xs xs') (hys : List.Forall₂ Eases ys ys') :
    Carries Eq (orderedItems r xs ys) (orderedItems r xs' ys') := by
  match xs, hxs, ys, hys with
  | [], .nil, [], .nil => exact .ok rfl
  | [], .nil, _ :: _, .cons .. => exact .ok rfl
  | _ :: _, .cons .., [], .nil => exact .ok rfl
  | x :: xs, .cons hx hxs, y :: ys, .cons hy hys =>
      refine (equal_eases hx hy).bind ?_
      rintro b _ rfl
      exact .ite (orderedItems_ease r hxs hys) (ordered_eases r hx hy)

end

theorem memberOf_ease (hv : Eases v v') (hxs : List.Forall₂ Eases xs ys) :
    Carries Eq (memberOf v xs) (memberOf v' ys) := by
  induction hxs with
  | nil => exact .ok rfl
  | cons hxy _ ih =>
      rw [memberOf, memberOf]
      refine (equal_eases hxy hv).bind ?_
      rintro b _ rfl
      exact .ite (.ok rfl) ih

theorem member_eases (hv : Eases v v') (hw : Eases w w') :
    Carries Eq (member v w) (member v' w') := by
  have htext := text?_eases hv
  cases w with
  | undefined u =>
      obtain ⟨u', rfl, -, hs⟩ := hw.undefined_left
      exact .lenient hs rfl
  | list xs =>
      obtain ⟨ys, rfl, hxs⟩ := hw.list_left
      exact memberOf_ease hv hxs
  | tuple xs =>
      obtain ⟨ys, rfl, hxs⟩ := hw.tuple_left
      exact memberOf_ease hv hxs
  | dict es =>
      obtain ⟨fs, rfl, hes⟩ := hw.dict_left
      exact (lookup?_eases hv hes).map fun _ _ h => isSome_of_rel h
  | text s | markup s =>
      cases hw
      simp only [member, ← htext]
      cases v.text? with
      | none => exact .error trivial
      | some a => exact .ok rfl
  | _ => exact .error trivial

end Value

end Stencil
