import Stencil.Proofs.Inert
import Stencil.Stateful

/-!
# What operators keep

A property of values is kept by what templates do to them if all plain values have it, lists
and mappings have it with their items, and markup has it that is put together from parts of
such markup and from what is escaped. Then sums, products, members and items have it as well,
because operators only take values apart and put them together.

One such property is that a value is clean: every markup in it is inert, however deep in
lists and mappings it stands. What comes in as data has no markup in it, so it is clean.

A computation may fail, and what it gives has a property if it gives anything.

## Main definitions

* `Ensures`: Whatever a computation gives has a property.
* `Value.Clean`: Every markup in a value is inert.
* `Value.Kept`: A property that is kept by what templates do to values.

## Theorems

* `Ensures.bind`: Computations one after the other.
* `Value.escaped_inert`: The markup of a clean value is inert.
* `Value.Kept.add`, `Value.Kept.mul`: Operators.
* `Value.Kept.item`: Members and items.
-/

namespace Stencil

/-- Whatever a computation gives has a property. -/
def Ensures {ε α : Type} (r : Except ε α) (P : α → Prop) : Prop := ∀ x, r = .ok x → P x

namespace Ensures

variable {ε α β : Type} {P : α → Prop} {Q : β → Prop} {r : Except ε α}

theorem ok {x : α} (h : P x) : Ensures (.ok x : Except ε α) P := by
  intro y hy
  cases hy
  exact h

theorem error {e : ε} : Ensures (.error e : Except ε α) P := nofun

theorem any : Ensures r fun _ => True := fun _ _ => trivial

theorem mono {P' : α → Prop} (hr : Ensures r P) (h : ∀ x, P x → P' x) : Ensures r P' :=
  fun x hx => h x (hr x hx)

theorem bind {f : α → Except ε β} (hr : Ensures r P) (hf : ∀ x, P x → Ensures (f x) Q) :
    Ensures (r >>= f) Q := by
  intro y hy
  obtain ⟨x, hx, hfx⟩ := exists_of_bind_eq_ok hy
  exact hf x (hr x hx) y hfx

/-- Going on alike from what is ensured. -/
theorem bind_congr {f g : α → Except ε β} (hr : Ensures r P) (hf : ∀ x, P x → f x = g x) :
    (r >>= f) = (r >>= g) := by
  cases r with
  | error e => rfl
  | ok x => exact hf x (hr x rfl)

theorem ite {c : Prop} [Decidable c] {r₁ r₂ : Except ε α} (h₁ : Ensures r₁ P)
    (h₂ : Ensures r₂ P) : Ensures (if c then r₁ else r₂) P := by
  split
  · exact h₁
  · exact h₂

theorem map {f : α → β} (hr : Ensures r P) (hf : ∀ x, P x → Q (f x)) : Ensures (r.map f) Q := by
  cases r with
  | error e => exact error
  | ok x => exact ok (hf x (hr x rfl))

theorem mapM {f : α → Except ε β} {xs : List α} (h : ∀ x ∈ xs, Ensures (f x) Q) :
    Ensures (xs.mapM f) fun ys => ∀ y ∈ ys, Q y := by
  induction xs with
  | nil => exact ok nofun
  | cons x xs ih =>
      rw [List.mapM_cons]
      refine bind (h x (List.mem_cons_self ..)) fun y hy => ?_
      refine bind (ih fun z hz => h z (List.mem_cons_of_mem _ hz)) fun ys hys => ok ?_
      exact List.forall_mem_cons.mpr ⟨hy, hys⟩

end Ensures

/-- Whether a computation ensures a property can be decided by running it. -/
instance {ε α : Type} (r : Except ε α) (P : α → Prop) [DecidablePred P] :
    Decidable (Ensures r P) :=
  match r with
  | .ok x => decidable_of_iff (P x) ⟨Ensures.ok, fun h => h x rfl⟩
  | .error _ => .isTrue Ensures.error

namespace Value

mutual

/-- Every markup in a value is inert. -/
def Clean : Value → Prop
  | .markup s => Inert s
  | .list items => AllClean items
  | .tuple items => AllClean items
  | .dict entries => EntriesClean entries
  | _ => True

/-- Every markup in some items is inert. -/
def AllClean : List Value → Prop
  | [] => True
  | v :: vs => Clean v ∧ AllClean vs

/-- Every markup in some entries is inert. -/
def EntriesClean : List (Value × Value) → Prop
  | [] => True
  | (k, v) :: es => (Clean k ∧ Clean v) ∧ EntriesClean es

end

theorem allClean_iff {vs : List Value} : AllClean vs ↔ ∀ v ∈ vs, v.Clean := by
  induction vs with
  | nil => simp [AllClean]
  | cons v vs ih => simp only [AllClean, ih, List.forall_mem_cons]

theorem entriesClean_iff {es : List (Value × Value)} :
    EntriesClean es ↔ ∀ e ∈ es, e.1.Clean ∧ e.2.Clean := by
  induction es with
  | nil => simp [EntriesClean]
  | cons e es ih => simp only [EntriesClean, ih, List.forall_mem_cons]

@[simp] theorem clean_markup {s : String} : (Value.markup s).Clean ↔ Inert s := Iff.rfl

@[simp] theorem clean_text {s : String} : (Value.text s).Clean := trivial

@[simp] theorem clean_list {vs : List Value} : (Value.list vs).Clean ↔ ∀ v ∈ vs, v.Clean :=
  allClean_iff

@[simp] theorem clean_tuple {vs : List Value} : (Value.tuple vs).Clean ↔ ∀ v ∈ vs, v.Clean :=
  allClean_iff

@[simp] theorem clean_dict {es : List (Value × Value)} :
    (Value.dict es).Clean ↔ ∀ e ∈ es, e.1.Clean ∧ e.2.Clean := entriesClean_iff

@[simp] theorem clean_null : Value.null.Clean := trivial

@[simp] theorem clean_bool {b : Bool} : (Value.bool b).Clean := trivial

@[simp] theorem clean_int {n : Int} : (Value.int n).Clean := trivial

@[simp] theorem clean_float {x : Float} : (Value.float x).Clean := trivial

@[simp] theorem clean_undefined {u : Undefined} : (Value.undefined u).Clean := trivial

@[simp] theorem clean_loop {i n : Nat} : (Value.loop i n).Clean := trivial

@[simp] theorem clean_function {f : Lookup} : (Value.function f).Clean := trivial

/-- The markup of a clean value is inert: markup as it is, and what is escaped. -/
theorem escaped_inert {v : Value} (h : v.Clean) : Ensures v.escaped Inert := by
  unfold escaped
  split
  · exact Ensures.ok (clean_markup.mp h)
  · exact Ensures.any.map fun s _ => inert_escape s

/-! ## Properties that are kept -/

/-- A property of values that is kept by what templates do to them: plain values have it, lists
    and mappings have it with their items, and so has markup that is made of parts of markup that
    has it and of what is escaped. -/
structure Kept (P : Value → Prop) : Prop where
  null : P .null
  bool (b : Bool) : P (.bool b)
  int (n : Int) : P (.int n)
  float (x : Float) : P (.float x)
  text (s : String) : P (.text s)
  undefined (u : Undefined) : P (.undefined u)
  loop (i n : Nat) : P (.loop i n)
  cycle (i n : Nat) : P (.function (.cycle i n))
  list {vs : List Value} : P (.list vs) ↔ ∀ v ∈ vs, P v
  tuple {vs : List Value} : P (.tuple vs) ↔ ∀ v ∈ vs, P v
  dict {es : List (Value × Value)} : P (.dict es) ↔ ∀ e ∈ es, P e.1 ∧ P e.2
  spelled (s : String) : P (.markup (escape s))
  part {s t : String} : P (.markup s) → (∀ c ∈ t.toList, c ∈ s.toList) → P (.markup t)
  append {s t : String} : P (.markup s) → P (.markup t) → P (.markup (s ++ t))
  joined {ts : List String} : (∀ t ∈ ts, P (.markup t)) → P (.markup (String.join ts))
  separated {sep : String} {ts : List String} : P (.markup sep) → (∀ t ∈ ts, P (.markup t)) →
    P (.markup (sep.intercalate ts))
  upper {s : String} : P (.markup s) → P (.markup (String.ofList (Text.upper s.toList)))
  lower {s : String} : P (.markup s) → P (.markup (String.ofList (Text.lower s.toList)))
  filled {s : String} {v : Value} : P (.markup s) → P v →
    Ensures (Format.fill s (Format.supplyOf true v)) fun t => P (.markup t)

variable {P : Value → Prop}

/-! ## Operators on numbers and sequences -/

/-- An integer or a double. -/
inductive Numeric : Value → Prop where
  | int (n : Int) : Numeric (.int n)
  | float (x : Float) : Numeric (.float x)

theorem onFloats_ensures {f : Float → Float → Except Fault Value}
    (h : ∀ x y, Ensures (f x y) P) (a b : Number) : Ensures (onFloats f a b) P :=
  Ensures.any.bind fun x _ => Ensures.any.bind fun y _ => h x y

/-- An operator that treats two numbers as integers or as doubles. -/
theorem onNumbers_ensures {v w : Value} {whole : Int → Int → Except Fault Value}
    {real : Float → Float → Except Fault Value} {other : Except Fault Value}
    (hwhole : ∀ m n, Ensures (whole m n) P) (hreal : ∀ x y, Ensures (real x y) P)
    (hother : Ensures other P) :
    Ensures (match v.number?, w.number? with
      | some (.int m), some (.int n) => whole m n
      | some a, some b => onFloats real a b
      | _, _ => other) P := by
  split
  · exact hwhole _ _
  · exact onFloats_ensures hreal _ _
  · exact hother

/-- Unless a condition on the divisor refuses it, a result stands. -/
theorem guarded_ensures {c : Prop} [Decidable c] {f : Fault} {v : Value} (h : P v) :
    Ensures (if c then .error f else .ok v) P := .ite .error (.ok h)

theorem sub_numeric (v w : Value) : Ensures (v.sub w) Numeric :=
  Ensures.any.bind fun _ _ => onNumbers_ensures (fun _ _ => .ok (.int _))
    (fun _ _ => .ok (.float _)) .error

theorem quotient_numeric (m n : Int) : Ensures (quotient m n) Numeric := by
  unfold quotient
  refine .ite .error ?_
  split
  · exact Ensures.ok (.float _)
  · exact Ensures.error

theorem div_numeric (v w : Value) : Ensures (v.div w) Numeric :=
  Ensures.any.bind fun _ _ => onNumbers_ensures quotient_numeric
    (fun _ _ => guarded_ensures (.float _)) .error

theorem floorDiv_numeric (v w : Value) : Ensures (v.floorDiv w) Numeric :=
  Ensures.any.bind fun _ _ => onNumbers_ensures (fun _ _ => guarded_ensures (.int _))
    (fun _ _ => guarded_ensures (.float _)) .error

theorem numericMod_numeric (v w : Value) : Ensures (v.numericMod w) Numeric :=
  Ensures.any.bind fun _ _ => onNumbers_ensures (fun _ _ => guarded_ensures (.int _))
    (fun _ _ => guarded_ensures (.float _)) .error

theorem negate_numeric (v : Value) : Ensures v.negate Numeric := by
  unfold negate
  split
  · exact Ensures.error
  · exact Ensures.ok (.float _)
  · split
    · exact Ensures.ok (.int _)
    · exact Ensures.error

theorem affirm_numeric (v : Value) : Ensures v.affirm Numeric := by
  unfold affirm
  split
  · exact Ensures.error
  · exact Ensures.ok (.float _)
  · split
    · exact Ensures.ok (.int _)
    · exact Ensures.error

theorem mem_repeated {α : Type} {xs : List α} {n : Int} {x : α} (h : x ∈ repeated xs n) :
    x ∈ xs := by
  obtain ⟨ys, hys, hx⟩ := List.mem_flatten.mp h
  rwa [List.eq_of_mem_replicate hys] at hx

/-! ## Members and items -/

theorem mem_of_findEntry {k v : Value} {es : List (Value × Value)}
    (hv : findEntry k es = some v) : ∃ e ∈ es, e.2 = v := by
  obtain ⟨e, he, hfound⟩ := List.exists_of_findSome?_eq_some hv
  split at hfound
  · cases hfound
    exact ⟨e, he, rfl⟩
  · cases hfound

theorem mem_of_at? {items : List Value} {n : Int} {v : Value} (hv : at? items n = some v) :
    v ∈ items := by
  unfold at? at hv
  split at hv
  · exact List.mem_of_getElem? hv
  · split at hv
    · exact List.mem_of_getElem? hv
    · cases hv

/-- The item of a sequence at a position, if the position is one. -/
theorem at?_ensures {vs : List Value} (h : ∀ v ∈ vs, P v) (n : Option Int) :
    Ensures (.ok (n.bind (at? vs)) : Except Fault (Option Value))
      fun found => ∀ w, found = some w → P w := by
  refine Ensures.ok fun w hw => ?_
  obtain ⟨n, -, hat⟩ := Option.bind_eq_some_iff.mp hw
  exact h w (mem_of_at? hat)

theorem forall_putEntry {k v : Value} (hk : P k) (hv : P v) {es : List (Value × Value)}
    (h : ∀ e ∈ es, P e.1 ∧ P e.2) : ∀ e ∈ putEntry k v es, P e.1 ∧ P e.2 := by
  induction es with
  | nil => exact List.forall_mem_singleton.mpr ⟨hk, hv⟩
  | cons e es ih =>
      obtain ⟨hhead, htail⟩ := List.forall_mem_cons.mp h
      rw [putEntry]
      split
      · exact List.forall_mem_cons.mpr ⟨⟨hhead.1, hv⟩, htail⟩
      · exact List.forall_mem_cons.mpr ⟨hhead, ih htail⟩

namespace Kept

variable (hP : Kept P) {v w : Value}
include hP

theorem numeric (h : v.Numeric) : P v := by
  cases h with
  | int n => exact hP.int n
  | float x => exact hP.float x

/-- A value as markup: markup as it is, and what is escaped. -/
theorem escaped (h : P v) : Ensures v.escaped fun s => P (.markup s) := by
  unfold Value.escaped
  split
  · exact Ensures.ok h
  · exact Ensures.any.map fun s _ => hP.spelled s

theorem times (h : P v) (n : Int) : P (v.times n) := by
  cases v with
  | text s => exact hP.text _
  | markup s =>
      refine hP.part h fun c hc => ?_
      rw [repeatedText, String.toList_ofList] at hc
      exact mem_repeated hc
  | list xs => exact hP.list.mpr fun v hv => hP.list.mp h v (mem_repeated hv)
  | tuple xs => exact hP.tuple.mpr fun v hv => hP.tuple.mp h v (mem_repeated hv)
  | _ => exact h

theorem add (hv : P v) (hw : P w) : Ensures (v.add w) P := by
  refine Ensures.any.bind fun _ _ => ?_
  split
  · exact Ensures.ok (hP.append hv hw)
  · exact Ensures.ok (hP.append hv (hP.spelled _))
  · exact Ensures.ok (hP.append (hP.spelled _) hw)
  · exact Ensures.ok (hP.text _)
  · exact Ensures.error
  · exact Ensures.ok (hP.list.mpr (List.forall_mem_append.mpr ⟨hP.list.mp hv, hP.list.mp hw⟩))
  · exact Ensures.error
  · exact Ensures.ok (hP.tuple.mpr (List.forall_mem_append.mpr ⟨hP.tuple.mp hv, hP.tuple.mp hw⟩))
  · exact Ensures.error
  · exact onNumbers_ensures (fun _ _ => .ok (hP.int _)) (fun _ _ => .ok (hP.float _)) .error

/-- A value repeated as often as another says. -/
theorem repetition (h : P v) (count : Option Int) {f : Fault} :
    Ensures (match count with
      | some n => (pure (v.times n) : Except Fault Value)
      | none => .error f) P := by
  split
  · exact Ensures.ok (hP.times h _)
  · exact Ensures.error

theorem mul (hv : P v) (hw : P w) : Ensures (v.mul w) P := by
  refine Ensures.any.bind fun _ _ => ?_
  split
  · exact hP.repetition hv _
  · exact hP.repetition hw _
  · refine onNumbers_ensures (fun _ _ => .ok (hP.int _)) (fun _ _ => .ok (hP.float _)) ?_
    exact .ite (hP.repetition hv _) (.ite (hP.repetition hw _) .error)

/-- The characters of a text. -/
theorem characters (s : String) : ∀ v ∈ Value.characters s, P v :=
  List.forall_mem_map.mpr fun _ _ => hP.text _

/-- The characters of markup as markup. -/
theorem markupCharacters {s : String} (h : P (.markup s)) :
    ∀ v ∈ s.toList.map fun c => Value.markup (String.singleton c), P v := by
  refine List.forall_mem_map.mpr fun c hc => hP.part h fun d hd => ?_
  rw [String.toList_singleton] at hd
  exact List.mem_singleton.mp hd ▸ hc

theorem loopMember? {i n : Nat} {name : String} (hv : Value.loopMember? i n name = some v) :
    P v := by
  unfold Value.loopMember? at hv
  split at hv <;> cases hv <;> first | exact hP.int _ | exact hP.bool _ | exact hP.cycle _ _

theorem member? (h : P v) (key : Value) :
    Ensures (v.member? key) fun found => ∀ w, found = some w → P w := by
  unfold Value.member?
  split
  · exact Ensures.error
  · split
    · exact Ensures.error
    · exact Ensures.ok nofun
    · refine Ensures.ok fun w hw => ?_
      obtain ⟨e, he, rfl⟩ := mem_of_findEntry hw
      exact (hP.dict.mp h e he).2
  · exact at?_ensures (hP.list.mp h) _
  · exact at?_ensures (hP.tuple.mp h) _
  · exact at?_ensures (hP.characters _) _
  · exact at?_ensures (hP.markupCharacters h) _
  · refine Ensures.ok fun w hw => ?_
    obtain ⟨name, -, hmember⟩ := Option.bind_eq_some_iff.mp hw
    exact hP.loopMember? hmember
  · exact Ensures.ok nofun

/-- A member is a part of its value, or what stands for a missing one. -/
theorem item (strict : Bool) (h : P v) (key : Value) : Ensures (v.item strict key) P := by
  refine (hP.member? h key).bind fun found hfound => Ensures.ok ?_
  cases found with
  | none => exact hP.undefined _
  | some w => exact hfound w rfl

theorem items (h : P v) : Ensures v.items fun vs => ∀ w ∈ vs, P w := by
  unfold Value.items
  split
  · exact Ensures.ok (hP.list.mp h)
  · exact Ensures.ok (hP.tuple.mp h)
  · exact Ensures.ok (hP.characters _)
  · exact Ensures.ok (hP.characters _)
  · exact Ensures.ok (List.forall_mem_map.mpr fun e he => (hP.dict.mp h e he).1)
  · exact .ite .error (.ok nofun)
  · exact Ensures.error

end Kept

end Value

end Stencil
