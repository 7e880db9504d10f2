import Stencil.Decimal.Shortest
import Stencil.Text.Quoted

/-!
# Values

What templates, scripts and helpers compute with. Data comes in as nulls,
booleans, integers of any size, doubles, texts, lists and mappings; templates add
tuples, texts that are already markup, the loop object, functions, and the undefined
value that stands for a name or a member that does not exist. Settings may hold dates
and times, of which nothing is asked but what they are and how they read.

A mapping is the list of its entries in order of insertion. The keys of view data
are texts, but a template may write a mapping with any hashable key, so entries
hold values on both sides.

## Main definitions

* `Undefined`: The value of a missing name or member.
* `Moment`: A date or a time.
* `Lookup`: The functions in reach of templates.
* `Value`: All values.
* `Value.kindName`: The name of a value's kind, as error texts give it.
* `Value.quoted`: A value as it is written inside a list.
* `Value.shown`: A value as text.
* `Bindings`: Named values in order of insertion.
* `Bindings.get?`, `Bindings.set`, `Bindings.update`: Reading and writing them.

## Theorems

* `Bindings.get?_set_self`, `Bindings.get?_set_of_ne`: Reading after a write.
* `Bindings.keys_set`: A write keeps the place of a key it finds and appends one it
  does not.
-/

namespace Stencil

/-- The value of something that does not exist. A strict one refuses every use
    but asking whether it is there; its text says what is missing. -/
structure Undefined where
  message : String
  strict : Bool
deriving DecidableEq

/-- The functions in reach of templates: those of the translation setting, the first of
    which looks `gettext` up by name when it is called, and the one of the loop object that
    picks the argument for its round. -/
inductive Lookup where
  | byName
  | gettext
  | ngettext
  | pgettext
  | npgettext
  | cycle (index0 length : Nat)
deriving DecidableEq

/-- The kinds of dates and times. -/
inductive MomentKind where
  | date
  | time
  | datetime
deriving DecidableEq

def MomentKind.name : MomentKind → String
  | .date => "date"
  | .time => "time"
  | .datetime => "datetime"

/-- A date or a time: its kind, and how it is shown alone and inside a list. -/
structure Moment where
  kind : MomentKind
  shown : String
  quoted : String
deriving DecidableEq

/-- The values of templates, scripts and helpers. -/
inductive Value where
  | null
  | bool (b : Bool)
  | int (n : Int)
  | float (x : Float)
  | text (s : String)
  | markup (s : String)
  | list (items : List Value)
  | tuple (items : List Value)
  | dict (entries : List (Value × Value))
  | undefined (u : Undefined)
  | loop (index0 length : Nat)
  | function (f : Lookup)
  | moment (m : Moment)

instance : Inhabited Value := ⟨.null⟩

namespace Value

/-- The name of a value's kind. -/
def kindName : Value → String
  | .null => "NoneType"
  | .bool _ => "bool"
  | .int _ => "int"
  | .float _ => "float"
  | .text _ => "str"
  | .markup _ => "Markup"
  | .list _ => "list"
  | .tuple _ => "tuple"
  | .dict _ => "dict"
  | .undefined u => if u.strict then "StrictUndefined" else "Undefined"
  | .loop .. => "LoopContext"
  | .function .byName => "function"
  | .function _ => "method"
  | .moment m => "datetime." ++ m.kind.name

/-- The name of a value's class, which is that of its kind but for dates and times. -/
def className : Value → String
  | .moment m => m.kind.name
  | v => v.kindName

/-- The name under which a value is said to lack a member. -/
def ownerName : Value → String
  | .null => "None"
  | .markup _ => "markupsafe.Markup object"
  | .loop .. => "jinja2.runtime.LoopContext object"
  | v => v.kindName ++ " object"

/-- A boolean as text. -/
def boolText (b : Bool) : String := if b then "True" else "False"

/-- The loop object as text. -/
def loopText (index0 length : Nat) : String :=
  "<LoopContext " ++ toString (index0 + 1) ++ "/" ++ toString length ++ ">"

/-- A function as text. -/
def functionText : Lookup → String
  | .cycle index0 length => "<bound method LoopContext.cycle of " ++ loopText index0 length ++ ">"
  | _ => "<function>"

mutual

/-- A value as it is written inside a list. -/
def quoted : Value → String
  | .null => "None"
  | .bool b => boolText b
  | .int n => toString n
  | .float x => Decimal.text x
  | .text s => Text.quoted s
  | .markup s => "Markup(" ++ Text.quoted s ++ ")"
  | .list items => "[" ++ ", ".intercalate (quotedItems items) ++ "]"
  | .tuple items =>
    match items with
    | [v] => "(" ++ quoted v ++ ",)"
    | items => "(" ++ ", ".intercalate (quotedItems items) ++ ")"
  | .dict entries => "\x7b" ++ ", ".intercalate (quotedEntries entries) ++ "\x7d"
  | .undefined _ => "Undefined"
  | .loop i n => loopText i n
  | .function f => functionText f
  | .moment m => m.quoted

/-- The items of a list as they are written. -/
def quotedItems : List Value → List String
  | [] => []
  | v :: vs => quoted v :: quotedItems vs

/-- The entries of a mapping as they are written. -/
def quotedEntries : List (Value × Value) → List String
  | [] => []
  | (k, v) :: es => (quoted k ++ ": " ++ quoted v) :: quotedEntries es

end

/-- A value as text. The undefined value is the empty text; whether it may be
    read at all is decided by `Value.str`. -/
def shown : Value → String
  | .text s => s
  | .markup s => s
  | .undefined _ => ""
  | .moment m => m.shown
  | v => v.quoted

end Value

/-- Named values in order of insertion. -/
abbrev Bindings := List (String × Value)

namespace Bindings

/-- The value bound to a name. -/
def get? (b : Bindings) (k : String) : Option Value := b.lookup k

/-- Whether a name is bound. -/
def has (b : Bindings) (k : String) : Bool := (b.get? k).isSome

/-- The bound names in order. -/
def keys (b : Bindings) : List String := b.map (·.1)

/-- Binds a name. A bound name keeps its place, a new one comes last. -/
def set : Bindings → String → Value → Bindings
  | [], k, v => [(k, v)]
  | (k', v') :: b, k, v => if k = k' then (k, v) :: b else (k', v') :: set b k v

/-- Binds the names of `new` one after the other. -/
def update (b new : Bindings) : Bindings := new.foldl (fun b e => b.set e.1 e.2) b

/-- The bindings as a mapping with texts for keys. -/
def toValue (b : Bindings) : Value := .dict (b.map fun e => (.text e.1, e.2))

/-- The entries of a mapping whose keys are texts. -/
def ofEntries (es : List (Value × Value)) : Bindings :=
  es.filterMap fun e =>
    match e.1 with
    | .text k => some (k, e.2)
    | _ => none

theorem get?_set_self (b : Bindings) (k : String) (v : Value) : (b.set k v).get? k = some v := by
  induction b with
  | nil => simp [set, get?]
  | cons e b ih =>
    obtain ⟨k', v'⟩ := e
    by_cases h : k = k'
    · simp [set, get?, h]
    · have hb : (k == k') = false := by simpa using h
      simpa [set, get?, h, List.lookup_cons, hb] using ih

theorem get?_set_of_ne {j k : String} (b : Bindings) (v : Value) (h : j ≠ k) :
    (b.set k v).get? j = b.get? j := by
  have hj : (j == k) = false := by simpa using h
  induction b with
  | nil => simp [set, get?, List.lookup_cons, hj]
  | cons e b ih =>
    obtain ⟨k', v'⟩ := e
    by_cases hk : k = k'
    · subst hk; simp [set, get?, List.lookup_cons, hj]
    · by_cases hj' : j = k'
      · subst hj'; simp [set, get?, hk]
      · have hb : (j == k') = false := by simpa using hj'
        simpa [set, get?, hk, List.lookup_cons, hb] using ih

theorem keys_set_of_mem {b : Bindings} {k : String} (v : Value) (h : k ∈ b.keys) :
    (b.set k v).keys = b.keys := by
  induction b with
  | nil => simp [keys] at h
  | cons e b ih =>
    obtain ⟨k', v'⟩ := e
    by_cases hk : k = k'
    · simp [set, keys, hk]
    · have : k ∈ keys b := by simpa [keys, hk] using h
      simpa [set, keys, hk] using ih this

theorem keys_set_of_not_mem {b : Bindings} {k : String} (v : Value) (h : k ∉ b.keys) :
    (b.set k v).keys = b.keys ++ [k] := by
  induction b with
  | nil => simp [set, keys]
  | cons e b ih =>
    obtain ⟨k', v'⟩ := e
    have hk : k ≠ k' := by
      intro hk
      exact h (by simp [keys, hk])
    have : k ∉ keys b := fun hm => h (by simp only [keys, List.map_cons, List.mem_cons]; exact .inr hm)
    simpa [set, keys, hk] using ih this

theorem keys_set (b : Bindings) (k : String) (v : Value) :
    (b.set k v).keys = if k ∈ b.keys then b.keys else b.keys ++ [k] := by
  by_cases h : k ∈ b.keys
  · rw [if_pos h, keys_set_of_mem v h]
  · rw [if_neg h, keys_set_of_not_mem v h]

end Bindings

end Stencil
