import Stencil.World

/-!
# Helpers

A helper is something that templates can call by name: a constant, a function of
its arguments, or an action on the view or registry that it belongs to. Beside the
kinds that have a name there is any other callable that keeps to the data and the
names of where it belongs: what it does is a routine, which goes on by what it has
read, and ends with an answer or by raising something. Callables that belong to no
view share data of their own.

The table of helpers binds each name at most once when helpers are added one by one,
while a whole table laid over it replaces what it finds.

A binding counts the calls of its helper, and a binding made anew starts to count
again. A helper may be absent while its name is bound, and then calling it fails
as if it were not.

The table is part of a scene: the data and helpers of one view, and the world.
Plays are actions on a scene.

## Main definitions

* `Routine`: What a callable does, step by step.
* `Helper`, `HelperTable`: Helpers and their table.
* `HelperTable.bind`, `HelperTable.unbind`, `HelperTable.overlay`: Changing it.
* `Scene`, `Play`: The state that helpers act on.
* `Registry.add`, `Registry.remove`, `Registry.mergeDefaults`: The changes with
  their log.
* `Registry.proxyHas`: What the call proxy shows.
* `Routine.perform`: Going through a routine.

## Theorems

* `HelperTable.find?_bind_self`, `HelperTable.find?_bind_of_ne`: Looking after a
  binding.
* `Play.perform_ofAct`: An action on the world leaves the data and helpers alone.
* `HelperTable.find?_unbind_self`, `HelperTable.find?_unbind_of_ne`: Looking after
  one is gone.
-/

namespace Stencil

/-- A change of the table that a callable makes. It brings constants only. -/
inductive HelperEdit where
  | add (name : String) (v : Value)
  | remove (name : String)

/-- What a callable does, step by step. -/
inductive Routine where
  | answer (v : Value)
  | fail (kind : String) (args : List Value)
  | readData (next : Bindings → Routine)
  /-- Reads the names that are bound, in ascending order. -/
  | readNames (next : List String → Routine)
  | write (entries : Bindings) (next : Routine)
  /-- Changes the table, and may catch what comes of that. -/
  | edit (e : HelperEdit) (next : Routine) (catches : Fault → Bool) (caught : Fault → Routine)

/-- What a name can be bound to. -/
inductive Helper where
  | const (v : Value)
  | echo
  | join (sep : Value)
  | upper
  | raise (kind message : String)
  | count
  /-- Renders another template with the configuration of its view. -/
  | include
  /-- Renders another template with the engine of its view. -/
  | includeShared
  | invoke
  | setData
  | getData
  | addConst
  | remove
  /-- Nothing, though the name is bound. -/
  | absent
  /-- An integer, which cannot be called. -/
  | notCallable
  /-- Any callable that keeps to where it belongs, by what it does with its arguments. -/
  | routine (steps : List Value → List (String × Value) → Routine)

/-- A helper and how often it was called. -/
structure HelperBinding where
  helper : Helper
  calls : Nat

/-- Helpers by name, in order of binding. -/
abbrev HelperTable := List (String × HelperBinding)

namespace HelperTable

/-- What a name is bound to. -/
def find? (t : HelperTable) (name : String) : Option HelperBinding := t.lookup name

/-- Whether a name is bound. -/
def has (t : HelperTable) (name : String) : Bool := (t.find? name).isSome

/-- Binds a name. A bound name keeps its place. -/
def bind : HelperTable → String → HelperBinding → HelperTable
  | [], n, b => [(n, b)]
  | (n', b') :: t, n, b => if n = n' then (n, b) :: t else (n', b') :: bind t n b

/-- Removes a binding. -/
def unbind (t : HelperTable) (name : String) : HelperTable := t.filter (·.1 != name)

/-- Insertion of a name into an ascending list of names. -/
def insertName (n : String) : List String → List String
  | [] => [n]
  | m :: ns => if n ≤ m then n :: m :: ns else m :: insertName n ns

/-- Names in ascending order. -/
def sortNames (ns : List String) : List String := ns.foldr insertName []

/-- The bound names in ascending order. -/
def names (t : HelperTable) : List String := sortNames (t.map (·.1))

/-- Lays helpers over a table, up to the first with an empty name; whether there
    was one is said as well. -/
def overlay (t : HelperTable) : List (String × Helper) → HelperTable × Bool
  | [] => (t, false)
  -- What stands before an empty name has been bound by then.
  | (n, h) :: rest => if n = "" then (t, true) else overlay (t.bind n ⟨h, 0⟩) rest

/-- A table of helpers as it is written: a repeated name keeps its place and takes
    the last helper. -/
def distinct (hs : List (String × Helper)) : List (String × Helper) :=
  (hs.foldl (fun (t : HelperTable) e => t.bind e.1 ⟨e.2, 0⟩) []).map fun e => (e.1, e.2.helper)

theorem find?_bind_self (t : HelperTable) (n : String) (b : HelperBinding) :
    (t.bind n b).find? n = some b := by
  induction t with
  | nil => simp [bind, find?]
  | cons e t ih =>
    obtain ⟨n', b'⟩ := e
    by_cases h : n = n'
    · simp [bind, find?, h]
    · have hn : (n == n') = false := by simpa using h
      simpa [bind, find?, h, List.lookup_cons, hn] using ih

theorem find?_bind_of_ne {m n : String} (t : HelperTable) (b : HelperBinding) (h : m ≠ n) :
    (t.bind n b).find? m = t.find? m := by
  have hm : (m == n) = false := by simpa using h
  induction t with
  | nil => simp [bind, find?, List.lookup_cons, hm]
  | cons e t ih =>
    obtain ⟨n', b'⟩ := e
    by_cases hn : n = n'
    · subst hn; simp [bind, find?, List.lookup_cons, hm]
    · by_cases hm' : m = n'
      · subst hm'; simp [bind, find?, hn]
      · have hb : (m == n') = false := by simpa using hm'
        simpa [bind, find?, hn, List.lookup_cons, hb] using ih

theorem find?_unbind_self (t : HelperTable) (n : String) : (t.unbind n).find? n = none := by
  induction t with
  | nil => rfl
  | cons e t ih =>
    obtain ⟨m, b⟩ := e
    by_cases h : m = n
    · simpa [unbind, find?, h] using ih
    · have hb : (n == m) = false := by simpa using fun he => h (Eq.symm he)
      simpa [unbind, find?, h, List.lookup_cons, hb] using ih

theorem find?_unbind_of_ne {m n : String} (t : HelperTable) (h : m ≠ n) :
    (t.unbind n).find? m = t.find? m := by
  induction t with
  | nil => rfl
  | cons e t ih =>
    obtain ⟨k, b⟩ := e
    by_cases hk : k = n
    · subst hk
      have hb : (m == k) = false := by simpa using h
      simpa [unbind, find?, List.lookup_cons, hb] using ih
    · by_cases hm : m = k
      · subst hm; simp [unbind, find?, hk]
      · have hb : (m == k) = false := by simpa using hm
        simpa [unbind, find?, hk, List.lookup_cons, hb] using ih

end HelperTable

/-- The data and helpers of one view, and the world. -/
structure Scene where
  data : Bindings
  helpers : HelperTable
  world : World

/-- An action on a scene. -/
abbrev Play (α : Type) := Stateful Scene α

namespace Play

/-- An action on the world of a scene. -/
def ofAct {α : Type} (a : Act α) : Play α := fun s =>
  let (r, world) := a.perform s.world
  (r, { s with world })

/-- Raises the fault of a computation. -/
def ofExcept {α : Type} : Except Fault α → Play α
  | .ok a => pure a
  | .error f => throw f

/-- Logs an event. -/
def log (level : Level) (source name : String) (fields : Bindings) : Play Unit :=
  ofAct (Act.log level source name fields)

@[simp] theorem perform_ofAct {α : Type} (a : Act α) (s : Scene) :
    (ofAct a).perform s = ((a.perform s.world).1, { s with world := (a.perform s.world).2 }) := rfl

@[simp] theorem perform_ofExcept {α : Type} (x : Except Fault α) (s : Scene) :
    (ofExcept x).perform s = (x, s) := by cases x <;> rfl

@[simp] theorem perform_log (level : Level) (source name : String) (fields : Bindings)
    (s : Scene) :
    (log level source name fields).perform s =
      (.ok (), { s with world := s.world.log ⟨level, source, name, fields⟩ }) := rfl

end Play

namespace Registry

/-- The part of the library that logs here. -/
def source : String := "templateview.core.helpers"

/-- Binds a name that is not bound yet. -/
def add (name : String) (h : Helper) : Play Unit := do
  if name = "" then throw (.refused .emptyHelperName)
  if (← get).helpers.has name then
    Play.log .warning source "helper_already_registered" [("helper", .text name)]
    throw (.duplicateHelper name)
  modify fun s => { s with helpers := s.helpers.bind name ⟨h, 0⟩ }
  Play.log .debug source "helper_registered" [("helper", .text name)]

/-- Removes a binding. -/
def remove (name : String) : Play Unit := do
  if (← get).helpers.has name then
    modify fun s => { s with helpers := s.helpers.unbind name }
    Play.log .debug source "helper_removed" [("helper", .text name)]
  else
    Play.log .warning source "helper_remove_unknown" [("helper", .text name)]
    throw (.unknownHelper name)

/-- Lays a table of helpers over the one that is there. An empty name stops it. -/
def mergeDefaults (hs : List (String × Helper)) : Play Unit := do
  let (t, stopped) := (← get).helpers.overlay hs
  -- Names that are bound already get the new helper, unlike when they are added one by one.
  modify fun s => { s with helpers := t }
  -- The helpers before the empty name stay bound.
  if stopped then throw (.refused .emptyHelperName)
  if !hs.isEmpty then
    Play.log .debug source "helpers_merged"
      [("helpers", .list ((HelperTable.sortNames (hs.map (·.1))).map Value.text))]

/-- The names that the call proxy itself has, beside those of the helpers. -/
def proxyOwn : List String :=
  ["_registry", "__class__", "__delattr__", "__dir__", "__doc__", "__eq__", "__format__",
    "__ge__", "__getattr__", "__getattribute__", "__getstate__", "__gt__", "__hash__",
    "__init__", "__init_subclass__", "__le__", "__lt__", "__module__", "__ne__", "__new__",
    "__reduce__", "__reduce_ex__", "__repr__", "__setattr__", "__sizeof__", "__slots__",
    "__str__", "__subclasshook__"]

/-- Whether the call proxy has a helper under a name. Names that start with an
    underscore are not looked for among the helpers. -/
def proxyHelper (t : HelperTable) (name : String) : Bool :=
  !("_".isPrefixOf name) && t.has name

/-- Whether the call proxy has anything under a name. -/
def proxyHas (t : HelperTable) (name : String) : Bool :=
  -- What the proxy has itself hides helpers of the same name.
  proxyOwn.contains name || proxyHelper t name

/-- The registry as text. -/
def shown (t : HelperTable) : String :=
  "HelperRegistry(" ++ (Value.list (t.names.map Value.text)).quoted ++ ")"

end Registry

/-- Makes a change of the table. -/
def HelperEdit.play : HelperEdit → Play Unit
  | .add n v => Registry.add n (.const v)
  | .remove n => Registry.remove n

/-- Makes a change of the table, and gives back its fault if that is caught. -/
def HelperEdit.attempt (e : HelperEdit) (catches : Fault → Bool) : Play (Option Fault) :=
  tryCatch (do e.play; return none) fun f => if catches f then return some f else throw f

/-- Goes through a routine. -/
def Routine.perform : Routine → Play Value
  | .answer v => return v
  | .fail kind args => throw (.raised kind args)
  | .readData next => do (next (← get).data).perform
  | .readNames next => do (next (← get).helpers.names).perform
  | .write es next => do
    modify fun s => { s with data := s.data.update es }
    next.perform
  | .edit e next catches caught => do
    -- A fault that is not caught ends the routine, and what was done by then stays done.
    match ← e.attempt catches with
    | none => next.perform
    | some f => (caught f).perform

end Stencil
