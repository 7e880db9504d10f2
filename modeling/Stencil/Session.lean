import Stencil.Output
import Stencil.View

/-!
# Sessions

A session is a world with named engines and views, on which one step after the
other is taken. A step answers with a result or a fault and leaves what it changed,
whether it failed or not; an engine or a view that cannot be made leaves the one of
its name in place.

A registry is used alone in the same way.

## Main definitions

* `Session`: A world with names in it.
* `Step`, `Result`: What can be done, and what it answers.
* `Session.step`: Taking a step.
* `Session.run`: Taking steps in order.
* `RegistryStep`, `RegistrySession.step`: The same for a registry alone.
-/

namespace Stencil

/-- What a step answers. -/
inductive Result where
  | none
  | value (v : Value)
  | resolution (r : Resolution)
  | config (c : Config)
  /-- The file of a loaded template, and whether it is the template that was loaded
      last under its name. -/
  | loaded (file : String) (same : Bool)
  | store (s : Engine.StoreState)

/-- What can be done with a view. -/
inductive ViewStep where
  | set (data : Value) (value : Option Value)
  | setAll (data : Value)
  | setOne (key : String) (value : Value)
  | setHelper (name : String) (helper : Helper)
  | removeHelper (name : String)
  | invoke (name : String) (args : List Value) (keywords : List (String × Value))
  | call (name : String) (args : List Value) (keywords : List (String × Value))
  | render (data : Bindings) (helpers : List (String × Helper))
  | resolve
  | name
  | shown
  | config

/-- What can be done with an engine. -/
inductive EngineStep where
  | render (name : String) (data : Bindings)
  | load (name : String)
  | templatePath (name : String)
  | clear
  | storeState
  | config
  | extensions

/-- What can be done in a session. -/
inductive Step where
  | write (path : Path) (node : Option Content) (sameTime : Bool)
  | delete (path : Path)
  | exists (path : Path)
  | engine (id : String) (fields : Bindings) (extensions : Option (List String))
      (translations : Option Translations)
  | onEngine (id : String) (step : EngineStep)
  | rawRender (path : Path) (data : Bindings) (helpers : List (String × Helper))
  | compileScript (path : Path)
  | get (id : String) (name : String) (data : Bindings) (helpers : List (String × Helper))
      (fields : Option Bindings) (engine : Option String)
  | onView (id : String) (step : ViewStep)

/-- A world with named engines and views, and the template that each engine loaded
    last for each name. -/
structure Session where
  world : World
  engines : List (String × EngineId)
  views : List (String × View)
  lastLoads : List ((EngineId × String) × Nat)

/-- The time between two writes. -/
def tick : Nat := 10

namespace Session

/-- A session on a world. -/
def ofWorld (w : World) : Session := ⟨w, [], [], []⟩

/-- Puts something under a name, in place of what is there. -/
def named {α : Type} (id : String) (a : α) (xs : List (String × α)) : List (String × α) :=
  (id, a) :: xs.filter (·.1 != id)

/-- Writes a file, or makes a directory. The clock moves on with every write; a
    write at the same time keeps the time that the file has. -/
def writeFile (path : Path) (content : Option Content) (sameTime : Bool) : Act Unit := do
  let w ← get
  match content with
  | none => set { w with files := w.files.writeDeep path .directory }
  | some c =>
    -- Without a file there is no time to keep, and the clock moves on.
    let kept := if sameTime then (w.files.file? path).map (·.2) else none
    match kept with
    | some modified => set { w with files := w.files.writeDeep path (.file c modified) }
    | none =>
      let clock := w.clock + tick
      set { w with clock, files := w.files.writeDeep path (.file c clock) }

/-- Removes what a path names. -/
def deleteFile (path : Path) : Act Unit := do
  let w ← get
  match w.files.stat path, w.files.locate path with
  | .ok _, .ok l => set { w with files := w.files.remove l }
  | .error r, _ => throw (.system r path.text)
  | _, .error r => throw (.system r path.text)

/-- Sets data from a value: a mapping, or pairs of keys and values. What counts as
    false sets nothing. -/
def setAllOf (v : Value) : Play Unit := do
  if Config.isSet v then
    match v with
    | .dict es => View.setAll (Bindings.ofEntries es)
    | v => do
      let items ← Play.ofExcept v.items
      match items with
      | .text s :: _ =>
        throw (.refused (.worded ("dictionary update sequence element #0 has length " ++
          toString s.length ++ "; 2 is required")))
      | .list [.text k, x] :: rest => do
        View.setOne k x
        rest.forM fun p =>
          match p with
          | .list [.text k, x] => View.setOne k x
          | _ => throw (.misuse (.arguments
              "cannot convert dictionary update sequence element #1 to a sequence"))
      | .list xs :: _ =>
        throw (.refused (.worded ("dictionary update sequence element #0 has length " ++
          toString xs.length ++ "; 2 is required")))
      | _ => throw (.misuse (.arguments
          "cannot convert dictionary update sequence element #0 to a sequence"))

/-- A step of a view. -/
def viewStep (v : View) : ViewStep → Play Result
  | .set data value => do
    View.setData v.name data value
    return .none
  | .setAll data => do
    setAllOf data
    return .none
  | .setOne key value => do
    View.setOne key value
    return .none
  | .setHelper name helper => do
    Registry.add name helper
    return .none
  | .removeHelper name => do
    Registry.remove name
    return .none
  | .invoke name args keywords => do return .value (← v.invoke name args keywords)
  | .call name args keywords => do return .value (← callByProxy v.owner name args keywords)
  | .render data helpers => do return .value (.text (← v.render data helpers))
  | .resolve => do return .resolution (← Play.ofAct v.resolve)
  | .name => return .value v.name
  | .shown => do
    let s ← get
    return .value (.text { v with data := s.data, helpers := s.helpers }.shown)
  | .config => return .config v.config

/-- The file of a loaded template under the root. -/
def loadedFile (inner : String) : String :=
  "/".intercalate ((Engine.includeSegments? inner).getD [])

/-- A step of an engine. Loading also says which load the template came from. -/
def engineStep (id : EngineId) (last : String → Option Nat) :
    EngineStep → Act (Result × Option (String × Nat))
  | .render name data => do
    return (.value (.text (← Engine.render id (.text name) data)), none)
  | .load name => do
    -- The number of the load tells one template from another with the same text.
    let (inner, l) ← Engine.load id (.text name)
    return (.loaded (loadedFile inner) (last name == some l.serial), some (name, l.serial))
  | .templatePath name => do
    let e ← Engine.find id
    let p ← Act.ofExcept (Engine.templatePath e.config (.text name))
    return (.value (.text p.text), none)
  | .clear => do
    Engine.clear id
    return (.none, none)
  | .storeState => do return (.store (← Engine.storeState id), none)
  | .config => do return (.config (← Engine.find id).config, none)
  | .extensions => do
    return (.value (.list ((← Engine.find id).extensions.names.map Value.text)), none)

/-- A missing name of an engine or a view. -/
def unnamed {α : Type} (id : String) : Except Fault α := .error (.missingKey (.text id))

/-- The result of an action in a session. -/
def act {α : Type} (s : Session) (a : Act α) : Except Fault α × Session :=
  let (r, world) := a.perform s.world
  (r, { s with world })

/-- Takes a step. -/
def step (s : Session) : Step → Except Fault Result × Session
  | .write path content sameTime =>
    s.act do
      writeFile path content sameTime
      return .none
  | .delete path =>
    s.act do
      deleteFile path
      return .none
  | .exists path =>
    s.act do
      let files := (← get).files
      return .value (.bool (← Act.ofExcept (files.asks path fun _ => true)))
  | .engine id fields extensions translations =>
    let (r, s) := s.act do
      let c ← Act.ofExcept (Config.ofFields fields)
      let e ← Engine.create c (extensions.map Extensions.ofNames) translations
      return (e, (← Engine.find e).extensions.names)
    match r with
    | .ok (e, names) =>
      (.ok (.value (.list (names.map Value.text))), { s with engines := named id e s.engines })
    | .error f => (.error f, s)
  | .onEngine id step =>
    match s.engines.lookup id with
    | none => (unnamed id, s)
    | some e =>
      -- Only a load that succeeds is noted as the last one.
      let (r, s) := s.act (engineStep e (fun name => s.lastLoads.lookup (e, name)) step)
      match r with
      | .ok (result, some (name, serial)) =>
        (.ok result, { s with lastLoads := ((e, name), serial) :: s.lastLoads })
      | .ok (result, none) => (.ok result, s)
      | .error f => (.error f, s)
  | .rawRender path data helpers =>
    s.act do
      let w ← get
      let play : Play String := do
        if !helpers.isEmpty then Registry.mergeDefaults helpers
        renderScript nestedRender .registry path
      let (r, scene) := play.perform ⟨data, [], w⟩
      set scene.world
      return .value (.text (← Act.ofExcept r))
  | .compileScript path =>
    s.act do
      let _ ← RawScript.compile path
      return .none
  | .get id name data helpers fields engine =>
    let engineId? : Except Fault (Option EngineId) :=
      match engine with
      | none => .ok none
      | some e =>
        match s.engines.lookup e with
        | some e => .ok (some e)
        | none => unnamed e
    let (r, s) := s.act do
      let config ← Act.ofExcept (fields.mapM Config.ofFields)
      let e ← Act.ofExcept engineId?
      View.get (.text name) data helpers config e
    match r with
    | .ok v => (.ok .none, { s with views := named id v s.views })
    | .error f => (.error f, s)
  | .onView id step =>
    match s.views.lookup id with
    | none => (unnamed id, s)
    | some v =>
      let ((r, v), world) := v.play (viewStep v step) s.world
      (r, { s with world, views := named id v s.views })

/-- Takes steps in order. -/
def run (s : Session) : List Step → List (Except Fault Result) × Session
  | [] => ([], s)
  | st :: rest =>
    let (r, s) := s.step st
    let (rs, s) := s.run rest
    (r :: rs, s)

end Session

/-- What can be done with a registry. -/
inductive RegistryStep where
  | new (helpers : List (String × Helper))
  | add (name : String) (helper : Helper)
  | remove (name : String)
  | merge (helpers : List (String × Helper))
  | invoke (name : String) (args : List Value) (keywords : List (String × Value))
  | call (name : String) (args : List Value) (keywords : List (String × Value))
  | take (name : String)
  | callTaken (args : List Value) (keywords : List (String × Value))
  | proxyHas (name : String)
  | has (name : String)
  | contains (name : String)
  | shown
  | names

/-- A name taken from the proxy of a registry. If the registry was replaced since,
    what was taken still belongs to the old one. -/
structure Taken where
  name : String
  old : Option HelperTable

/-- A registry, a world to log in, and what was taken from its proxy last. -/
structure RegistrySession where
  scene : Scene
  taken : Option Taken

namespace RegistrySession

/-- An empty registry. -/
def ofWorld (w : World) : RegistrySession := ⟨⟨[], [], w⟩, none⟩

/-- Calls a helper of a registry by name. -/
def invoke (name : String) (args : List Value) (keywords : List (String × Value)) : Play Value :=
  callHelper nestedRender .registry "HelperRegistry" (.text name) args keywords

/-- A table of its own with some helpers. -/
def fresh (helpers : List (String × Helper)) : Play Unit := do
  let s ← get
  set { s with helpers := ([] : HelperTable) }
  if !helpers.isEmpty then Registry.mergeDefaults helpers

/-- Whether a name is bound to something that is there. -/
def isPresent (t : HelperTable) (name : String) : Bool :=
  match t.find? name with
  | some b =>
    match b.helper with
    | .absent => false
    | _ => true
  | none => false

/-- A step on the table of a registry. -/
def tableStep : RegistryStep → Play Result
  | .new helpers => do
    fresh helpers
    return .none
  | .add name helper => do
    Registry.add name helper
    return .none
  | .remove name => do
    Registry.remove name
    return .none
  | .merge helpers => do
    Registry.mergeDefaults helpers
    return .none
  | .invoke name args keywords => do return .value (← invoke name args keywords)
  | .call name args keywords => do return .value (← callByProxy .registry name args keywords)
  | .take name => do
    if Registry.proxyHas (← get).helpers name then return .value (.text name)
    else throw (.unknownHelper name)
  | .callTaken .. => throw (.misuse (.notCallable "NoneType"))
  | .proxyHas name => do return .value (.bool (Registry.proxyHas (← get).helpers name))
  | .has name => do return .value (.bool (isPresent (← get).helpers name))
  | .contains name => do return .value (.bool ((← get).helpers.has name))
  | .shown => do return .value (.text (Registry.shown (← get).helpers))
  | .names => do return .value (.list ((← get).helpers.names.map Value.text))

/-- Calls what was taken last, on the registry that it belongs to. -/
def callTaken (s : RegistrySession) (t : Taken) (args : List Value)
    (keywords : List (String × Value)) : Except Fault Result × RegistrySession :=
  match t.old with
  | none =>
    let (r, scene) := (invoke t.name args keywords).perform s.scene
    (r.map .value, { s with scene })
  -- The registry was replaced, so the call sees and changes the old table.
  | some old =>
    let (r, scene) := (invoke t.name args keywords).perform { s.scene with helpers := old }
    (r.map .value,
      ⟨{ scene with helpers := s.scene.helpers }, some { t with old := some scene.helpers }⟩)

/-- Takes a step. A registry that cannot be made leaves the old one in place. -/
def step (s : RegistrySession) (st : RegistryStep) : Except Fault Result × RegistrySession :=
  let (r, scene) := (tableStep st).perform s.scene
  match st, r with
  | .callTaken args keywords, r =>
    match s.taken with
    | some t => s.callTaken t args keywords
    | none => (r, s)
  | .take name, .ok r => (.ok r, ⟨scene, some ⟨name, none⟩⟩)
  | .new _, .ok r =>
    let taken := s.taken.map fun t => { t with old := t.old.or (some s.scene.helpers) }
    (.ok r, ⟨scene, taken⟩)
  | .new _, .error f => (.error f, { s with scene := { scene with helpers := s.scene.helpers } })
  | _, r => (r, { s with scene })

end RegistrySession

end Stencil
