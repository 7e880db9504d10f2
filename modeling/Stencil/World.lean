import Stencil.Config
import Stencil.Files
import Stencil.Host
import Stencil.Stateful
import Stencil.Text.Case

/-!
# The world that operations act on

Operations read and write files, load templates into engines and log events. All
of that is one value, the world, and an action is a function from worlds to worlds
that ends with a result or a fault. What an action did before it failed stays done.

An event has a level, the part of the library that logged it, a name and fields.
All events are kept, the newest first; which of them are shown is decided when
they are read.

## Main definitions

* `Level`, `Event`: The log.
* `Loaded`, `Engine`: Engines and the templates they hold.
* `World`, `Act`: The world, and actions on it.
* `World.shown`: The events from a level on, in order.

## Theorems

* `Act.perform_log`: Logging does nothing but keep the event.
-/

namespace Stencil

/-- How grave an event is. -/
inductive Level where
  | debug
  | info
  | warning
  | error
  | critical
deriving DecidableEq

namespace Level

def rank : Level → Nat
  | .debug => 10
  | .info => 20
  | .warning => 30
  | .error => 40
  | .critical => 50

def name : Level → String
  | .debug => "debug"
  | .info => "info"
  | .warning => "warning"
  | .error => "error"
  | .critical => "critical"

/-- The level that a name asks for, in whatever case it is written. A name of no
    level asks for warnings. -/
def ofName (name : String) : Level :=
  match String.ofList (Text.upper name.toList) with
  | "DEBUG" => .debug
  | "INFO" => .info
  | "ERROR" => .error
  | "CRITICAL" | "FATAL" => .critical
  | _ => .warning

end Level

/-- Something that happened. -/
structure Event where
  level : Level
  source : String
  name : String
  fields : Bindings

/-- A template in the memory of an engine: the statements, the modification time of
    its file when it was read, and the number of the load. -/
structure Loaded where
  body : List Template.Stmt
  modified : Nat
  serial : Nat

/-- Which extensions for translations an engine has. -/
structure Extensions where
  /-- The extension of the library, with the filter. -/
  own : Bool
  /-- The plain one, with the block alone. -/
  plain : Bool
deriving DecidableEq

/-- An engine: its configuration, extensions and translations, the directory of
    compiled templates if it could be made, and the templates in memory. -/
structure Engine where
  config : Config
  extensions : Extensions
  translations : Translations
  store : Option Path
  memory : List (String × Loaded)

/-- What names an engine. -/
abbrev EngineId := Nat

/-- Everything that operations act on: files, the time of the last write, engines,
    the number of loads so far, and the events, the newest first. `directory` is how
    the current directory is named in messages, `settings` the user's settings
    file. -/
structure World where
  files : Files
  clock : Nat
  engines : List Engine
  loads : Nat
  events : List Event
  directory : String
  settings : Path
  host : Host

namespace World

/-- A world with files only, on the standard host. -/
def ofFiles (files : Files) (clock : Nat) (directory : String) (settings : Path) : World :=
  ⟨files, clock, [], 0, [], directory, settings, .standard⟩

/-- Logs an event. -/
def log (w : World) (e : Event) : World := { w with events := e :: w.events }

/-- The events from a level on, the oldest first. -/
def shown (w : World) (least : Level) : List Event :=
  w.events.reverse.filter fun e => least.rank ≤ e.level.rank

/-- The engine of a name. -/
def engine? (w : World) (id : EngineId) : Option Engine := w.engines[id]?

/-- Puts an engine in the place of the one with its name. -/
def setEngine (w : World) (id : EngineId) (e : Engine) : World :=
  { w with engines := w.engines.set id e }

end World

/-- An action on the world. -/
abbrev Act (α : Type) := Stateful World α

namespace Act

/-- Raises the fault of a computation. -/
def ofExcept {α : Type} : Except Fault α → Act α
  | .ok a => pure a
  | .error f => throw f

/-- Logs an event. -/
def log (level : Level) (source name : String) (fields : Bindings) : Act Unit :=
  modify (·.log ⟨level, source, name, fields⟩)

/-- Says that logging begins, as JSON or for the eye. -/
def startLogging (asJson : Bool) : Act Unit :=
  log .info "templateview.logging_setup" "logging_configured" [("json", .bool asJson)]

@[simp] theorem perform_ofExcept {α : Type} (x : Except Fault α) (w : World) :
    (ofExcept x).perform w = (x, w) := by cases x <;> rfl

@[simp] theorem perform_log (level : Level) (source name : String) (fields : Bindings)
    (w : World) :
    (log level source name fields).perform w = (.ok (), w.log ⟨level, source, name, fields⟩) := rfl

end Act

end Stencil
