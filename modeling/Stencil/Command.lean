import Stencil.Command.Words
import Stencil.Config.Loader
import Stencil.Json
import Stencil.Output
import Stencil.View

/-!
# The command line

The program renders a template or says which file owns a name. A run reads its
words, then the data, then the configuration, and only then the template, so what
is wrong with the words or the data is told before anything else is looked at.

The words of a command are read as a whole before any of them is checked. The
options that name files are checked in the order in which they were first given,
each with the value given last, and a missing or surplus name is told after them.

A run ends with a status: nothing for success, one for a fault, two for misuse of
the command line, and whatever a script asks for that ends the program.

## Main definitions

* `Outcome`: How a run ends.
* `Request`: What the words ask for.
* `RenderRequest.data`: The data that the words and the data file give.
* `run`: A run of the program.

## Theorems

* `splitBinding?_append`: A variable is cut at its first equals sign.
-/

namespace Stencil

namespace Command

/-- The part of the library that logs here. -/
def source : String := "templateview.cli.interface"

/-- The version as it is printed. -/
def versionText : String := "templateview, version 0.3.0\n"

/-- What the program can be asked for. -/
def helpText : String :=
  "Usage: templateview [--config-profile NAME] [-v] [--force-json-logs] COMMAND NAME\n\n" ++
    "  render NAME [-r DIR] [--var KEY=VALUE] [--data-file FILE] [-o FILE]\n" ++
    "  resolve NAME [-r DIR]\n"

/-- A candidate that was probed for a name. -/
structure Probed where
  candidate : Resolution
  present : Bool

/-- The text in a cell of a table. -/
structure Cell where
  text : String

/-- A candidate as it is shown. -/
structure Shown where
  kind : TemplateKind
  path : Cell

/-- The row of a candidate that was probed. -/
structure Probe where
  owner : Shown
  present : Bool

/-- What a run prints: a text, or a table of what was probed for a name and lines after
    it. -/
inductive Printed where
  | text (s : String)
  | probes (probes : List Probe) (lines : List String)

/-- How a run ends: its status, the title of the table that it prints and what else it
    prints, what it tells on standard error, what a script said there when it ended the
    program, and the fault that nothing handled. -/
structure Outcome where
  status : Int
  title : Option String := none
  printed : Printed := .text ""
  message : Option String := none
  parting : Option String := none
  unhandled : Option Fault := none

namespace Outcome

/-- A run that prints a text. -/
def ofText (s : String) : Outcome := { status := 0, printed := .text s }

/-- A run that ends with a status and a message. -/
def failed (status : Int) (message : Option String) : Outcome := { status, message }

/-- A run that a fault ends which nothing handles. -/
def broken (f : Fault) : Outcome := { status := 1, unhandled := some f }

/-- A message of an error. -/
def errorLine (s : String) : String := "Error: " ++ s

/-- The end that a script asks for: a number is the status, nothing is success, and
    anything else is said on standard error. -/
def ofExit (args : List Value) : Outcome :=
  match args with
  | [] | [.null] => { status := 0 }
  | [.int n] => { status := n }
  | [.bool b] => { status := if b then 1 else 0 }
  | args => { status := 1, parting := some (Fault.raisedText "SystemExit" args) }

/-- The errors of the command line that a script may raise itself: the status with which
    they end a run, and what stands in front of their text. -/
def usageKinds : List (String × Int × String) :=
  [("ClickException", 1, ""), ("UsageError", 2, ""), ("BadParameter", 2, "Invalid value: ")]

/-- The end of a run in which a fault was raised by name. What the command line raises
    itself to end a run, it takes for that from scripts too. -/
def ofRaised (kind : String) (args : List Value) : Outcome :=
  match kind, args with
  | "SystemExit", args => ofExit args
  | "Exit", [] | "Exit", [_] => ofExit args
  | "KeyboardInterrupt", _ | "EOFError", _ | "Abort", _ => failed 1 (some "Aborted!")
  | kind, args =>
    match usageKinds.lookup kind, args with
    | some (status, lead), [v] => failed status (some (errorLine (lead ++ v.shown)))
    | _, _ => broken (.raised kind args)

/-- The end of a run that met a fault. -/
def ofFault (f : Fault) : Outcome :=
  -- Errors of the library are told, errors of scripts come through as they are.
  if f.isOwn then failed 1 (some (errorLine f.message))
  else
    match f with
    | .raised kind args => ofRaised kind args
    | f => broken f

/-- The end of a run whose words are wrong. -/
def ofUsage (u : UsageFault) : Outcome := failed 2 (u.message?.map errorLine)

end Outcome

/-- What ends a run before a command is carried out. -/
inductive Halt where
  | usage (u : UsageFault)
  | help
  | version
  | fault (f : Fault)

/-- The outcome of a run that ends early. -/
def Halt.outcome : Halt → Outcome
  | .usage u => .ofUsage u
  | .help => .ofText helpText
  | .version => .ofText versionText
  | .fault f => .ofFault f

/-- Puts a fault of the words among what ends a run. -/
def ofUsage {α : Type} : Except UsageFault α → Except Halt α
  | .ok a => .ok a
  | .error u => .error (.usage u)

/-- The options of the program itself. -/
inductive ProgramOption where
  | profile
  | verbose
  | jsonLogs
  | version
  | help
deriving DecidableEq

def programForms : List (OptionForm ProgramOption) :=
  [⟨.profile, ["--config-profile"], true⟩, ⟨.verbose, ["--verbose", "-v"], false⟩,
    ⟨.jsonLogs, ["--force-json-logs"], false⟩, ⟨.version, ["--version"], false⟩,
    ⟨.help, ["-h", "--help"], false⟩]

/-- The options of the commands. -/
inductive CommandOption where
  | root
  | binding
  | dataFile
  | output
  | help
deriving DecidableEq

/-- The commands. -/
inductive Name where
  | render
  | resolve
deriving DecidableEq

namespace Name

def text : Name → String
  | .render => "render"
  | .resolve => "resolve"

def all : List Name := [.render, .resolve]

/-- The command of a word. -/
def ofWord? (w : String) : Option Name := all.find? fun n => n.text == w

theorem ofWord?_text (n : Name) : ofWord? n.text = some n := by cases n <;> decide

/-- The options that a command has. -/
def forms : Name → List (OptionForm CommandOption)
  | .render =>
    [⟨.root, ["-r", "--root"], true⟩, ⟨.binding, ["--var"], true⟩,
      ⟨.dataFile, ["--data-file"], true⟩, ⟨.output, ["-o", "--output"], true⟩,
      ⟨.help, ["-h", "--help"], false⟩]
  | .resolve => [⟨.root, ["-r", "--root"], true⟩, ⟨.help, ["-h", "--help"], false⟩]

end Name

/-- How the program is to run: the profile, from which level on events are shown,
    and whether as JSON. -/
structure Globals where
  profile : Option String
  level : Level
  jsonLogs : Bool

/-- The level that a number of requests for more events asks for. -/
def levelOf : Nat → Level
  | 0 => .warning
  | 1 => .info
  | _ => .debug

/-- What a file that an option names has to be. -/
structure FileRule where
  hint : String
  noun : String
  required : Bool
  fileAllowed : Bool
  directoryAllowed : Bool

/-- The rule for the value of an option. -/
def CommandOption.rule? : CommandOption → Option FileRule
  | .root => some ⟨"'-r' / '--root'", "Directory", false, false, true⟩
  | .dataFile => some ⟨"'--data-file'", "File", true, true, false⟩
  | .output => some ⟨"'-o' / '--output'", "File", false, true, false⟩
  | .binding | .help => none

/-- Checks the file that an option names. -/
def FileRule.check (r : FileRule) (files : Files) (text : String) : Except Halt Unit :=
  let refuse (what : String) : Except Halt Unit :=
    .error (.usage (.badValue r.hint (r.noun ++ " " ++ Text.quoted text ++ " " ++ what)))
  if text.toList.contains '\x00' then .error (.fault Files.nulFault)
  else
    match files.statWritten text with
    -- What cannot be looked at counts as not being there.
    | .error _ => if r.required then refuse "does not exist." else .ok ()
    | .ok (.file ..) => if r.fileAllowed then .ok () else refuse "is a file."
    | .ok .directory => if r.directoryAllowed then .ok () else refuse "is a directory."

/-- Checks the files that options name, in the order of the options. -/
def checkAll (files : Files) (p : Parsed CommandOption) : List CommandOption → Except Halt Unit
  | [] => .ok ()
  | o :: os => do
    match o.rule?, p.last? o with
    | some r, some text => r.check files text
    | _, _ => pure ()
    checkAll files p os

/-- What a command is asked for. -/
structure Request where
  command : Name
  name : String
  options : Parsed CommandOption

/-- Reads the words of a command. -/
def Request.ofWords (files : Files) (command : Name) (ws : List String) :
    Except Halt Request := do
  let p ← ofUsage (parse command.forms true ws)
  -- Help wins over files that are wrong and names that are missing.
  if p.has .help then throw .help
  -- The files are checked in the order in which options were first given.
  checkAll files p (p.given.map (·.option)).eraseDups
  match p.rest with
  | [] => throw (.usage (.missingArgument "NAME"))
  | [name] => return ⟨command, name, p⟩
  | _ :: surplus => throw (.usage (.surplusArguments surplus))

/-- The first of the options that end a run at once. -/
def ProgramOption.halt? : ProgramOption → Option Halt
  | .help => some .help
  | .version => some .version
  | _ => none

/-- Reads the options of the program, which may end the run. -/
def readOptions (ws : List String) : Except Halt (Parsed ProgramOption) := do
  let p ← ofUsage (parse programForms false ws)
  match p.given.findSome? fun g => g.option.halt? with
  | some h => throw h
  | none => return p

/-- Reads the words of the program: how to run, the command, and its words. A word
    that looks like an option where the command should be is read as one. -/
def Globals.ofWords (ws : List String) : Except Halt (Globals × Name × List String) := do
  if ws.isEmpty then throw (.usage .noWords)
  let p ← readOptions ws
  match p.rest with
  | [] => throw (.usage .missingCommand)
  | w :: ws =>
    match Name.ofWord? w with
    | some n =>
      return (⟨p.last? .profile, levelOf (p.all .verbose).length, p.has .jsonLogs⟩, n, ws)
    | none =>
      -- No command has this name; if it looks like an option, that is said instead.
      let _ ← readOptions (w :: ws)
      throw (.usage (.noSuchCommand w (closeTo w (Name.all.map Name.text))))

/-- A text before and after its first equals sign. -/
def splitBinding? (s : List Char) : Option (List Char × List Char) :=
  match s.dropWhile (· != '=') with
  | [] => none
  | _ :: value => some (s.takeWhile (· != '='), value)

theorem splitBinding?_append (k v : List Char) (h : '=' ∉ k) :
    splitBinding? (k ++ '=' :: v) = some (k, v) := by
  induction k with
  | nil => simp [splitBinding?]
  | cons c k ih =>
    have hc : c ≠ '=' := fun hc => h (by simp [hc])
    have := ih fun hk => h (by simp [hk])
    simp only [splitBinding?] at this ⊢
    simp only [List.cons_append, bne_iff_ne, ne_eq, hc, not_false_eq_true,
      List.dropWhile_cons_of_pos, List.takeWhile_cons_of_pos]
    split at this
    · cases this
    · simp_all

/-- The key and the value of a variable. -/
def binding (s : String) : Except UsageFault (String × Value) :=
  match splitBinding? s.toList with
  | some (key, value) =>
    .ok (String.ofList (Text.trim key), .text (String.ofList value))
  | none => .error (.badValue "--var" ("expected KEY=VALUE, got '" ++ s ++ "'"))

/-- What a data file that is not read ends a run with. One that is not well formed is wrong
    as the value of its option; what is too much for the reader goes through. -/
def dataTrouble (refuse : String → Halt) : Json.Trouble → Halt
  | .malformed => refuse "is not valid JSON"
  | .digits limit count =>
    .fault (.refused (.worded ("Exceeds the limit (" ++ toString limit ++
      " digits) for integer string conversion: value has " ++ toString count ++
      " digits; use sys.set_int_max_str_digits() to increase the limit")))
  | .depth isList => .fault (.nestedTooDeep isList)
  | .half => .fault .halfCharacter

/-- The data in a file. -/
def fileData (w : World) (file : String) : Except Halt Bindings :=
  let path := Path.ofString file
  let refuse (what : String) : Halt :=
    .usage (.badValue "--data-file" (path.text ++ " " ++ what))
  match w.files.read path with
  | .error f => .error (.fault f)
  | .ok cs =>
    match Json.read w.host.json cs with
    | .error t => .error (dataTrouble refuse t)
    | .ok (.dict es) => .ok (Bindings.ofEntries es)
    | .ok _ => .error (refuse "must contain a JSON object")

/-- The data of a request: that of the file, and the variables laid over it. -/
def Request.data (r : Request) (w : World) : Except Halt Bindings := do
  let base ←
    match r.options.last? .dataFile with
    | some file => fileData w file
    | none => pure []
  let bindings ← ofUsage ((r.options.all .binding).mapM binding)
  return base.update bindings

/-- The configuration for a request. -/
def Request.config (r : Request) (g : Globals) : Act Config :=
  Config.load g.profile
    [("template_root", ((r.options.last? .root).map Value.text).getD .null)] none

/-- Writes a rendered text where it was asked for. -/
def deliver (output : Option String) (text : String) : Act Outcome := do
  match output with
  | some file => do
    let path := Path.ofString file
    Output.writeToFile path text
    return { status := 0, message := some ("Info: Output written to: " ++ path.text) }
  | none => return .ofText text

/-- Renders a template over data. -/
def renderText (r : Request) (g : Globals) (data : Bindings) : Act String := do
  let config ← r.config g
  let v ← View.get (.text r.name) [] [] (some config) none
  let w ← get
  -- What rendering did to the world stays done even if it failed.
  let ((text, _), w) := v.play (v.render data []) w
  set w
  Act.ofExcept text

/-- Carries out a request to render. -/
def render (r : Request) (g : Globals) (data : Bindings) : Act Outcome := do
  Act.log .debug source "cli_render_invoked"
    [("name", .text r.name), ("data_keys", View.sortedNames data.keys)]
  let work : Act Outcome := do deliver (r.options.last? .output) (← renderText r g data)
  -- An error of the library is logged on its way out, delivery included.
  tryCatch work fun f => do
    if f.isOwn then
      Act.log .error source "handled_application_error_in_cli"
        [("error_type", .text f.kind), ("message", .text f.message)]
    throw f

/-- Probes a candidate. -/
def probe (files : Files) (r : Resolution) : Except Fault Probed := do
  return ⟨r, ← files.isFile r.path⟩

/-- A text as the terminal shows it. -/
def displayed (h : Host) (s : String) : Except Fault String :=
  (h.markup s).mapError Fault.tagging

/-- The row of a candidate. -/
def row (h : Host) (p : Probed) : Except Fault Probe := do
  return ⟨⟨p.candidate.kind, ⟨← displayed h p.candidate.path.text⟩⟩, p.present⟩

/-- The title and the rows of the table for a name. The rows are measured before the title
    is shown. -/
def table (h : Host) (name : String) (probed : List Probed) :
    Except Fault (String × List Probe) := do
  let rows ← probed.mapM (row h)
  return (← displayed h ("template '" ++ name ++ "'"), rows)

/-- What is told of a name once its candidates are probed. Nothing handles what the terminal
    does not show; the table is printed before the line after it is looked at. -/
def tell (h : Host) (c : Config) (name : String) (probed : List Probed) : Outcome :=
  match table h name probed with
  | .error f => .broken f
  | .ok (title, rows) =>
    match displayed h ("cache dir: " ++ c.cacheDir.text) with
    | .error f => { Outcome.broken f with title, printed := .probes rows [] }
    | .ok place =>
      -- The first file that is there owns the name, and the lines name both.
      match probed.find? (·.present) with
      | some p =>
        { status := 0, title, printed := .probes rows [place, "owner: " ++ p.candidate.kind.name] }
      | none =>
        { status := 1, title, printed := .probes rows [place],
          message := some (Outcome.errorLine ("no template found for '" ++ name ++ "'")) }

/-- Carries out a request to say which file owns a name. -/
def resolve (r : Request) (g : Globals) : Act Outcome := do
  let config ← r.config g
  let (a, b) ← Act.ofExcept
    (Resolution.candidates config.templateRoot (.text r.name) config.extensions)
  let w ← get
  -- Both candidates are probed, the second also if the first is there.
  let a ← Act.ofExcept (probe w.files a)
  let b ← Act.ofExcept (probe w.files b)
  return tell w.host config r.name [a, b]

/-- The outcome of carrying out a request. -/
def carryOut (a : Act Outcome) (w : World) : Outcome × World :=
  match a.perform w with
  | (.ok o, w) => (o, w)
  | (.error f, w) => (.ofFault f, w)

/-- An event on a line of its own, as JSON or for the eye. -/
def eventLine (asJson : Bool) (e : Event) : String :=
  if asJson then
    Json.text (Bindings.toValue (e.fields ++
      [("event", .text e.name), ("level", .text e.level.name), ("logger", .text e.source)]))
  else
    " ".intercalate (("[" ++ e.level.name ++ "] " ++ e.name) ::
      e.fields.map fun f => f.1 ++ "=" ++ f.2.shown)

/-- A run of a command, once it is known how to run it. -/
def runCommand (g : Globals) (command : Name) (ws : List String) (w : World) : Outcome × World :=
  match Request.ofWords w.files command ws with
  | .error h => (h.outcome, w)
  | .ok r =>
    match command with
    | .render =>
      -- The data are read before anything is logged or loaded.
      match r.data w with
      | .error h => (h.outcome, w)
      | .ok data => carryOut (render r g data) w
    | .resolve => carryOut (resolve r g) w

/-- A run of the program on its words. -/
def run (ws : List String) (w : World) : Outcome × World :=
  match Globals.ofWords ws with
  | .error h => (h.outcome, w)
  | .ok (g, command, ws) => runCommand g command ws ((Act.startLogging g.jsonLogs).perform w).2

end Command

end Stencil
