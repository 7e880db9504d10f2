import Stencil.Text.Utf8
import Stencil.Value

/-!
# Faults

Everything that can go wrong, by cause. A fault has the name of its kind, a
message, and, when it reports another fault in the library's own words, the fault
that it wraps. The wording of every message stands in this module and nowhere
else.

Scripts catch faults by kind, and a kind also catches the kinds below it, so the
kinds form a small hierarchy. Three kinds lie outside it: they end the program
and are caught only under their own name.

## Main definitions

* `SystemFault`: What the file system refuses.
* `Fault`: All faults.
* `Fault.kind`, `Fault.message`, `Fault.cause?`: What is reported of a fault.
* `Kind.isA`: The hierarchy of kinds.
* `Fault.isOwn`: The library's own faults.
* `Fault.Foreign`: Faults that are neither raised by name nor the library's own.
-/

namespace Stencil

/-- What the file system refuses. -/
inductive SystemReason where
  | missing
  | exists
  | notDirectory
  | isDirectory
  | nameTooLong
deriving DecidableEq

namespace SystemReason

def number : SystemReason → Nat
  | .missing => 2
  | .exists => 17
  | .notDirectory => 20
  | .isDirectory => 21
  | .nameTooLong => 36

def text : SystemReason → String
  | .missing => "No such file or directory"
  | .exists => "File exists"
  | .notDirectory => "Not a directory"
  | .isDirectory => "Is a directory"
  | .nameTooLong => "File name too long"

def kind : SystemReason → String
  | .missing => "FileNotFoundError"
  | .exists => "FileExistsError"
  | .notDirectory => "NotADirectoryError"
  | .isDirectory => "IsADirectoryError"
  | .nameTooLong => "OSError"

end SystemReason

/-- Uses of a value that its kind does not allow. -/
inductive Misuse where
  /-- No such operation between two kinds. -/
  | operands (op left right : String)
  /-- No such sign before a kind. -/
  | sign (op kind : String)
  /-- A sequence is joined only with one of its own kind. -/
  | joining (left right : String)
  /-- A sequence is repeated only a whole number of times. -/
  | repeating (kind : String)
  /-- A whole number was needed. -/
  | notWhole (kind : String)
  /-- Two kinds have no order. -/
  | unordered (op left right : String)
  | noLength (kind : String)
  | notIterable (kind : String)
  | notUnpackable (kind : String)
  | notReversible (kind : String)
  | notContainer (kind : String)
  | notSubstring (kind : String)
  | unhashable (kind : String)
  | notCallable (kind : String)
  /-- A call whose arguments do not fit, said in full. -/
  | arguments (text : String)
  /-- The parts between joined texts must be texts or nothing. -/
  | separator (name kind : String)
  /-- A path was needed. -/
  | notPath (kind : String)
  /-- A place of a format that its argument does not fill, said in full. -/
  | formatting (text : String)

def Misuse.message : Misuse → String
  | .operands op l r =>
    "unsupported operand type(s) for " ++ op ++ ": '" ++ l ++ "' and '" ++ r ++ "'"
  | .sign op k => "bad operand type for unary " ++ op ++ ": '" ++ k ++ "'"
  | .joining l r =>
    "can only concatenate " ++ l ++ " (not \"" ++ r ++ "\") to " ++ l
  | .repeating k => "can't multiply sequence by non-int of type '" ++ k ++ "'"
  | .notWhole k => "'" ++ k ++ "' object cannot be interpreted as an integer"
  | .unordered op l r =>
    "'" ++ op ++ "' not supported between instances of '" ++ l ++ "' and '" ++ r ++ "'"
  | .noLength k => "object of type '" ++ k ++ "' has no len()"
  | .notIterable k => "'" ++ k ++ "' object is not iterable"
  | .notUnpackable k => "cannot unpack non-iterable " ++ k ++ " object"
  | .notReversible k => "'" ++ k ++ "' object is not reversible"
  | .notContainer k => "argument of type '" ++ k ++ "' is not iterable"
  | .notSubstring k => "'in <string>' requires string as left operand, not " ++ k
  | .unhashable k => "unhashable type: '" ++ k ++ "'"
  | .notCallable k => "'" ++ k ++ "' object is not callable"
  | .arguments text => text
  | .separator name k => name ++ " must be None or a string, not " ++ k
  | .notPath k => "expected str, bytes or os.PathLike object, not " ++ k
  | .formatting text => text

/-- Values of the right kind that are still refused. -/
inductive Refusal where
  | emptyHelperName
  | blankExtension
  | sharedExtension (ext : String)
  | foreignConfig
  /-- A path without a last segment has no name to replace. -/
  | emptyPathName (path : String)
  | badPathName (name : String)
  | outsideRoot (path root : String)
  /-- A list of the wrong length where names are bound to its items. -/
  | surplusItems (expected : Nat)
  | missingItems (expected found : Nat)
  /-- A format text that is not well formed, said in full. -/
  | format (text : String)
  | worded (text : String)

def Refusal.message : Refusal → String
  | .emptyHelperName => "helper names must be non-empty"
  | .blankExtension => "template extension must not be empty"
  | .sharedExtension ext =>
    "compiled and raw-script templates cannot share the extension '" ++ ext ++ "'"
  | .foreignConfig => "config does not match the engine's config; pass one or the other"
  | .emptyPathName path => path ++ " has an empty name"
  | .badPathName name => "Invalid name " ++ Text.quoted name
  | .outsideRoot path root =>
    Text.quoted path ++ " is not in the subpath of " ++ Text.quoted root ++
      " OR one path is relative and the other is absolute."
  | .surplusItems n => "too many values to unpack (expected " ++ toString n ++ ")"
  | .missingItems n m =>
    "not enough values to unpack (expected " ++ toString n ++ ", got " ++ toString m ++ ")"
  | .format text => text
  | .worded text => text

/-- What can go wrong. -/
inductive Fault where
  -- the library's own
  | emptyName
  | escapingName (name : String)
  /-- No file of the given path; the fault it was noticed by, if any. -/
  | templateMissing (path : String) (cause : Option Fault)
  | duplicateHelper (name : String)
  | unknownHelper (name : String)
  /-- A compiled template failed. -/
  | rendering (cause : Fault)
  /-- A script is not well formed. -/
  | brokenScript (path : String) (cause : Fault)
  | unreadableConfig (path : String) (cause : Fault)
  | invalidConfig (cause : Fault)
  | unwritable (path : String) (cause : Fault)
  -- what they wrap, and the rest
  | system (reason : SystemReason) (path : String)
  | decoding (fault : Text.Utf8.Fault)
  /-- A template that is not well formed, at a line. -/
  | markupSyntax (line : Nat)
  | scriptSyntax (file : String) (line : Nat)
  /-- The text of a script is no list of statements, so it is not known what it does. -/
  | unknownScript (path : String)
  | settingsSyntax
  /-- Data are nested too deep to be read. -/
  | nestedTooDeep (isList : Bool)
  /-- Half a character was to be put into a text, and no text holds one here. -/
  | halfCharacter
  /-- The tags in a text for the terminal are wrong, said in full. -/
  | tagging (text : String)
  /-- An included template was not found, in the named search path if one was
      searched. -/
  | includeMissing (name : String) (searched : Option String)
  | undefined (message : String)
  | noFilter (name : String)
  | noTest (name : String)
  | tooDeep
  | misuse (what : Misuse)
  | refused (what : Refusal)
  | noAttribute (kind name : String)
  | missingKey (key : Value)
  | index (text : String)
  | zeroDivision (text : String)
  | overflow (text : String)
  | unbound (name : String)
  /-- A fault that a script or a helper raised by name. -/
  | raised (kind : String) (args : List Value)

instance : Inhabited Fault := ⟨.tooDeep⟩

namespace Fault

def kind : Fault → String
  | .emptyName | .escapingName _ | .templateMissing .. => "TemplateNotFoundError"
  | .duplicateHelper _ => "DuplicateHelperError"
  | .unknownHelper _ => "UnknownHelperError"
  | .rendering _ | .brokenScript .. => "TemplateRenderError"
  | .unreadableConfig .. | .invalidConfig _ => "ConfigError"
  | .unwritable .. => "OutputError"
  | .system r _ => r.kind
  | .decoding _ => "UnicodeDecodeError"
  | .markupSyntax _ => "TemplateSyntaxError"
  | .scriptSyntax .. => "SyntaxError"
  | .unknownScript _ => "NotImplementedError"
  | .settingsSyntax => "TomlDecodeError"
  | .nestedTooDeep _ => "RecursionError"
  | .halfCharacter => "UnicodeError"
  | .tagging _ => "MarkupError"
  | .includeMissing .. => "TemplateNotFound"
  | .undefined _ => "UndefinedError"
  | .noFilter _ | .noTest _ => "TemplateRuntimeError"
  | .tooDeep => "RecursionError"
  | .misuse _ => "TypeError"
  | .refused _ => "ValueError"
  | .noAttribute .. => "AttributeError"
  | .missingKey _ => "KeyError"
  | .index _ => "IndexError"
  | .zeroDivision _ => "ZeroDivisionError"
  | .overflow _ => "OverflowError"
  | .unbound _ => "NameError"
  | .raised k _ => k

/-- The kinds whose text is that of a message, none if there is none. -/
def messageKinds : List String := ["SyntaxError", "IndentationError", "TabError"]

/-- The text of a fault raised with arguments: nothing, the one argument, or all
    of them in brackets. A missing key is shown quoted. -/
def raisedText (kind : String) (args : List Value) : String :=
  match args with
  | [] => if messageKinds.contains kind then Value.null.shown else ""
  | [v] => if kind = "KeyError" then v.quoted else v.shown
  | args => (Value.tuple args).quoted

def message : Fault → String
  | .emptyName => "The template name must not be empty."
  | .escapingName name =>
    "The template \"" ++ name ++ "\" must be a relative name under the template root."
  | .templateMissing path _ => "The template \"" ++ path ++ "\" not found."
  | .duplicateHelper name =>
    "The function \"" ++ name ++ "\" is already associated with the template."
  | .unknownHelper name => "The function \"" ++ name ++ "\" is not associated with the template."
  | .rendering cause => cause.message
  | .brokenScript path cause => "Syntax error in template " ++ path ++ ": " ++ cause.message
  | .unreadableConfig path cause =>
    "Could not read config file " ++ path ++ ": " ++ cause.message
  | .invalidConfig cause => "Invalid template configuration: " ++ cause.message
  | .unwritable path cause =>
    "failed to write to file '" ++ path ++ "': " ++ cause.message
  | .system r path =>
    "[Errno " ++ toString r.number ++ "] " ++ r.text ++ ": " ++ Text.quoted path
  | .decoding f => f.message
  | .markupSyntax _ => "<syntax>"
  | .scriptSyntax file line =>
    "'(' was never closed (" ++ file ++ ", line " ++ toString line ++ ")"
  | .unknownScript path => "the script " ++ path ++ " is no list of statements"
  | .settingsSyntax => "<toml>"
  | .nestedTooDeep isList =>
    "maximum recursion depth exceeded while decoding a JSON " ++
      (if isList then "array" else "object") ++ " from a unicode string"
  | .halfCharacter => "surrogates are not held"
  | .tagging text => text
  | .includeMissing name none => name
  | .includeMissing name (some path) =>
    Text.quoted name ++ " not found in search path: " ++ Text.quoted path
  | .undefined text => text
  | .noFilter name => "No filter named " ++ Text.quoted name ++ " found."
  | .noTest name => "No test named " ++ Text.quoted name ++ " found."
  | .tooDeep => "maximum recursion depth exceeded"
  | .misuse m => m.message
  | .refused r => r.message
  | .noAttribute kind name => "'" ++ kind ++ "' object has no attribute '" ++ name ++ "'"
  | .missingKey v => v.quoted
  | .index text => text
  | .zeroDivision text => text
  | .overflow text => text
  | .unbound name => "name '" ++ name ++ "' is not defined"
  | .raised kind args => raisedText kind args

/-- The fault that a fault of the library reports. -/
def cause? : Fault → Option Fault
  | .templateMissing _ c => c
  | .rendering c | .brokenScript _ c | .unreadableConfig _ c | .invalidConfig c
  | .unwritable _ c => some c
  | _ => none

/-- A fault that nobody has raised by name, and that is none of the library either. -/
def Foreign : Fault → Prop
  | .emptyName | .escapingName _ | .templateMissing .. | .duplicateHelper _ | .unknownHelper _
  | .rendering _ | .brokenScript .. | .unreadableConfig .. | .invalidConfig _ | .unwritable ..
  | .raised .. => False
  | _ => True

end Fault

namespace Kind

/-- The kinds above a kind, nearest first. -/
def above : String → List String
  | "SystemExit" | "KeyboardInterrupt" | "GeneratorExit" | "BaseException" => []
  | "Exception" => []
  | "ConfigError" | "TemplateNotFoundError" | "DuplicateHelperError" | "TemplateRenderError"
  | "OutputError" => ["TemplateViewError", "Exception"]
  | "UnknownHelperError" => ["TemplateViewError", "AttributeError", "Exception"]
  | "KeyError" | "IndexError" => ["LookupError", "Exception"]
  | "ZeroDivisionError" | "OverflowError" | "FloatingPointError" =>
    ["ArithmeticError", "Exception"]
  | "UnicodeError" => ["ValueError", "Exception"]
  | "UnicodeDecodeError" | "UnicodeEncodeError" => ["UnicodeError", "ValueError", "Exception"]
  | "NotImplementedError" | "RecursionError" | "Exit" | "Abort" => ["RuntimeError", "Exception"]
  | "UsageError" => ["ClickException", "Exception"]
  | "BadParameter" => ["UsageError", "ClickException", "Exception"]
  | "UnboundLocalError" => ["NameError", "Exception"]
  | "ModuleNotFoundError" => ["ImportError", "Exception"]
  | "IndentationError" => ["SyntaxError", "Exception"]
  | "FileNotFoundError" | "FileExistsError" | "IsADirectoryError" | "NotADirectoryError"
  | "PermissionError" | "TimeoutError" | "InterruptedError" | "BlockingIOError"
  | "ChildProcessError" | "ProcessLookupError" => ["OSError", "Exception"]
  | "ConnectionError" => ["OSError", "Exception"]
  | "BrokenPipeError" | "ConnectionResetError" | "ConnectionAbortedError"
  | "ConnectionRefusedError" => ["ConnectionError", "OSError", "Exception"]
  | "TemplateNotFound" =>
    ["OSError", "LookupError", "TemplateError", "Exception"]
  | "TemplateSyntaxError" | "TemplateRuntimeError" => ["TemplateError", "Exception"]
  | "UndefinedError" => ["TemplateRuntimeError", "TemplateError", "Exception"]
  | "TomlDecodeError" => ["ValueError", "Exception"]
  | _ => ["Exception"]

/-- Whether catching `k` also catches `kind`. -/
def isA (kind k : String) : Bool := kind == k || k == "BaseException" || (above kind).contains k

end Kind

namespace Fault

/-- Whether a handler for `k` catches the fault. -/
def isA (f : Fault) (k : String) : Bool := Kind.isA f.kind k

/-- Whether the fault is one of the library's own kinds. -/
def isOwn (f : Fault) : Bool := f.isA "TemplateViewError"

/-- Whether the fault is an ordinary one, and not a request to end the program. -/
def isOrdinary (f : Fault) : Bool := f.isA "Exception"

end Fault

end Stencil
