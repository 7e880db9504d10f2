import Stencil.Helper
import Stencil.Text.Closeness

/-!
# The words of a command line

A command line is a list of words: options, the values that some of them take, and
the words that are left. A long option starts with two dashes and may have its
value in the same word after an equals sign; short options start with one dash, may
share a word, and the first that takes a value takes the rest of the word or the
word after it. Two dashes alone end the options. Whether options may stand after
other words is up to the command.

What is wrong with a command line is told by the first word that is wrong.

## Main definitions

* `UsageFault`: What can be wrong with a command line.
* `OptionForm`: The form of an option.
* `Parsed`, `parse`: Reading the words.

## Theorems

* `parse_plain`: Words without a dash in front are left as they are.
-/

namespace Stencil

namespace Command

/-- What can be wrong with a command line. -/
inductive UsageFault where
  | noWords
  | missingCommand
  | noSuchCommand (name : String) (close : List String)
  | noSuchOption (name : String) (close : List String)
  | missingValue (option : String)
  | surplusValue (option : String)
  | badValue (option reason : String)
  | missingArgument (name : String)
  | surplusArguments (words : List String)

/-- The words that a misspelled one may have meant. -/
def suggestion (close : List String) : String :=
  match (HelperTable.sortNames close).map Text.quoted with
  | [] => ""
  | [w] => " Did you mean " ++ w ++ "?"
  | ws => " (Did you mean one of: " ++ ", ".intercalate ws ++ "?)"

/-- What is said about a fault, if anything is. -/
def UsageFault.message? : UsageFault → Option String
  | .noWords => none
  | .missingCommand => some "Missing command."
  | .noSuchCommand n close => some ("No such command " ++ Text.quoted n ++ "." ++ suggestion close)
  | .noSuchOption n close => some ("No such option " ++ Text.quoted n ++ "." ++ suggestion close)
  | .missingValue o => some ("Option " ++ Text.quoted o ++ " requires an argument.")
  | .surplusValue o => some ("Option " ++ Text.quoted o ++ " does not take a value.")
  | .badValue o reason => some ("Invalid value for " ++ o ++ ": " ++ reason)
  | .missingArgument n => some ("Missing argument " ++ Text.quoted n ++ ".")
  | .surplusArguments ws =>
    some ("Got unexpected extra argument" ++ (if ws.length = 1 then "" else "s") ++ " (" ++
      " ".intercalate ws ++ ")")

/-- The words of a list that are close to a word. -/
def closeTo (word : String) (words : List String) : List String :=
  words.filter fun w => Text.isClose w.toList word.toList

/-- The form of an option: what it asks for, its names with their dashes, and
    whether it takes a value. -/
structure OptionForm (α : Type) where
  option : α
  names : List String
  takesValue : Bool

/-- An option as it was given. Without a value the text is empty. -/
structure Given (α : Type) where
  option : α
  value : String

/-- The options of a command line in order, and the words that are left. -/
structure Parsed (α : Type) where
  given : List (Given α)
  rest : List String

/-- Whether a word holds options. -/
def holdsOptions (word : String) : Bool :=
  match word.toList with
  | '-' :: _ :: _ => true
  | _ => false

/-- Whether a name is that of a long option. -/
def isLong (name : String) : Bool := "--".isPrefixOf name

/-- The option of a name. -/
def findOption? {α : Type} (forms : List (OptionForm α)) (name : String) : Option (OptionForm α) :=
  forms.find? fun f => f.names.contains name

/-- The long names of options. -/
def longNames {α : Type} (forms : List (OptionForm α)) : List String :=
  (forms.flatMap OptionForm.names).filter isLong

/-- The options in a word, and the option that waits for the next word as its value,
    with the name it was given by. -/
abbrev Found (α : Type) := List (Given α) × Option (α × String)

/-- A long option. -/
def longOption {α : Type} (forms : List (OptionForm α)) (word : String) :
    Except UsageFault (Found α) :=
  let name := String.ofList (word.toList.takeWhile (· != '='))
  match findOption? forms name, word.toList.dropWhile (· != '=') with
  | none, _ => .error (.noSuchOption name (closeTo name (longNames forms)))
  | some f, [] => .ok (if f.takesValue then ([], some (f.option, name)) else ([⟨f.option, ""⟩], none))
  | some f, _ :: value =>
    if f.takesValue then .ok ([⟨f.option, String.ofList value⟩], none)
    else .error (.surplusValue name)

/-- Short options that share a word. -/
def shortOptions {α : Type} (forms : List (OptionForm α)) :
    List Char → Except UsageFault (Found α)
  | [] => .ok ([], none)
  | c :: cs => do
    let name := String.ofList ['-', c]
    match findOption? forms name with
    | none => .error (.noSuchOption name [])
    | some f =>
      if f.takesValue then
        return if cs.isEmpty then ([], some (f.option, name))
          else ([⟨f.option, String.ofList cs⟩], none)
      else
        let (more, waiting) ← shortOptions forms cs
        return (⟨f.option, ""⟩ :: more, waiting)

/-- The options in a word. -/
def optionsIn {α : Type} (forms : List (OptionForm α)) (word : String) :
    Except UsageFault (Found α) :=
  if isLong word then longOption forms word else shortOptions forms (word.toList.drop 1)

/-- Reads words after an option that may wait for the first of them. -/
def parseAfter {α : Type} (forms : List (OptionForm α)) (anywhere : Bool) :
    Option (α × String) → List String → Except UsageFault (Parsed α)
  | none, [] => .ok ⟨[], []⟩
  | some (_, name), [] => .error (.missingValue name)
  | some (o, _), w :: ws => do
    let p ← parseAfter forms anywhere none ws
    return ⟨⟨o, w⟩ :: p.given, p.rest⟩
  | none, w :: ws =>
    if w = "--" then .ok ⟨[], ws⟩
    else if holdsOptions w then do
      let (found, waiting) ← optionsIn forms w
      let p ← parseAfter forms anywhere waiting ws
      return ⟨found ++ p.given, p.rest⟩
    else if anywhere then do
      let p ← parseAfter forms anywhere none ws
      return ⟨p.given, w :: p.rest⟩
    else .ok ⟨[], w :: ws⟩

/-- Reads words. Unless `anywhere` is set, options stand before all other words. -/
def parse {α : Type} (forms : List (OptionForm α)) (anywhere : Bool) (ws : List String) :
    Except UsageFault (Parsed α) :=
  parseAfter forms anywhere none ws

theorem parse_plain {α : Type} (forms : List (OptionForm α)) (anywhere : Bool) (ws : List String)
    (h : ∀ w ∈ ws, w ≠ "--" ∧ holdsOptions w = false) :
    parse forms anywhere ws = .ok ⟨[], ws⟩ := by
  unfold parse
  induction ws with
  | nil => simp [parseAfter]
  | cons w ws ih =>
    have hw := h w (by simp)
    have := ih fun v hv => h v (by simp [hv])
    cases anywhere <;> simp [parseAfter, hw.1, hw.2, this, bind, Except.bind, pure, Except.pure]

/-- The last value that was given for an option. -/
def Parsed.last? {α : Type} [BEq α] (p : Parsed α) (o : α) : Option String :=
  (p.given.reverse.find? (·.option == o)).map (·.value)

/-- All values that were given for an option, in order. -/
def Parsed.all {α : Type} [BEq α] (p : Parsed α) (o : α) : List String :=
  (p.given.filter (·.option == o)).map (·.value)

/-- Whether an option was given. -/
def Parsed.has {α : Type} [BEq α] (p : Parsed α) (o : α) : Bool := p.given.any (·.option == o)

end Command

end Stencil
