import Stencil.Locale
import Stencil.Value.Order

/-!
# Message catalogs

A catalog maps messages to their translations, and messages that count something to one
form for each plural of its language. Which form goes with a number is a rule of the
catalog; without one there is a form for a single thing and one for several. A message that
is looked up alone also has the form for a single thing. Catalogs form a chain: a message
that one of them lacks is looked up in the next, and a message that none has is its own
translation. The empty chain translates everything into itself.

Catalogs are found under a directory by language. A language is looked up by its full name,
then by that without encoding, territory and modifier; the search stops at the language `C`,
which asks for the messages as they are written.

## Main definitions

* `Catalog`: One catalog.
* `Catalog.message?`, `Catalog.form?`: What it has for a message, alone or counted.
* `Translations`: A chain of them.
* `Translations.message`, `Translations.counted?`: The two lookups.
* `languageVariants`, `searchedLanguages`: The order of the search.

## Theorems

* `Translations.message_nil`: The empty chain translates nothing.
-/

namespace Stencil

/-- Translations of single messages, and the forms of messages that count: those with two
    forms, and those with another number of them. The rule gives the form that goes with a
    number. -/
structure Catalog where
  singular : List (String × String)
  plural : List (String × (String × String))
  others : List (String × List String) := []
  rule : Option (Number → Nat) := none

namespace Catalog

/-- The form that goes with one thing. -/
def formOfOne (c : Catalog) : Nat := c.rule.elim 0 (· (.int 1))

/-- The form that goes with a number of things. A rule wants a number; without a rule
    everything can be asked whether it is one. -/
def formOf (c : Catalog) (n : Value) : Except Fault Nat :=
  match c.rule with
  | none => (Value.equal n (.int 1)).map fun isOne => if isOne then 0 else 1
  | some rule =>
    match n.number? with
    | some x => .ok (rule x)
    | none =>
      .error (.misuse (.arguments ("Plural value must be an integer, got " ++ n.className)))

/-- The form of a message that counts. -/
def form? (c : Catalog) (m : String) (i : Nat) : Option String :=
  match c.plural.lookup m with
  | some (a, b) => [a, b][i]?
  | none => (c.others.lookup m).bind (·[i]?)

/-- What a message alone is translated to: its translation, or the form for one thing. -/
def message? (c : Catalog) (m : String) : Option String :=
  (c.singular.lookup m).or (c.form? m c.formOfOne)

end Catalog

/-- A chain of catalogs, the first asked first. -/
abbrev Translations := List Catalog

namespace Translations

/-- The first translation of a message, if a catalog has one. -/
def message? (t : Translations) (m : String) : Option String := t.findSome? (·.message? m)

/-- The translation of a message: the first one in the chain, else itself. -/
def message (t : Translations) (m : String) : String := (t.message? m).getD m

/-- The first form of a message that counts, if a catalog has one. Every catalog that is
    asked looks at the number by its own rule. -/
def counted? (t : Translations) (m n : Value) : Except Fault (Option String) :=
  match t with
  | [] => .ok none
  | c :: t => do
    let i ← c.formOf n
    match Value.keyFault? m, m.text?.bind (c.form? · i) with
    | some f, _ => throw f
    | none, some form => return some form
    | none, none => counted? t m n

/-- The text between a context and a message in the key of a catalog. -/
def contextMark : String := "\x04"

theorem message_nil (m : String) : message [] m = m := rfl

end Translations

/-- The names under which a language is looked up: its full name first, then that without
    encoding, territory and modifier. -/
def languageVariants (language : String) : List String :=
  let (rest, modifier) := Locale.cutAt '@' (Locale.full language).toList
  let (rest, encoding) := Locale.cutAt '.' rest
  let (base, territory) := Locale.cutAt '_' rest
  let choices (part : List Char) : List (List Char) := if part.isEmpty then [[]] else [part, []]
  (choices modifier).flatMap fun m =>
    (choices territory).flatMap fun t =>
      (choices encoding).map fun e => String.ofList (base ++ t ++ e ++ m)

/-- The names that a list of languages is searched by, each once, up to `C`. -/
def searchedLanguages (languages : List String) : List String :=
  ((languages.flatMap languageVariants).foldl
    (fun seen l => if seen.contains l then seen else seen ++ [l]) []).takeWhile (· != "C")

end Stencil
