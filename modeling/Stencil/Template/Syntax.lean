import Stencil.Text.Blank
import Stencil.Value.Order

/-!
# The form of compiled templates

A template is a list of statements: literal text, output of an expression,
conditionals, loops, assignments, inclusion of other templates, and blocks of
translatable text. Nesting goes through lists of statements and lists of
expressions only, so that everything about templates is defined by recursion on
them.

A block of translatable text is kept as its pieces. The message that catalogs
know it by is made of the pieces: a mention of a variable becomes a place that
names it, and because the message is a format text then, a percent sign is
doubled, unless no variable is mentioned at all.

## Main definitions

* `Expr`, `Stmt`: Expressions and statements.
* `Expr.names`: The names that an expression mentions.
* `TransBlock`: A block of translatable text.
* `TransBlock.message`: The message of its pieces.
-/

namespace Stencil

namespace Template

/-- The arithmetic operators. -/
inductive BinaryOp where
  | add
  | sub
  | mul
  | div
  | floorDiv
  | mod
deriving DecidableEq

/-- The comparisons. -/
inductive Comparison where
  | eq
  | ne
  | order (r : Relation)
  | mem
  | notMem
deriving DecidableEq

/-- Expressions. Keyword arguments are held as two lists, names and values. A
    filter or test remembers its line; a filter also remembers whether it was
    known to need the state of the rendering when the template was compiled. -/
inductive Expr where
  | const (v : Value)
  | name (n : String)
  | list (items : List Expr)
  | tuple (items : List Expr)
  | dict (keys values : List Expr)
  | member (e : Expr) (name : String)
  | item (e index : Expr)
  | call (f : Expr) (args : List Expr) (keywords : List String) (values : List Expr)
  | filter (e : Expr) (name : String) (args : List Expr) (keywords : List String)
      (values : List Expr) (line : Nat) (contextual : Bool)
  | test (e : Expr) (name : String) (args : List Expr) (keywords : List String)
      (values : List Expr) (line : Nat)
  | sign (minus : Bool) (e : Expr)
  | not (e : Expr)
  | binary (op : BinaryOp) (l r : Expr)
  | and (l r : Expr)
  | or (l r : Expr)
  | concat (pieces : List Expr)
  | compare (e : Expr) (ops : List Comparison) (operands : List Expr)
  | choose (test yes no : Expr)
  | chooseSome (test yes : Expr) (line : Nat)

instance : Inhabited Expr := ⟨.const .null⟩

mutual

/-- The names that an expression mentions. -/
def Expr.names : Expr → List String
  | .const _ => []
  | .name n => [n]
  | .list items => namesOfAll items
  | .tuple items => namesOfAll items
  | .dict keys values => namesOfAll keys ++ namesOfAll values
  | .member e _ => e.names
  | .item e index => e.names ++ index.names
  | .call f args _ values => f.names ++ namesOfAll args ++ namesOfAll values
  | .filter e _ args _ values _ _ => e.names ++ namesOfAll args ++ namesOfAll values
  | .test e _ args _ values _ => e.names ++ namesOfAll args ++ namesOfAll values
  | .sign _ e => e.names
  | .not e => e.names
  | .binary _ l r => l.names ++ r.names
  | .and l r => l.names ++ r.names
  | .or l r => l.names ++ r.names
  | .concat pieces => namesOfAll pieces
  | .compare e _ operands => e.names ++ namesOfAll operands
  | .choose test yes no => test.names ++ yes.names ++ no.names
  | .chooseSome test yes _ => test.names ++ yes.names

def namesOfAll : List Expr → List String
  | [] => []
  | e :: es => e.names ++ namesOfAll es

end

/-- What an assignment or a loop binds. -/
inductive Target where
  | name (n : String)
  | tuple (items : List Target)

instance : Inhabited Target := ⟨.tuple []⟩

/-- A piece of translatable text. -/
inductive Piece where
  | text (s : String)
  | mention (name : String)
deriving DecidableEq

/-- A block of translatable text: an optional context, its variables with their
    expressions, the pieces for one thing and, if it counts, the expression that
    it counts by and the pieces for several. -/
structure TransBlock where
  context : Option String
  names : List String
  values : List Expr
  singular : List Piece
  plural : Option (List Piece)
  count : Option Expr
  trimmed : Bool

/-- Statements. In a conditional the flag says that the alternative is one more
    conditional of the same chain. What binds names keeps the line of the names. -/
inductive Stmt where
  | text (s : String)
  | print (e : Expr)
  | branch (test : Expr) (body orelse : List Stmt) (chained : Bool)
  | loop (target : Target) (line : Nat) (iter : Expr) (test : Option Expr)
      (body orelse : List Stmt)
  | set (target : Target) (line : Nat) (e : Expr)
  | include (template : Expr) (ignoreMissing withContext : Bool)
  | trans (block : TransBlock)

instance : Inhabited Stmt := ⟨.text ""⟩

namespace Target

mutual

/-- The names that a target binds, from left to right. -/
def names : Target → List String
  | .name n => [n]
  | .tuple items => namesOfAll items

def namesOfAll : List Target → List String
  | [] => []
  | t :: ts => names t ++ namesOfAll ts

end

end Target

namespace Piece

/-- The variable that a piece mentions. -/
def mention? : Piece → Option String
  | .text _ => none
  | .mention n => some n

/-- A piece inside a message that is a format text. -/
def formatText : Piece → String
  | .text s => String.ofList (s.toList.flatMap fun c => if c = '%' then ['%', '%'] else [c])
  | .mention n => "%(" ++ n ++ ")s"

/-- A piece inside a message that is used as it stands. -/
def plainText : Piece → String
  | .text s => s
  | .mention n => n

end Piece

namespace TransBlock

/-- The variables that the pieces mention, in order of mention. -/
def mentions (b : TransBlock) : List String :=
  b.singular.filterMap Piece.mention? ++ (b.plural.getD []).filterMap Piece.mention?

/-- Writes a text whose line ends, with the blanks around them, are single spaces.
    `pending` holds the blanks just read, reversed, and `broken` whether a line
    ended among them. -/
def joinLines (pending : List Char) (broken : Bool) : List Char → List Char
  | [] => pending.reverse
  | c :: s =>
    if Text.isBlank c then joinLines (c :: pending) (broken || c == '\n') s
    else (if broken then [' '] else pending.reverse) ++ c :: joinLines [] false s

/-- A text without blanks at its ends, in which every line end with the blanks
    around it is one space. -/
def trimLines (s : String) : String := String.ofList (joinLines [] false (Text.trim s.toList))

/-- The message of some pieces: a format text if any variable is mentioned in the
    block. -/
def message (b : TransBlock) (pieces : List Piece) : String :=
  let text :=
    if b.mentions.isEmpty then String.join (pieces.map Piece.plainText)
    else String.join (pieces.map Piece.formatText)
  if b.trimmed then trimLines text else text
end TransBlock

end Template

end Stencil
