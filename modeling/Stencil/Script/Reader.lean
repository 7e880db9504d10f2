import Stencil.Json
import Stencil.Path
import Stencil.Script.Syntax

/-!
# Reading scripts

A script is written as data: a list of statements, each a list that starts with
the name of its form. An expression is a list of that kind too, and everything
else stands for itself. A file holds the list as JSON, or has only comments, and then
the script in it does nothing. Of a file with any other text it is not known here what
the script in it does, so there is none.

## Main definitions

* `expr?`, `stmt?`: Reading expressions and statements.
* `ofValue?`: The script that some data writes.
* `ofText?`: The script in a text.

## Theorems

* `expr?_plain`: What is no list stands for itself.
-/

namespace Stencil

namespace Script

mutual

/-- How deep lists and mappings are nested in a value. -/
def nesting : Value → Nat
  | .list vs => nestingOfItems vs + 1
  | .tuple vs => nestingOfItems vs + 1
  | .dict es => nestingOfEntries es + 1
  | _ => 0

/-- How deep the deepest of some items is. -/
def nestingOfItems : List Value → Nat
  | [] => 0
  | v :: vs => max (nesting v) (nestingOfItems vs)

/-- How deep the deepest of some entries is. -/
def nestingOfEntries : List (Value × Value) → Nat
  | [] => 0
  | (_, v) :: es => max (nesting v) (nestingOfEntries es)

end

/-- The two-sided operators by their signs. -/
def operators : List (String × Operator) :=
  [("+", .add), ("-", .sub), ("*", .mul), ("//", .floorDiv), ("%", .mod), ("==", .eq), ("<", .lt)]

/-- A call with its arguments and keywords, each of which may be left out. -/
def call? (read : Value → Option Expr) (route : Route) (name : String) (rest : List Value) :
    Option Expr := do
  let (args, entries) ←
    match rest with
    | [] => some ([], [])
    | [.list args] => some (args, [])
    | [.list args, .null] => some (args, [])
    | [.list args, .dict entries] => some (args, entries)
    | _ => none
  let keywords := Bindings.ofEntries entries
  return .call route name (← args.mapM read) keywords.keys (← keywords.mapM fun e => read e.2)

/-- An expression of a form, given how its parts are read. -/
def form? (read : Value → Option Expr) (form : String) (parts : List Value) : Option Expr :=
  match form, parts with
  | "lit", [v] => some (.lit v)
  | "var", [.text n] => some (.var n)
  | "get", [k] => do return .get (← read k)
  | "get", [k, d] => do return .getOr (← read k) (← read d)
  | "item", [k] => do return .item (← read k)
  | "has", [k] => do return .has (← read k)
  | "keys", [] => some .keys
  | "call", .text n :: rest => call? read .proxy n rest
  | "ctx_call", .text n :: rest => call? read .contextProxy n rest
  | "invoke", .text n :: rest => call? read .invoke n rest
  | "hascall", [.text n] => some (.hasHelper n)
  | "dircall", [] => some .helperNames
  | "helper_names", [] => some .helperNames
  | "helper_count", [] => some .helperCount
  | "__file__", [] => some .path
  | "__name__", [] => some .moduleName
  | "str", [e] => do return .str (← read e)
  | "len", [e] => do return .len (← read e)
  | "and", [l, r] => do return .and (← read l) (← read r)
  | "or", [l, r] => do return .or (← read l) (← read r)
  | op, [l, r] => do return .operate (← operators.lookup op) (← read l) (← read r)
  | _, _ => none

/-- An expression. The first argument bounds the nesting. -/
def expr? : Nat → Value → Option Expr
  | 0, _ => none
  | fuel + 1, v =>
    match v with
    | .list (.text form :: parts) => form? (expr? fuel) form parts
    | .list _ => none
    | v => some (.lit v)

theorem expr?_plain (fuel : Nat) (v : Value) (h : ∀ vs, v ≠ .list vs) :
    expr? (fuel + 1) v = some (.lit v) := by
  cases v <;> simp_all [expr?]

/-- A printing statement; the separator and the ending may be left out. -/
def print? (read : Value → Option Expr) (values : List Value) (rest : List Value) :
    Option Stmt := do
  let options : Bindings ←
    match rest with
    | [] => some []
    | [.dict entries] => some (Bindings.ofEntries entries)
    | _ => none
  let option (key : String) : Option Expr := read ((options.get? key).getD .null)
  return .print (← values.mapM read) (← option "sep") (← option "end")

/-- A statement of a form, given how expressions and the statements in it are read. -/
def statement? (read : Value → Option Expr) (body : List Value → Option Program) (form : String)
    (parts : List Value) : Option Stmt :=
  match form, parts with
  | "write", es => do return .write (← es.mapM read)
  | "ctx_write", es => do return .write (← es.mapM read)
  | "print", .list es :: rest => print? read es rest
  | "ctx_print", .list es :: rest => print? read es rest
  | "expr", [e] => do return .eval (← read e)
  | "let", [.text n, e] => do return .assign n (← read e)
  | "if", [e, .list yes] => do return .branch (← read e) (← body yes) []
  | "if", [e, .list yes, .list no] => do return .branch (← read e) (← body yes) (← body no)
  | "for", [.text n, e, .list each] => do return .loop n (← read e) (← body each)
  | "try", [.list tried, .text kind, .list handler] => do
    return .handle (← body tried) kind (← body handler)
  | "raise", .text kind :: es => do return .raise kind (← es.mapM read)
  | "add_const", [.text n, e] => do return .addConstant n (← read e)
  | "remove_helper", [.text n] => some (.removeHelper n)
  | _, _ => none

/-- A statement. The first argument bounds the nesting. -/
def stmt? : Nat → Value → Option Stmt
  | 0, _ => none
  | fuel + 1, v =>
    match v with
    | .list (.text form :: parts) =>
      statement? (expr? fuel) (fun vs => vs.mapM (stmt? fuel)) form parts
    | _ => none

/-- The script that some data writes. -/
def ofValue? (v : Value) : Option Program :=
  match v with
  | .list vs => vs.mapM (stmt? (nesting v + 1))
  | _ => none

/-- Whether a line holds nothing but blanks and a comment. -/
def isIdle (line : List Char) : Bool :=
  match line.dropWhile fun c => c == ' ' || c == '\t' || c == '\x0c' with
  | [] => true
  | c :: _ => c == '#'

/-- The script in a text. One without any statement has only comments. What is no list of
    statements is no script that is known here. -/
def ofText? (s : List Char) : Option Program :=
  if (Path.splitOn '\n' s).all isIdle then some [] else (Json.parse? s).bind ofValue?

end Script

end Stencil
