import Stencil.Value.Order

/-!
# The form of scripts

A script is a list of statements that write text. Its expressions read the data
it was given, its own variables and its helpers; its statements write, assign,
branch, loop, catch and raise faults, and change the helper table.

A helper can be called in three ways: as an attribute of the call proxy, through
the proxy of the script's context, and by name.

Printing takes values, what stands between them and what ends them. It always goes
to the text of the script: a file to print to instead, and whether it is flushed,
cannot be said.

## Main definitions

* `Route`: The ways to a helper.
* `Expr`, `Stmt`: Expressions and statements.
* `Program`: A script.
-/

namespace Stencil

namespace Script

/-- The ways to call a helper. -/
inductive Route where
  | proxy
  | contextProxy
  | invoke
deriving DecidableEq

/-- The binary operators that evaluate both sides. -/
inductive Operator where
  | add
  | sub
  | mul
  | floorDiv
  | mod
  | eq
  | lt
deriving DecidableEq

/-- Expressions. -/
inductive Expr where
  | lit (v : Value)
  | var (name : String)
  | get (key : Expr)
  | getOr (key default : Expr)
  | item (key : Expr)
  | has (key : Expr)
  | keys
  | call (route : Route) (name : String) (args : List Expr) (keywords : List String)
      (values : List Expr)
  | hasHelper (name : String)
  | helperNames
  | helperCount
  | path
  | moduleName
  | str (e : Expr)
  | len (e : Expr)
  | operate (op : Operator) (l r : Expr)
  | and (l r : Expr)
  | or (l r : Expr)

instance : Inhabited Expr := ⟨.lit .null⟩

/-- Statements. -/
inductive Stmt where
  | write (values : List Expr)
  | print (values : List Expr) (sep ending : Expr)
  | eval (e : Expr)
  | assign (name : String) (e : Expr)
  | branch (test : Expr) (body orelse : List Stmt)
  | loop (name : String) (iter : Expr) (body : List Stmt)
  | handle (body : List Stmt) (kind : String) (handler : List Stmt)
  | raise (kind : String) (args : List Expr)
  | addConstant (name : String) (e : Expr)
  | removeHelper (name : String)

instance : Inhabited Stmt := ⟨.write []⟩

/-- A script. -/
abbrev Program := List Stmt

end Script

end Stencil
