import Stencil.Template.Compile

/-!
# Where names are bound

A template binds names in its data, with assignments and in loops. Names bound in
a loop's body last for one round of it; a condition binds no scope of its own.

A name that a stretch of statements assigns before it mentions it in any other way
belongs to that stretch from its start: until it is assigned nothing is bound to
it, even if the data has a value for it. Only the loops inside the stretch can
tell, because whatever stands outside them comes in order. An assignment that a
condition may skip does not count, unless every alternative of a chain with a
middle makes it.

## Main definitions

* `Refs`: What a stretch of statements does with names.
* `unboundNames`: The names that belong to a stretch and start unbound.
* `usesLoop`: Whether a loop's body mentions the loop object.
-/

namespace Stencil

namespace Template

/-- The function that a translatable block calls. -/
def TransBlock.functionName (b : TransBlock) : String :=
  (if b.count.isSome then "n" else "") ++ (if b.context.isSome then "p" else "") ++ "gettext"

/-- The names that a translatable block mentions. -/
def TransBlock.allNames (b : TransBlock) : List String :=
  b.functionName :: (b.count.map Expr.names).getD [] ++ namesOfAll b.values

/-- What is known of a name in a stretch of statements: whether it starts unbound,
    and whether it is assigned. -/
structure Ref where
  unbound : Bool
  stored : Bool

/-- What a stretch of statements does with names. -/
abbrev Refs := List (String × Ref)

namespace Refs

/-- Sets what is known of a name. -/
def put (r : Refs) (n : String) (x : Ref) : Refs := (n, x) :: r.filter (·.1 != n)

/-- A mention that is no assignment. -/
def load (r : Refs) (n : String) : Refs :=
  if (r.lookup n).isSome then r else r.put n ⟨false, false⟩

def loadAll (r : Refs) (ns : List String) : Refs := ns.foldl load r

/-- An assignment. A name that is mentioned for the first time, here and around the
    stretch, starts unbound. -/
def store (outer : List String) (r : Refs) (n : String) : Refs :=
  match r.lookup n with
  | some x => r.put n { x with stored := true }
  | none => r.put n ⟨!outer.contains n, true⟩

def storeAll (outer : List String) (r : Refs) (ns : List String) : Refs := ns.foldl (store outer) r

def isStored (r : Refs) (n : String) : Bool := (r.lookup n).any (·.stored)

/-- Joins what the three parts of a chain of conditions do. A name that some part
    assigns and some part does not is bound from the start. -/
def merge (before : Refs) (parts : List Refs) : Refs :=
  let all := parts.foldl (fun r p => p.foldr (fun e r => r.put e.1 e.2) r) before
  let stored := all.filter fun e => !before.isStored e.1 && parts.any (·.isStored e.1)
  stored.foldl (fun r e =>
    if parts.all (·.isStored e.1) then r.put e.1 { e.2 with stored := true }
    else r.put e.1 ⟨false, true⟩) all

end Refs

mutual

/-- What a statement does with names, after what came before it. -/
def refsOne (outer : List String) (r : Refs) : Stmt → Refs
  | .text _ => r
  | .print e => r.loadAll e.names
  | .branch test body orelse chained =>
    let r := r.loadAll test.names
    let yes := refsAll outer r body
    let middle := if chained then refsChain outer r orelse else r
    let no := if chained then refsLast outer r orelse else refsAll outer r orelse
    r.merge [yes, middle, no]
  | .loop _ _ iter _ _ _ => r.loadAll iter.names
  | .set target _ e => (r.loadAll e.names).storeAll outer target.names
  | .include e _ _ => r.loadAll e.names
  | .trans b => r.loadAll b.allNames

/-- What statements do with names, one after the other. -/
def refsAll (outer : List String) (r : Refs) : List Stmt → Refs
  | [] => r
  | s :: ss => refsAll outer (refsOne outer r s) ss

/-- What the middle conditions of a chain do, one after the other. -/
def refsChain (outer : List String) (r : Refs) : List Stmt → Refs
  | [.branch test body orelse chained] =>
    let r := r.loadAll test.names
    let r := r.merge [refsAll outer r body, r, r]
    if chained then refsChain outer r orelse else r
  | _ => r

/-- What the last alternative of a chain does. -/
def refsLast (outer : List String) (r : Refs) : List Stmt → Refs
  | [.branch _ _ orelse chained] =>
    if chained then refsLast outer r orelse else refsAll outer r orelse
  | _ => r

end

/-- The names that belong to a stretch of statements and start unbound. -/
def unboundNames (r : Refs) : List String := (r.filter (·.2.unbound)).map (·.1)

mutual

/-- Whether a statement mentions a name, other than to bind it. -/
def mentionsOne (n : String) : Stmt → Bool
  | .text _ => false
  | .print e => e.names.contains n
  | .branch test body orelse _ =>
    test.names.contains n || mentionsAny n body || mentionsAny n orelse
  | .loop _ _ iter test body orelse =>
    iter.names.contains n || (test.any fun e => e.names.contains n) || mentionsAny n body ||
      mentionsAny n orelse
  | .set _ _ e => e.names.contains n
  | .include e _ _ => e.names.contains n
  | .trans b => b.allNames.contains n

def mentionsAny (n : String) : List Stmt → Bool
  | [] => false
  | s :: ss => mentionsOne n s || mentionsAny n ss

end

/-- Whether the body of a loop mentions the loop object. -/
def usesLoop (body : List Stmt) : Bool := mentionsAny loopName body

end Template

end Stencil
