import Stencil.Value.Arithmetic

/-!
# Members of values

A member is asked for by name after a dot or by any value in brackets. What does
not exist is an undefined value that says what is missing; asking an undefined
value for a member fails at once.

## Main definitions

* `Undefined.ofName`, `Undefined.ofMember`: Undefined values for what is missing.
* `Value.memberNamed`: A member by name.
* `Value.item`: A member by any key.
-/

namespace Stencil

/-- A name that nothing is bound to. -/
def Undefined.ofName (strict : Bool) (n : String) : Undefined :=
  ⟨Text.quoted n ++ " is undefined", strict⟩

/-- A member that a value does not have. A text names an attribute, any other key
    an element. -/
def Undefined.ofMember (strict : Bool) (owner key : Value) : Undefined :=
  if key.text?.isSome then
    ⟨Text.quoted owner.ownerName ++ " has no attribute " ++ key.quoted, strict⟩
  else ⟨owner.ownerName ++ " has no element " ++ key.quoted, strict⟩

namespace Value

/-- What the loop object knows of the round it is in. -/
def loopMember? (index0 length : Nat) : String → Option Value
  | "index" => some (.int (index0 + 1))
  | "index0" => some (.int index0)
  | "revindex" => some (.int (length - index0 : Nat))
  | "revindex0" => some (.int (length - index0 - 1 : Nat))
  | "first" => some (.bool (index0 == 0))
  | "last" => some (.bool (index0 + 1 == length))
  | "length" => some (.int length)
  | "depth" => some (.int 1)
  | "depth0" => some (.int 0)
  | "cycle" => some (.function (.cycle index0 length))
  | _ => none

/-- The item at a position, counted from the end if negative. -/
def at? (items : List Value) (n : Int) : Option Value :=
  if 0 ≤ n then items[n.toNat]?
  else if -n ≤ items.length then items[items.length - (-n).toNat]?
  else none

/-- The member of a value under a key, if there is one. -/
def member? (v key : Value) : Except Fault (Option Value) :=
  match v with
  | .undefined u => refuse u
  | .dict entries =>
    match keyFault? key with
    -- What refuses to be a key because it is undefined does so here too.
    | some (.undefined message) => .error (.undefined message)
    | some _ => .ok none
    | none => .ok (findEntry key entries)
  | .list items | .tuple items => .ok (key.whole?.bind (at? items))
  | .text s => .ok (key.whole?.bind (at? (characters s)))
  | .markup s =>
    .ok (key.whole?.bind (at? (s.toList.map fun c => .markup (String.singleton c))))
  | .loop i n => .ok (key.text?.bind (loopMember? i n))
  | _ => .ok none

/-- The member of a value in brackets. -/
def item (strict : Bool) (v key : Value) : Except Fault Value := do
  return (← member? v key).getD (.undefined (.ofMember strict v key))

/-- The member of a value after a dot. -/
def memberNamed (strict : Bool) (v : Value) (name : String) : Except Fault Value :=
  item strict v (.text name)

end Value

end Stencil
