import Stencil.Catalog
import Stencil.Template.Scope

/-!
# Evaluating expressions

The value of an expression where it stands: what names mean there, whether
undefined values are strict, and which translations are in reach. Evaluation
changes nothing, so an expression is a function from a scope to a value or a
fault.

The lookup functions of the translation setting take their messages as values. A
chain without catalogs returns them as they came, markup included; a catalog
answers with plain text. The function of the loop object picks one of its arguments.

A translatable block looks its function up by name like any other call, marks the
answer as markup, and fills it with the escaped values of its variables if it has
any.

## Main definitions

* `Scope`: What an expression can see.
* `translate`: The functions in reach of templates.
* `evaluate`: The value of an expression.
* `evaluateBlock`: The markup of a translatable block.
-/

namespace Stencil

namespace Template

/-- What an expression can see. `find` gives what names are bound to; `findOuter`
    is what the function that looks `gettext` up by name goes through. -/
structure Scope where
  strict : Bool
  template : String
  find : String → Option Value
  findOuter : String → Option Value
  translations : Translations
  transFilter : Bool

/-- The value of a name. -/
def Scope.value (s : Scope) (n : String) : Value :=
  (s.find n).getD (.undefined (.ofName s.strict n))

/-- The name of the class of a chain in error texts. -/
def chainName (t : Translations) : String :=
  if t.isEmpty then "NullTranslations" else "GNUTranslations"

/-- A message as the catalogs of a chain have it. Without catalogs it stays what it is; a
    message that is no text is in no catalog. -/
def lookUp (t : Translations) (key own : Value) : Except Fault Value :=
  if t.isEmpty then .ok own
  else
    match Value.keyFault? key with
    | some f => .error f
    | none => .ok ((key.text?.bind t.message?).elim own .text)

/-- A message that counts as the catalogs of a chain have it, else its own form for one
    thing or for several. -/
def lookUpCounted (t : Translations) (key one many n : Value) : Except Fault Value := do
  match ← t.counted? key n with
  | some form => return .text form
  | none => if ← Value.equal n (.int 1) then return one else return many

/-- The key of a message in a context, which only catalogs put together. -/
def contextKey (t : Translations) (context m : Value) : Except Fault Value :=
  if t.isEmpty then .ok m
  else do return .text ((← context.str) ++ Translations.contextMark ++ (← m.str))

/-- A function applied to its arguments. -/
def translate (t : Translations) (f : Lookup) (args : List Value)
    (keywords : List (String × Value)) : Except Fault Value := do
  let signature (name : String) (params : List String) : Signature :=
    ⟨chainName t ++ "." ++ name, 1, params.map (·, none)⟩
  match f with
  | .gettext =>
    match ← (signature "gettext" ["message"]).bind args keywords with
    | [m] => lookUp t m m
    | _ => return .null
  | .ngettext =>
    match ← (signature "ngettext" ["msgid1", "msgid2", "n"]).bind args keywords with
    | [one, many, n] => lookUpCounted t one one many n
    | _ => return .null
  | .pgettext =>
    match ← (signature "pgettext" ["context", "message"]).bind args keywords with
    | [c, m] => do lookUp t (← contextKey t c m) m
    | _ => return .null
  | .npgettext =>
    match ← (signature "npgettext" ["context", "msgid1", "msgid2", "n"]).bind args keywords with
    | [c, one, many, n] => do lookUpCounted t (← contextKey t c one) one many n
    | _ => return .null
  | .cycle index0 _ =>
    match keywords, args with
    | (name, _) :: _, _ =>
      Signature.argumentFault
        ("LoopContext.cycle() got an unexpected keyword argument " ++ Text.quoted name)
    | [], [] => Signature.argumentFault "no items for cycling given"
    | [], args => return args.getD (index0 % args.length) .null
  -- Looked up by name it would find itself.
  | .byName => .error .tooDeep

/-- A value called with arguments. -/
def applyCall (s : Scope) (f : Value) (args : List Value) (keywords : List (String × Value)) :
    Except Fault Value :=
  match f with
  | .function .byName =>
    -- The function goes by what the context says, not by what scopes say.
    match s.findOuter "gettext" with
    | some (.function g) => translate s.translations g args keywords
    | some (.undefined u) => Value.refuse u
    | some v => .error (.misuse (.notCallable v.kindName))
    | none => Value.refuse (.ofName s.strict "gettext")
  | .function g => translate s.translations g args keywords
  | .undefined u => Value.refuse u
  | v => .error (.misuse (.notCallable v.kindName))

/-- The filter that translates: the text of the value is the message, and names
    bound to other functions do not matter. -/
def transFilter (s : Scope) (args : List Value) (keywords : List (String × Value)) :
    Except Fault Value := do
  match ← Filter.transSignature.bind args keywords with
  | [v] => translate s.translations .gettext [.text (← v.str)] []
  | _ => return .null

/-- A filter applied to its value and arguments. One that was compiled without
    knowing that it needs the state of the rendering lacks an argument. -/
def applyFilter (s : Scope) (name : String) (contextual : Bool) (args : List Value)
    (keywords : List (String × Value)) : Except Fault Value :=
  if name = Filter.transName then
    -- An engine with the filter may meet a template compiled by one without.
    if s.transFilter then
      if contextual then transFilter s args keywords
      else
        Signature.argumentFault
          "trans_filter() missing 1 required positional argument: 'message'"
    else .error (.noFilter name)
  else (Filter.run? s.strict name args keywords).getD (.error (.noFilter name))

/-- A test asked of its value and arguments. -/
def applyTest (name : String) (args : List Value) (keywords : List (String × Value)) :
    Except Fault Value :=
  (Test.run? name args keywords).getD (.error (.noTest name))

mutual

/-- The value of an expression. -/
def evaluate (s : Scope) : Expr → Except Fault Value
  | .const v => .ok v
  | .name n => .ok (s.value n)
  | .list items => do return .list (← evaluateAll s items)
  | .tuple items => do return .tuple (← evaluateAll s items)
  | .dict keys values => do
    let entries ← entriesInOrder (fun _ => .ok ()) (evaluateEach s keys) (evaluateEach s values)
    makeDict entries.1 entries.2
  | .member e name => do Value.memberNamed s.strict (← evaluate s e) name
  | .item e index => do Value.item s.strict (← evaluate s e) (← evaluate s index)
  | .call f args keywords values => do
    let f ← evaluate s f
    let args ← evaluateAll s args
    applyCall s f args (keywords.zip (← evaluateAll s values))
  | .filter e name args keywords values _ contextual => do
    let v ← evaluate s e
    let args ← evaluateAll s args
    applyFilter s name contextual (v :: args) (keywords.zip (← evaluateAll s values))
  | .test e name args keywords values _ => do
    let v ← evaluate s e
    let args ← evaluateAll s args
    applyTest name (v :: args) (keywords.zip (← evaluateAll s values))
  | .sign minus e => do applySign minus (← evaluate s e)
  | .not e => do return .bool !(← (← evaluate s e).truth)
  | .binary op l r => do op.apply (← evaluate s l) (← evaluate s r)
  | .and l r => do
    let v ← evaluate s l
    if ← v.truth then evaluate s r else return v
  | .or l r => do
    let v ← evaluate s l
    if ← v.truth then return v else evaluate s r
  | .concat pieces => do joinMarkup (← evaluateAll s pieces)
  | .compare e ops operands => do
    return .bool (← evaluateChain s (← evaluate s e) ops operands)
  | .choose test yes no => do
    if ← (← evaluate s test).truth then evaluate s yes else evaluate s no
  | .chooseSome test yes line => do
    if ← (← evaluate s test).truth then evaluate s yes
    else return .undefined (noAlternative line s.template)

/-- A chain of comparisons, whose later operands are evaluated only while it
    holds. -/
def evaluateChain (s : Scope) (v : Value) (ops : List Comparison) :
    List Expr → Except Fault Bool
  | [] => .ok true
  | e :: es => do
    let w ← evaluate s e
    match ops with
    | [] => return true
    | op :: ops => if ← op.apply v w then evaluateChain s w ops es else return false

/-- The values of expressions, from left to right. -/
def evaluateAll (s : Scope) : List Expr → Except Fault (List Value)
  | [] => .ok []
  | e :: es => do return (← evaluate s e) :: (← evaluateAll s es)

/-- The value of each expression. -/
def evaluateEach (s : Scope) : List Expr → List (Except Fault Value)
  | [] => []
  | e :: es => evaluate s e :: evaluateEach s es

end

/-- The arguments that a translatable block calls its function with. -/
def blockArguments (s : Scope) (b : TransBlock) : Except Fault (List Value) := do
  let context := (b.context.map Value.text).toList
  let one := Value.text (b.message b.singular)
  match b.plural, b.count with
  | some many, some count => return context ++ [one, .text (b.message many), ← evaluate s count]
  | _, _ => return context ++ [one]

/-- The markup of a translatable block. -/
def evaluateBlock (s : Scope) (b : TransBlock) : Except Fault String := do
  let f := s.value b.functionName
  let text ← (← applyCall s f (← blockArguments s b) []).str
  if b.names.isEmpty then return text
  else
    let values ← evaluateAll s b.values
    let supplied ← makeDict (b.names.map Value.text) values
    (Format.fill text (Format.supplyOf true supplied))

end Template

end Stencil
