import Stencil.Template.Syntax
import Stencil.Template.Token

/-!
# Reading templates

From tokens to statements. Expressions are read by levels of binding: choices,
`or`, `and`, `not`, comparisons, sums, joining, products, signs, and last what
stands by itself, followed by members, calls, filters and tests.

Reading fails at the line of the first token that does not fit, or at the line of
the first text that is no token if that is met first. Every loop consumes tokens,
so the number of tokens bounds every loop and every nesting; the bound is passed
along as the first argument of the recursive functions and starts beyond what any
template can use up.

## Main definitions

* `Cursor`, `Parser`: What is left to read, and a step of reading.
* `expression`: Reading an expression.
* `Tags`: Which tags beyond the common ones are known.
* `statements`: Reading statements up to an end tag.
* `parse`: Reading a template.
-/

namespace Stencil

namespace Template

/-- What is left to read. The line is that of the last token passed, where the end
    of the template is said to be. -/
structure Cursor where
  rest : List Lexeme
  line : Nat

/-- A step of reading, which may fail at a line. -/
abbrev Parser (α : Type) := StateT Cursor (Except Nat) α

namespace Parser

/-- Fails at a line. -/
def failAt {α : Type} (line : Nat) : Parser α := throw line

/-- Refuses to stand at text that is no token. -/
def checkFront (c : Cursor) : Except Nat Cursor :=
  match c.rest with
  | ⟨.fault, line⟩ :: _ => .error line
  | _ => .ok c

/-- The token to be read next. -/
def current : Parser Lexeme := do
  let c ← get
  match c.rest with
  | l :: _ => return l
  | [] => return ⟨.ending, c.line⟩

/-- The line of the token to be read next. -/
def currentLine : Parser Nat := do return (← current).line

/-- Fails at the token to be read next. -/
def fail {α : Type} : Parser α := do failAt (← currentLine)

/-- Passes a token. -/
def advance : Parser Unit := do
  let c ← get
  match c.rest with
  | l :: rest => set (← (checkFront ⟨rest, l.line⟩ : Except Nat Cursor))
  | [] => pure ()

/-- Takes a token. -/
def take : Parser Lexeme := do
  let l ← current
  advance
  return l

/-- The token after the next one. -/
def look : Parser Token := do
  let c ← get
  match c.rest with
  | l :: rest => do
    let c ← (checkFront ⟨rest, l.line⟩ : Except Nat Cursor)
    match c.rest with
    | l :: _ => return l.token
    | [] => return .ending
  | [] => return .ending

end Parser

namespace Token

def isName (w : String) : Token → Bool
  | .name s => s == w
  | _ => false

def isSymbol (w : String) : Token → Bool
  | .symbol s => s == w
  | _ => false

def isBlockEnd : Token → Bool
  | .blockEnd => true
  | _ => false

def isPrintEnd : Token → Bool
  | .printEnd => true
  | _ => false

def isEnding : Token → Bool
  | .ending => true
  | _ => false

end Token

namespace Parser

/-- Passes a token if it is the wanted one, and says whether it was. -/
def skipIf (p : Token → Bool) : Parser Bool := do
  if p (← current).token then
    advance
    return true
  else return false

/-- Passes the wanted token, or fails at the one that is there. -/
def expect (p : Token → Bool) : Parser Unit := do
  let l ← current
  if p l.token then advance else failAt l.line

/-- Takes a name, or fails at what is there. -/
def expectName : Parser String := do
  let l ← current
  match l.token with
  | .name s => do
    advance
    return s
  | _ => failAt l.line

/-- A number no loop over the tokens that are left can exceed. -/
def bound : Parser Nat := do return (← get).rest.length + 1

/-- Operands joined by operators of one level, from the left. -/
def joined (operator? : Token → Option (Expr → Expr → Expr)) (operand : Parser Expr) :
    Nat → Expr → Parser Expr
  | 0, left => return left
  | fuel + 1, left => do
    match operator? (← current).token with
    | some f =>
      advance
      let right ← operand
      joined operator? operand fuel (f left right)
    | none => return left

/-- A level of operators that bind from the left. -/
def leftLevel (operator? : Token → Option (Expr → Expr → Expr)) (operand : Parser Expr) :
    Parser Expr := do
  let left ← operand
  joined operator? operand (← bound) left

/-- Items up to a closing symbol, which is passed, with commas between them and
    possibly after them. -/
def itemsUntil {α : Type} (close : String) (item : Parser α) : Nat → Bool → Parser (List α)
  | 0, _ => fail
  | fuel + 1, first => do
    if ← skipIf (Token.isSymbol close) then return []
    if !first then
      expect (Token.isSymbol ",")
    if ← skipIf (Token.isSymbol close) then return []
    let x ← item
    return x :: (← itemsUntil close item fuel false)

/-- Whether a list of expressions without brackets is over. -/
def isTupleEnd (endWords : List String) (t : Token) : Bool :=
  match t with
  | .printEnd => true
  | .blockEnd => true
  | .symbol s => s == ")"
  | .name s => endWords.contains s
  | _ => false

/-- The items of a list of expressions without brackets, and whether a comma makes
    it one. -/
def tupleItems (endWords : List String) (item : Parser Expr) :
    Nat → Bool → Parser (List Expr × Bool)
  | 0, _ => fail
  | fuel + 1, first => do
    if !first then
      expect (Token.isSymbol ",")
    if isTupleEnd endWords (← current).token then return ([], !first)
    let x ← item
    if Token.isSymbol "," (← current).token then
      let (xs, _) ← tupleItems endWords item fuel false
      return (x :: xs, true)
    else return ([x], !first)

/-- One expression, or several with commas, which make a tuple. An empty one needs
    brackets around it. -/
def tupleOf (endWords : List String) (bracketed : Bool) (item : Parser Expr) : Parser Expr := do
  let (xs, isTuple) ← tupleItems endWords item (← bound) true
  if isTuple then return .tuple xs
  else
    match xs with
    | [x] => return x
    | _ => if bracketed then return .tuple [] else fail

/-- Strings that follow one another are one string. -/
def moreStrings : Nat → Parser String
  | 0 => return ""
  | fuel + 1 => do
    match (← current).token with
    | .string s =>
      advance
      return s ++ (← moreStrings fuel)
    | _ => return ""

/-- An entry of a mapping. -/
def dictEntry (self : Parser Expr) : Parser (Expr × Expr) := do
  let k ← self
  expect (Token.isSymbol ":")
  let v ← self
  return (k, v)

/-- What stands by itself: names, constants, and what is in brackets. -/
def primary (self : Parser Expr) : Parser Expr := do
  let l ← current
  match l.token with
  | .name s => do
    advance
    if s = "true" || s = "True" then return .const (.bool true)
    else if s = "false" || s = "False" then return .const (.bool false)
    else if s = "none" || s = "None" then return .const .null
    else return .name s
  | .string _ => do
    let s ← moreStrings (← bound)
    return .const (.text s)
  | .integer n => do
    advance
    return .const (.int n)
  | .float x => do
    advance
    return .const (.float x)
  | .symbol s =>
    if s = "(" then do
      advance
      let e ← tupleOf [] true self
      expect (Token.isSymbol ")")
      return e
    else if s = "[" then do
      advance
      return .list (← itemsUntil "]" self (← bound) true)
    else if s = "\x7b" then do
      advance
      let es ← itemsUntil "\x7d" (dictEntry self) (← bound) true
      return .dict (es.map (·.1)) (es.map (·.2))
    else failAt l.line
  | _ => failAt l.line

/-- The arguments of a call. -/
structure Arguments where
  positional : List Expr
  keywords : List String
  values : List Expr

/-- The arguments up to the closing bracket. No positional one follows a named
    one; `start` is the line of the call. -/
def argumentItems (self : Parser Expr) (start : Nat) : Nat → Bool → Bool → Parser Arguments
  | 0, _, _ => fail
  | fuel + 1, first, named => do
    if ← skipIf (Token.isSymbol ")") then return ⟨[], [], []⟩
    if !first then
      expect (Token.isSymbol ",")
    if ← skipIf (Token.isSymbol ")") then return ⟨[], [], []⟩
    let keyword? ←
      match (← current).token with
      | .name k => do
        if Token.isSymbol "=" (← look) then pure (some k) else pure none
      | _ => pure none
    match keyword? with
    | some k =>
      advance
      advance
      let v ← self
      let more ← argumentItems self start fuel false true
      return { more with keywords := k :: more.keywords, values := v :: more.values }
    | none =>
      if named then failAt start
      let v ← self
      let more ← argumentItems self start fuel false named
      return { more with positional := v :: more.positional }

/-- The arguments of a call, brackets included. -/
def arguments (self : Parser Expr) : Parser Arguments := do
  let start ← currentLine
  expect (Token.isSymbol "(")
  argumentItems self start (← bound) true false

/-- A call of what stands before the bracket. -/
def callOf (self : Parser Expr) (f : Expr) : Parser Expr := do
  let a ← arguments self
  return .call f a.positional a.keywords a.values

/-- Members and calls that follow an expression. -/
def postfixes (self : Parser Expr) : Nat → Expr → Parser Expr
  | 0, e => return e
  | fuel + 1, e => do
    match (← current).token with
    | .symbol s =>
      if s = "." then
        advance
        let l ← current
        advance
        match l.token with
        | .name k => postfixes self fuel (.member e k)
        | .integer n => postfixes self fuel (.item e (.const (.int n)))
        | _ => failAt l.line
      else if s = "[" then
        advance
        let keys ← itemsUntil "]" self (← bound) true
        match keys with
        | [k] => postfixes self fuel (.item e k)
        | ks => postfixes self fuel (.item e (.tuple ks))
      else if s = "(" then do
        let e ← callOf self e
        postfixes self fuel e
      else return e
    | _ => return e

/-- The further parts of a dotted name. -/
def dottedParts : Nat → Parser String
  | 0 => return ""
  | fuel + 1 => do
    if ← skipIf (Token.isSymbol ".") then
      let s ← expectName
      return "." ++ s ++ (← dottedParts fuel)
    else return ""

/-- A dotted name. -/
def dottedName : Parser String := do
  let s ← expectName
  return s ++ (← dottedParts (← bound))

/-- A filter after its bar. -/
def filterOf (self : Parser Expr) (e : Expr) : Parser Expr := do
  let line ← currentLine
  let name ← dottedName
  if Token.isSymbol "(" (← current).token then
    let a ← arguments self
    return .filter e name a.positional a.keywords a.values line false
  else return .filter e name [] [] [] line false

/-- Whether a test takes what comes next as its argument. -/
def startsTestArgument (t : Token) : Bool :=
  match t with
  | .name s => s != "else" && s != "or" && s != "and"
  | .string _ | .integer _ | .float _ => true
  | .symbol s => s == "(" || s == "[" || s == "\x7b"
  | _ => false

/-- A test, after the word that starts it. -/
def testOf (self : Parser Expr) (line : Nat) (e : Expr) : Parser Expr := do
  let negated ← skipIf (Token.isName "not")
  let name ← dottedName
  let t := (← current).token
  let test ←
    if Token.isSymbol "(" t then do
      let a ← arguments self
      pure (Expr.test e name a.positional a.keywords a.values line)
    else if startsTestArgument t then do
      if Token.isName "is" t then fail
      let a ← primary self
      let a ← postfixes self (← bound) a
      pure (Expr.test e name [a] [] [] line)
    else pure (Expr.test e name [] [] [] line)
  return if negated then .not test else test

/-- Filters, tests and calls that follow an expression. -/
def filters (self : Parser Expr) : Nat → Expr → Parser Expr
  | 0, e => return e
  | fuel + 1, e => do
    let l ← current
    match l.token with
    | .symbol s =>
      if s = "|" then do
        advance
        let e ← filterOf self e
        filters self fuel e
      else if s = "(" then do
        let e ← callOf self e
        filters self fuel e
      else return e
    | .name s =>
      if s = "is" then do
        advance
        let e ← testOf self l.line e
        filters self fuel e
      else return e
    | _ => return e

/-- Signs, what stands by itself, and its members and calls. -/
def signed (self : Parser Expr) : Nat → Parser Expr
  | 0 => fail
  | fuel + 1 => do
    match (← current).token with
    | .symbol s =>
      if s = "-" || s = "+" then
        advance
        return .sign (s == "-") (← signed self fuel)
      else
        let e ← primary self
        postfixes self (← bound) e
    | _ => do
      let e ← primary self
      postfixes self (← bound) e

/-- A signed expression with its filters and tests. -/
def unary (self : Parser Expr) : Parser Expr := do
  let e ← signed self (← bound)
  filters self (← bound) e

def productOperator? : Token → Option (Expr → Expr → Expr)
  | .symbol s =>
    if s = "*" then some (.binary .mul)
    else if s = "/" then some (.binary .div)
    else if s = "//" then some (.binary .floorDiv)
    else if s = "%" then some (.binary .mod)
    else none
  | _ => none

def product (self : Parser Expr) : Parser Expr := leftLevel productOperator? (unary self)

/-- The further operands of a joining. -/
def joinedOperands (operand : Parser Expr) : Nat → Parser (List Expr)
  | 0 => return []
  | fuel + 1 => do
    if ← skipIf (Token.isSymbol "~") then
      let e ← operand
      return e :: (← joinedOperands operand fuel)
    else return []

/-- Joining: all operands of one level together. -/
def joining (self : Parser Expr) : Parser Expr := do
  let e ← product self
  let es ← joinedOperands (product self) (← bound)
  return if es.isEmpty then e else .concat (e :: es)

def sumOperator? : Token → Option (Expr → Expr → Expr)
  | .symbol s =>
    if s = "+" then some (.binary .add) else if s = "-" then some (.binary .sub) else none
  | _ => none

def sum (self : Parser Expr) : Parser Expr := leftLevel sumOperator? (joining self)

def comparison? : Token → Option Comparison
  | .symbol s =>
    if s = "==" then some .eq
    else if s = "!=" then some .ne
    else if s = "<" then some (.order .lt)
    else if s = "<=" then some (.order .le)
    else if s = ">" then some (.order .gt)
    else if s = ">=" then some (.order .ge)
    else none
  | .name s => if s = "in" then some .mem else none
  | _ => none

/-- The further operands of a chain of comparisons. -/
def comparisons (operand : Parser Expr) : Nat → Parser (List (Comparison × Expr))
  | 0 => return []
  | fuel + 1 => do
    let t := (← current).token
    let op? ←
      match comparison? t with
      | some op => do
        advance
        pure (some op)
      | none =>
        if Token.isName "not" t then do
          if Token.isName "in" (← look) then
            advance
            advance
            pure (some Comparison.notMem)
          else pure none
        else pure none
    match op? with
    | some op =>
      let e ← operand
      return (op, e) :: (← comparisons operand fuel)
    | none => return []

def comparing (self : Parser Expr) : Parser Expr := do
  let e ← sum self
  let cs ← comparisons (sum self) (← bound)
  return if cs.isEmpty then e else .compare e (cs.map (·.1)) (cs.map (·.2))

def negating (self : Parser Expr) : Nat → Parser Expr
  | 0 => fail
  | fuel + 1 => do
    if ← skipIf (Token.isName "not") then return .not (← negating self fuel)
    else comparing self

def conjunction (self : Parser Expr) : Parser Expr := do
  leftLevel (fun t => if Token.isName "and" t then some .and else none)
    (do negating self (← bound))

def disjunction (self : Parser Expr) : Parser Expr :=
  leftLevel (fun t => if Token.isName "or" t then some .or else none) (conjunction self)

/-- The conditions that follow an expression; `self` reads the last alternative. -/
def choices (self : Parser Expr) : Nat → Nat → Expr → Parser Expr
  | 0, _, e => return e
  | fuel + 1, line, e => do
    if ← skipIf (Token.isName "if") then
      let test ← disjunction self
      if ← skipIf (Token.isName "else") then
        let other ← self
        choices self fuel (← currentLine) (.choose test e other)
      else choices self fuel (← currentLine) (.chooseSome test e line)
    else return e

/-- An expression, given how the expressions inside it are read. -/
def choosing (self : Parser Expr) : Parser Expr := do
  let line ← currentLine
  let e ← disjunction self
  choices self (← bound) line e

/-- An expression nested at most so deep. -/
def expressionAt : Nat → Parser Expr
  | 0 => fail
  | depth + 1 => choosing (expressionAt depth)

/-- An expression. -/
def expression : Parser Expr := do expressionAt (← bound)

/-- An expression without conditions at its outermost level. -/
def unconditional : Parser Expr := do disjunction (expressionAt (← bound))

end Parser

/-- Which tags and filters a template may use beyond the common ones. -/
structure Tags where
  transBlock : Bool
  transFilter : Bool
deriving DecidableEq

namespace Parser

mutual

/-- What an expression binds when it stands as a target. -/
def targetOf? : Expr → Option Target
  | .name n => some (.name n)
  | .tuple items => (targetsOf? items).map .tuple
  | _ => none

def targetsOf? : List Expr → Option (List Target)
  | [] => some []
  | e :: es => do return (← targetOf? e) :: (← targetsOf? es)

end

/-- A target: names, with commas or in brackets. -/
def target (endWords : List String) : Parser (Target × Nat) := do
  let line ← currentLine
  let e ← tupleOf endWords false (primary expression)
  match targetOf? e with
  | some t => return (t, line)
  | none => failAt line

/-- Passes the end of a tag, after a colon that may stand before it. -/
def tagClose : Parser Unit := do
  let _ ← skipIf (Token.isSymbol ":")
  expect Token.isBlockEnd

/-- The pieces of translatable text up to the tag that ends them, whose name is
    the next token then. -/
def pieces (pluralAllowed : Bool) : Nat → Parser (List Piece)
  | 0 => fail
  | fuel + 1 => do
    match (← current).token with
    | .data s =>
      advance
      return .text s :: (← pieces pluralAllowed fuel)
    | .printBegin =>
      advance
      let n ← expectName
      expect Token.isPrintEnd
      return .mention n :: (← pieces pluralAllowed fuel)
    | .blockBegin =>
      advance
      let t := (← current).token
      if Token.isName "endtrans" t then return []
      else if Token.isName "pluralize" t && pluralAllowed then return []
      else fail
    | _ => fail

/-- What the tag of a translatable block declares so far. `first` is what the
    block counts by, unless told otherwise; `call` is a call that has to be made
    before it. -/
structure Declared where
  names : List String := []
  values : List Expr := []
  trimmed : Option Bool := none
  first : Option Expr := none
  call : Option Expr := none

/-- The variable that holds the value of a call by which a block counts. -/
def countName : String := "_trans"

/-- Adds a variable. A call that the block counts by is made once, beforehand. -/
def Declared.add (d : Declared) (name : String) (e : Expr) : Declared :=
  match d.first with
  | some _ => { d with names := d.names ++ [name], values := d.values ++ [e] }
  | none =>
    match e with
    | .call .. =>
      { d with
        names := d.names ++ [name], values := d.values ++ [.name countName]
        first := some (.name countName), call := some e }
    | e => { d with names := d.names ++ [name], values := d.values ++ [e], first := some e }

/-- The declarations in the tag of a translatable block. -/
def declarations : Nat → Declared → Parser Declared
  | 0, _ => fail
  | fuel + 1, d => do
    if Token.isBlockEnd (← current).token then return d
    if !d.names.isEmpty then
      expect (Token.isSymbol ",")
    if ← skipIf (Token.isSymbol ":") then return d
    let line ← currentLine
    let name ← expectName
    if d.names.contains name then failAt line
    if ← skipIf (Token.isSymbol "=") then
      let e ← expression
      declarations fuel (d.add name e)
    else if d.trimmed.isNone && (name == "trimmed" || name == "notrimmed") then
      declarations fuel { d with trimmed := some (name == "trimmed") }
    else declarations fuel (d.add name (.name name))

/-- The context that a translatable block may name first. -/
def context? : Parser (Option String) := do
  match (← current).token with
  | .string s =>
    advance
    return some s
  | _ => return none

/-- A list with each name once, at its first place. -/
def distinct (names : List String) : List String :=
  names.foldl (fun seen n => if seen.contains n then seen else seen ++ [n]) []

/-- The part for several things: the expression it counts by, if the tag names one,
    and its pieces. -/
def pluralPart (d : Declared) : Parser (Option Expr × List Piece) := do
  advance
  let count ←
    if Token.isBlockEnd (← current).token then pure none
    else do
      let line ← currentLine
      let name ← expectName
      match (d.names.zip d.values).lookup name with
      | some e => pure (some e)
      | none => failAt line
  expect Token.isBlockEnd
  let ps ← pieces false (← bound)
  return (count, ps)

/-- A translatable block, after the word that starts it. -/
def transBlock (line : Nat) : Parser (List Stmt) := do
  let context ← context?
  let d ← declarations (← bound) {}
  expect Token.isBlockEnd
  let singular ← pieces true (← bound)
  let first := d.first.or ((singular.findSome? Piece.mention?).map .name)
  let (plural, count) ←
    if Token.isName "pluralize" (← current).token then do
      let (named, ps) ← pluralPart d
      match named.or first with
      | some e => do
        advance
        pure (some ps, some e)
      | none => do
        advance
        failAt line
    else do
      advance
      pure (none, none)
  let mentioned := distinct
    (singular.filterMap Piece.mention? ++ (plural.getD []).filterMap Piece.mention?)
  let free := mentioned.filter fun n => !d.names.contains n
  let block : TransBlock :=
    { context, singular, plural, count
      names := d.names ++ free
      values := d.values ++ free.map .name
      trimmed := d.trimmed.getD false }
  return (d.call.map fun e => Stmt.set (.name countName) line e).toList ++ [.trans block]

/-- Words for a pair that may follow: both must be there. -/
def skipPair (p q : Token → Bool) : Parser Bool := do
  if p (← current).token then
    if q (← look) then
      advance
      advance
      return true
    else return false
  else return false

/-- An inclusion, after the word that starts it. -/
def inclusion : Parser (List Stmt) := do
  let e ← expression
  let ignoreMissing ← skipPair (Token.isName "ignore") (Token.isName "missing")
  if ← skipPair (Token.isName "without") (Token.isName "context") then
    return [.include e ignoreMissing false]
  else
    let _ ← skipPair (Token.isName "with") (Token.isName "context")
    return [.include e ignoreMissing true]

/-- An assignment, after the word that starts it. -/
def assignment : Parser (List Stmt) := do
  let (t, line) ← target []
  expect (Token.isSymbol "=")
  let e ← tupleOf [] false expression
  return [.set t line e]

/-- The statements inside a tag: the end of the tag, what follows up to one of the
    end words, and not the end of the template before it. -/
def inner (body : List String → Parser (List Stmt)) (ends : List String) :
    Parser (List Stmt) := do
  tagClose
  let ss ← body ends
  if Token.isEnding (← current).token then fail
  return ss

/-- A conditional, after the word that starts it. `body` reads statements up to
    one of some end words. -/
def conditional (body : List String → Parser (List Stmt)) : Nat → Parser (List Stmt)
  | 0 => fail
  | fuel + 1 => do
    let test ← tupleOf [] false unconditional
    let yes ← inner body ["elif", "else", "endif"]
    let l ← take
    if Token.isName "elif" l.token then
      let no ← conditional body fuel
      return [.branch test yes no true]
    else if Token.isName "else" l.token then
      let no ← inner body ["endif"]
      advance
      return [.branch test yes no false]
    else return [.branch test yes [] false]

/-- A loop, after the word that starts it. -/
def looping (body : List String → Parser (List Stmt)) : Parser (List Stmt) := do
  let (t, line) ← target ["in"]
  expect (Token.isName "in")
  let iter ← tupleOf ["recursive"] false unconditional
  let test ←
    if ← skipIf (Token.isName "if") then do
      let e ← expression
      pure (some e)
    else pure none
  let _ ← skipIf (Token.isName "recursive")
  let yes ← inner body ["endfor", "else"]
  let l ← take
  if Token.isName "else" l.token then
    let no ← inner body ["endfor"]
    advance
    return [.loop t line iter test yes no]
  else return [.loop t line iter test yes []]

/-- One statement, its tag still open at the end. -/
def statement (tags : Tags) (body : List String → Parser (List Stmt)) : Parser (List Stmt) := do
  let l ← current
  match l.token with
  | .name s =>
    if s = "if" then do
      advance
      conditional body (← bound)
    else if s = "for" then do
      advance
      looping body
    else if s = "set" then do
      advance
      assignment
    else if s = "include" then do
      advance
      inclusion
    else if s = "trans" && tags.transBlock then do
      advance
      transBlock l.line
    else failAt l.line
  | _ => failAt l.line

/-- Statements up to a tag that starts with one of the end words, which are the
    next token then, or up to the end of the template. -/
def statements (tags : Tags) : Nat → List String → Parser (List Stmt)
  | 0, _ => fail
  | fuel + 1, ends => do
    match (← current).token with
    | .ending => return []
    | .data s =>
      advance
      return .text s :: (← statements tags fuel ends)
    | .printBegin =>
      advance
      let e ← tupleOf [] false expression
      expect Token.isPrintEnd
      return .print e :: (← statements tags fuel ends)
    | .blockBegin =>
      advance
      let isEnd :=
        match (← current).token with
        | .name s => ends.contains s
        | _ => false
      if isEnd then return []
      let ss ← statement tags (statements tags fuel)
      expect Token.isBlockEnd
      return ss ++ (← statements tags fuel ends)
    | _ => fail

end Parser

/-- The statements of a template, or the line where reading fails. -/
def parse (tags : Tags) (text : List Char) : Except Nat (List Stmt) := do
  let tokens := Lexeme.ofText text
  let start ← Parser.checkFront ⟨tokens, 1⟩
  let (ss, _) ← (Parser.statements tags (tokens.length + 1) []).run start
  return ss

end Template

end Stencil
