import Stencil.Text.Blank
import Stencil.Text.Digits
import Stencil.Text.Quoted
import Stencil.Text.Word
import Stencil.Decimal.Binary

/-!
# Tokens of a template

A template is text with tags in it: `{{ … }}` prints an expression, `{% … %}` is a
statement, `{# … #}` a comment, and what stands between `{% raw %}` and
`{% endraw %}` is text. A minus sign at the edge of a tag removes the blanks on
that side, a plus sign does nothing.

Inside a tag, brackets are counted: the end of the tag is looked for only when
all are closed, so that a mapping may end in two braces.

A string has escapes for characters by number. One for half a character, which no text
holds here, is refused like one that is not well formed, and so is a character by name.

Reading tokens goes on until something is no token. That is not a failure yet: the
token list then ends in a fault, and only who asks for that token fails. So a
template with two mistakes is refused for the one that reading meets first.

## Main definitions

* `Token`, `Lexeme`: Tokens, and tokens with their line.
* `Lexeme.ofText`: The tokens of a template.
-/

namespace Stencil

namespace Template

open Text (numberOf isBaseDigit takeDigits takeExponent? takeHex?)

/-- Tokens. A fault stands for text that is no token. -/
inductive Token where
  | data (s : String)
  | printBegin
  | printEnd
  | blockBegin
  | blockEnd
  | name (s : String)
  | string (s : String)
  | integer (n : Nat)
  | float (x : Float)
  | symbol (s : String)
  | fault
  | ending

/-- A token and the line that it starts on. -/
structure Lexeme where
  token : Token
  line : Nat

/-- The number of line ends in a text. -/
def lineEnds (s : List Char) : Nat := s.count '\n'

/-- The parts of a template in which different rules hold. -/
inductive Opening where
  | print
  | block
  | comment
  | raw
deriving DecidableEq

/-- The start of a tag: what it opens, whether the blanks before it go, the line
    ends inside it, and the text after it. -/
structure TagStart where
  opening : Opening
  strips : Bool
  lines : Nat
  rest : List Char

/-- The end of a tag: the line ends inside it and the text after it. -/
structure TagEnd where
  lines : Nat
  rest : List Char

/-- The text after its leading blanks, with the line ends among them. -/
def skipBlanks (s : List Char) : TagEnd :=
  ⟨lineEnds (s.takeWhile Text.isBlank), s.dropWhile Text.isBlank⟩

/-- The end of a tag that closes with the two characters `a` and `b`. -/
def tagEnd? (plusAllowed : Bool) (a b : Char) (s : List Char) : Option TagEnd :=
  match s with
  | c :: d :: s =>
    -- Without a sign the two characters come at once.
    if c = a && d = b then some ⟨0, s⟩
    else
      match s with
      | e :: s =>
        if d = a && e = b then
          if c = '-' then some (skipBlanks s)
          else if c = '+' && plusAllowed then some ⟨0, s⟩
          else none
        else none
      | [] => none
  | _ => none

/-- The text after a word at its start. -/
def afterWord? (w s : List Char) : Option (List Char) :=
  if w.isPrefixOf s then some (s.drop w.length) else none

/-- The rest of a tag that holds one word only, after its two opening characters
    and its sign. -/
def wordTag? (word : List Char) (plusAllowed : Bool) (s : List Char) : Option TagEnd := do
  let before := skipBlanks s
  let s ← afterWord? word before.rest
  let between := skipBlanks s
  let e ← tagEnd? plusAllowed '%' '}' between.rest
  return ⟨before.lines + between.lines + e.lines, e.rest⟩

/-- A sign at the edge of a tag, and the text after it. -/
def takeSign (s : List Char) : Bool × List Char :=
  match s with
  | '-' :: s => (true, s)
  | '+' :: s => (false, s)
  | s => (false, s)

/-- The tag that starts at the front of a text. -/
def tagStart? (s : List Char) : Option TagStart :=
  match s with
  | '{' :: '%' :: s =>
    let (strips, s) := takeSign s
    match wordTag? ['r', 'a', 'w'] false s with
    | some e => some ⟨.raw, strips, e.lines, e.rest⟩
    | none => some ⟨.block, strips, 0, s⟩
  | '{' :: '{' :: s =>
    let (strips, s) := takeSign s
    some ⟨.print, strips, 0, s⟩
  | '{' :: '#' :: s =>
    let (strips, s) := takeSign s
    some ⟨.comment, strips, 0, s⟩
  | _ => none

/-- The end of a raw text at the front of a text, and whether the blanks before it
    go. -/
def rawEnd? (s : List Char) : Option (Bool × TagEnd) :=
  match s with
  | '{' :: '%' :: s =>
    let (strips, s) := takeSign s
    (wordTag? ['e', 'n', 'd', 'r', 'a', 'w'] true s).map (strips, ·)
  | _ => none

/-- The text up to the first place where `p` finds something, and what it finds. -/
def splitAtFirst {α : Type} (p : List Char → Option α) : List Char → List Char × Option α
  | [] => ([], p [])
  | c :: s =>
    match p (c :: s) with
    | some a => ([], some a)
    | none =>
      let (t, a) := splitAtFirst p s
      (c :: t, a)

/-- The symbols, longer ones before their beginnings. -/
def symbols : List String :=
  ["//", "**", "==", "!=", ">=", "<=", "+", "-", "/", "*", "%", "~", "[", "]", "(", ")", "\x7b",
    "\x7d", ">", "<", "=", ".", ":", "|", ",", ";"]

/-- The symbol at the front of a text. -/
def symbol? (s : List Char) : Option String := symbols.find? fun w => w.toList.isPrefixOf s

/-- Digits of a base after its mark; an underscore may stand right after the mark. -/
def takeBased? (base : Nat) (s : List Char) : Option (Nat × List Char) :=
  let s :=
    match s with
    | '_' :: d :: r => if isBaseDigit base d then d :: r else s
    | s => s
  let (ds, rest) := takeDigits (isBaseDigit base) s
  if ds.isEmpty then none else some (numberOf base ds, rest)

/-- The fraction at the front of a text: a point and digits. -/
def takeFraction? (s : List Char) : Option (List Char × List Char) :=
  match s with
  | '.' :: s =>
    let (ds, rest) := takeDigits Char.isDigit s
    if ds.isEmpty then none else some (ds, rest)
  | _ => none

/-- The number with a fraction or an exponent at the front of a text. -/
def float? (s : List Char) : Option (Float × List Char) :=
  let (whole, rest) := takeDigits Char.isDigit s
  if whole.isEmpty then none
  else
    match takeFraction? rest with
    | some (fraction, rest) =>
      let digits := numberOf 10 (whole ++ fraction)
      match takeExponent? rest with
      | some (e, rest) => some (Decimal.ofScientific false digits (e - fraction.length), rest)
      | none => some (Decimal.ofScientific false digits (-fraction.length), rest)
    | none =>
      match takeExponent? rest with
      | some (e, rest) => some (Decimal.ofScientific false (numberOf 10 whole) e, rest)
      | none => none

/-- The whole number at the front of a text. A leading zero stands alone or before
    more zeros, or starts the mark of a base. -/
def integer? (s : List Char) : Option (Nat × List Char) :=
  match s with
  | '0' :: r =>
    let based :=
      match r with
      | c :: r =>
        if c = 'b' || c = 'B' then takeBased? 2 r
        else if c = 'o' || c = 'O' then takeBased? 8 r
        else if c = 'x' || c = 'X' then takeBased? 16 r
        else none
      | [] => none
    -- A zero without a mark is a number of its own, and digits behind it start the next.
    match based with
    | some x => some x
    | none => some (0, (takeDigits (· == '0') s).2)
  | c :: _ =>
    if c.isDigit then
      let (ds, rest) := takeDigits Char.isDigit s
      some (numberOf 10 ds, rest)
    else none
  | [] => none

/-- The text between quotes, escapes unread, and the text after it. -/
def quotedText? (q : Char) : List Char → Option (List Char × List Char)
  | [] => none
  | '\\' :: c :: s => (quotedText? q s).map fun (t, rest) => ('\\' :: c :: t, rest)
  | c :: s =>
    if c = q then some ([], s)
    -- A backslash at the very end escapes nothing.
    else if c = '\\' then none
    else (quotedText? q s).map fun (t, rest) => (c :: t, rest)

/-- A character beyond ASCII after a backslash: the backslash and the number of the
    character. -/
def spelledNumber (n : Nat) : List Char :=
  if n < 0x100 then 'x' :: Text.hexDigits 2 n
  else if n < 0x10000 then 'u' :: Text.hexDigits 4 n
  else 'U' :: Text.hexDigits 8 n

/-- Reads the escapes of a text. The first argument bounds the steps. -/
def unescape : Nat → List Char → Option (List Char)
  | 0, _ => some []
  | _, [] => some []
  | fuel + 1, '\\' :: c :: s =>
    let numbered (n : Nat) : Option (List Char) := do
      let (v, rest) ← takeHex? n s
      if v.isValidChar then return Char.ofNat v :: (← unescape fuel rest) else none
    let one (d : Char) : Option (List Char) := do return d :: (← unescape fuel s)
    match c with
    | '\n' => unescape fuel s
    | '\\' => one '\\'
    | '\'' => one '\''
    | '"' => one '"'
    | 'a' => one '\x07'
    | 'b' => one '\x08'
    | 'f' => one '\x0c'
    | 'n' => one '\n'
    | 'r' => one '\r'
    | 't' => one '\t'
    | 'v' => one '\x0b'
    | 'x' => numbered 2
    | 'u' => numbered 4
    | 'U' => numbered 8
    -- Characters by name are not known.
    | 'N' => none
    | c =>
      if isBaseDigit 8 c then
        let ds := (c :: s.take 2).takeWhile (isBaseDigit 8)
        do return Char.ofNat (numberOf 8 ds) :: (← unescape fuel (s.drop (ds.length - 1)))
      else if c.toNat < 128 then do return '\\' :: c :: (← unescape fuel s)
      else do return '\\' :: spelledNumber c.toNat ++ (← unescape fuel s)
  | fuel + 1, c :: s => do return c :: (← unescape fuel s)

/-- The string at the front of a text: its value, if its escapes are well formed,
    the line ends inside it, and the text after it. -/
def string? (s : List Char) : Option (Option String × Nat × List Char) :=
  match s with
  | q :: r =>
    if q = '\'' || q = '"' then
      (quotedText? q r).map fun (raw, rest) =>
        ((unescape (raw.length + 1) raw).map String.ofList, lineEnds raw, rest)
    else none
  | [] => none

/-- The bracket that closes an opening one. -/
def closing? : String → Option String
  | "(" => some ")"
  | "[" => some "]"
  | "\x7b" => some "\x7d"
  | _ => none

def isClosing (s : String) : Bool := s == ")" || s == "]" || s == "\x7d"

/-- A step inside a tag: blanks, a token with the line ends inside it, or text that
    is no token. -/
inductive TagStep where
  | blanks (e : TagEnd)
  | token (t : Token) (lines : Nat) (rest : List Char)
  | fault

/-- The token at the front of the text inside a tag. `previous` is the character
    before it: no number with a fraction follows a point. -/
def tagStep (previous : Char) (s : List Char) : TagStep :=
  match s with
  | [] => .fault
  | c :: r =>
    if Text.isBlank c then .blanks (skipBlanks s)
    else
      match if previous = '.' then none else float? s with
      | some (x, rest) => .token (.float x) 0 rest
      | none =>
        match integer? s with
        | some (n, rest) => .token (.integer n) 0 rest
        | none =>
          if Text.isWordPart c then
            let word := c :: r.takeWhile Text.isWordPart
            -- A word may start with a character that no name starts with.
            if Text.isName word then
              .token (.name (String.ofList word)) 0 (r.dropWhile Text.isWordPart)
            else .fault
          else
            match string? s with
            | some (some v, lines, rest) => .token (.string v) lines rest
            | some (none, _, _) => .fault
            | none =>
              match symbol? s with
              | some w => .token (.symbol w) 0 (s.drop w.length)
              | none => .fault

/-- Where reading stands: in text, or in a tag with the brackets still open. -/
inductive Mode where
  | text
  | tag (print : Bool) (stack : List String)

/-- The end of the tag that reading stands in, if all brackets are closed. -/
def modeEnd? (print : Bool) (stack : List String) (s : List Char) : Option TagEnd :=
  if !stack.isEmpty then none
  else if print then tagEnd? false '}' '}' s
  else tagEnd? true '%' '}' s

/-- A piece of text as a token; none if it is empty. -/
def dataLexemes (text : List Char) (line : Nat) : List Lexeme :=
  if text.isEmpty then [] else [⟨.data (String.ofList text), line⟩]

/-- The text without its trailing blanks if a tag after it says so. -/
def stripped (strips : Bool) (text : List Char) : List Char :=
  if strips then Text.trimRight text else text

/-- The tokens of a text. `line` is the line at the front, `previous` the character
    before it. The first argument bounds the steps. -/
def scan : Nat → Mode → Nat → Char → List Char → List Lexeme
  | 0, _, _, _, _ => []
  | _, _, line, _, [] => let _ := line; []
  | fuel + 1, .text, line, _, s =>
    let (text, start) := splitAtFirst tagStart? s
    let after := line + lineEnds text
    match start with
    | none => dataLexemes text line
    | some start =>
      let inside := after + start.lines
      dataLexemes (stripped start.strips text) line ++
        match start.opening with
        | .print => ⟨.printBegin, after⟩ :: scan fuel (.tag true []) inside ' ' start.rest
        | .block => ⟨.blockBegin, after⟩ :: scan fuel (.tag false []) inside ' ' start.rest
        | .comment =>
          -- A comment that does not end is a fault, unless nothing follows.
          match splitAtFirst (tagEnd? true '#' '}') start.rest with
          | (body, some e) => scan fuel .text (inside + lineEnds body + e.lines) ' ' e.rest
          | (_, none) => if start.rest.isEmpty then [] else [⟨.fault, inside⟩]
        | .raw =>
          match splitAtFirst rawEnd? start.rest with
          | (body, some (strips, e)) =>
            dataLexemes (stripped strips body) inside ++
              scan fuel .text (inside + lineEnds body + e.lines) ' ' e.rest
          | (_, none) => if start.rest.isEmpty then [] else [⟨.fault, inside⟩]
  | fuel + 1, .tag print stack, line, previous, s =>
    match modeEnd? print stack s with
    | some e =>
      ⟨if print then .printEnd else .blockEnd, line⟩ :: scan fuel .text (line + e.lines) ' ' e.rest
    | none =>
      match tagStep previous s with
      | .blanks e => scan fuel (.tag print stack) (line + e.lines) ' ' e.rest
      | .fault => [⟨.fault, line⟩]
      | .token t lines rest =>
        -- The character before the next token decides whether a number may have a fraction.
        let last := (s.take (s.length - rest.length)).getLastD ' '
        let go (stack : List String) : List Lexeme :=
          ⟨t, line⟩ :: scan fuel (.tag print stack) (line + lines) last rest
        match t with
        | .symbol w =>
          if isClosing w then
            match stack with
            | c :: stack => if c = w then go stack else [⟨.fault, line⟩]
            | [] => [⟨.fault, line⟩]
          else
            match closing? w with
            | some c => go (c :: stack)
            | none => go stack
        | _ => go stack

/-- The text of a template as it is read: one line end at its end is dropped. -/
def dropLastNewline (s : List Char) : List Char :=
  if s.getLast? = some '\n' then s.dropLast else s

/-- The tokens of a template. -/
def Lexeme.ofText (s : List Char) : List Lexeme :=
  let s := dropLastNewline s
  scan (2 * s.length + 2) .text 1 ' ' s

end Template

end Stencil
