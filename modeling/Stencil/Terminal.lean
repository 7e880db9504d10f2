/-!
# Markup of the terminal

What is printed for the eye may have tags in square brackets, which style what stands
between them and are not shown. A tag starts with a small letter or one of three signs. A
backslash in front of a tag makes it plain text, and two stand for one. A closing tag closes
the last tag of its name that is open, or the last one of all if it has no name, and it is an
error if there is none.

The names of styles are compared as they are written, but for case and blanks around them.

## Main definitions

* `Terminal.tag?`: A tag at the front of a text.
* `Terminal.shown`: What is shown of a text.
-/

namespace Stencil

namespace Terminal

/-- Whether a tag can start so. -/
def startsTag (c : Char) : Bool := c.isLower || c == '#' || c == '/' || c == '@'

/-- The inside of a tag at the front of a text, and the text after it. -/
def tag? (s : List Char) : Option (List Char × List Char) :=
  match s with
  | '[' :: c :: s =>
    let body := s.takeWhile fun d => d != '[' && d != ']'
    match s.drop body.length with
    | ']' :: rest => if startsTag c then some (c :: body, rest) else none
    | _ => none
  | _ => none

/-- A name without the blanks around it, in small letters. -/
def styleName (s : List Char) : List Char :=
  let s := s.dropWhile Char.isWhitespace
  (s.reverse.dropWhile Char.isWhitespace).reverse.map Char.toLower

/-- The open tags after one more, the last one first. Its position is told if there is nothing
    that it closes. -/
def openTags (position : Nat) (tag : List Char) (opened : List (List Char)) :
    Except String (List (List Char)) :=
  match tag.takeWhile (· != '=') with
  | '/' :: name =>
    let closes := styleName name
    if closes.isEmpty then
      match opened with
      | _ :: opened => .ok opened
      | [] =>
        .error ("closing tag '[/]' at position " ++ toString position ++ " has nothing to close")
    else if opened.contains closes then .ok (opened.erase closes)
    else
      .error ("closing tag '[" ++ String.ofList tag ++ "]' at position " ++ toString position ++
        " doesn't match any open tag")
  | name => .ok (styleName name :: opened)

/-- What is shown of a text that starts at a position, while tags are open. The first number
    bounds the work. -/
def render : Nat → Nat → List (List Char) → List Char → Except String (List Char)
  | 0, _, _, _ => .ok []
  | _, _, _, [] => .ok []
  | fuel + 1, position, opened, c :: s => do
    let slashes := (c :: s).takeWhile (· == '\\')
    let rest := (c :: s).drop slashes.length
    let kept := List.replicate (slashes.length / 2) '\\'
    match tag? rest with
    | some (tag, after) =>
      let next := position + slashes.length + tag.length + 2
      if slashes.length % 2 = 1 then
        -- The last backslash takes the tag for plain text.
        return kept ++ ('[' :: tag ++ [']']) ++ (← render fuel next opened after)
      else
        let opened ← openTags (position + slashes.length) tag opened
        return kept ++ (← render fuel next opened after)
    | none =>
      -- A backslash in front of a bracket that opens no tag is not shown either.
      if c = '\\' && s.head? = some '[' then render fuel (position + 1) opened s
      else return c :: (← render fuel (position + 1) opened s)

/-- What is shown of a text, or what is wrong with its tags. -/
def shown (s : String) : Except String String :=
  (render (s.length + 1) 0 [] s.toList).map String.ofList

example : (shown "a[b]c[/b]\\[d]").toOption = some "ac[d]" := by decide +kernel

end Terminal

end Stencil
