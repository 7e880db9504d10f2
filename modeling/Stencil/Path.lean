import Stencil.Fault

/-!
# Paths

A path in normal form: an anchor and the list of its segments, without empty ones
and without single dots. A double dot stays, because removing it is right only
when the segment before it is no link. A path that starts with exactly two slashes
keeps both, by an old rule of the file systems.

The last segment can be replaced by another name, which is how an extension is
attached. The new name is kept as it is written, so a name such as `a./.` stays
in the path although reading it back would drop its end.

## Main definitions

* `Path`: Anchor and segments.
* `Path.ofString`, `Path.text`: Reading and writing.
* `Path.append`: A path followed by another.
* `Path.withName`: The last segment replaced.
* `Path.relativeTo`: What is left of a path under another.

## Theorems

* `segments_append`: Segments of a text joined by a slash.
* `parts_append`: A relative path adds its segments.
-/

namespace Stencil

/-- Where a path starts. -/
inductive Anchor where
  | here
  | root
  | doubleRoot
deriving DecidableEq

namespace Anchor

def text : Anchor → String
  | .here => ""
  | .root => "/"
  | .doubleRoot => "//"

end Anchor

/-- A path in normal form. -/
structure Path where
  anchor : Anchor
  parts : List String
deriving DecidableEq

namespace Path

/-- The pieces of a text between separators. -/
def splitOn (sep : Char) : List Char → List (List Char)
  | [] => [[]]
  | c :: s =>
    if c = sep then [] :: splitOn sep s
    else
      -- The rest has a first piece, which the character belongs to.
      match splitOn sep s with
      | [] => [[c]]
      | p :: ps => (c :: p) :: ps

/-- The segments of a path text, without empty ones and single dots. -/
def segments (s : List Char) : List (List Char) :=
  (splitOn '/' s).filter fun p => p != [] && p != ['.']

/-- The anchor of a path text. -/
def anchorOf : List Char → Anchor
  -- Two slashes mean something of their own, three or more are one.
  | '/' :: '/' :: '/' :: _ => .root
  | '/' :: '/' :: _ => .doubleRoot
  | '/' :: _ => .root
  | _ => .here

/-- Reads a path. -/
def ofChars (s : List Char) : Path := ⟨anchorOf s, (segments s).map String.ofList⟩

/-- Reads a path. -/
def ofString (s : String) : Path := ofChars s.toList

/-- Writes a path; the empty relative one is a dot. -/
def text (p : Path) : String :=
  if p.anchor = .here && p.parts = [] then "."
  else p.anchor.text ++ "/".intercalate p.parts

def isAbsolute (p : Path) : Bool := p.anchor ≠ .here

/-- A path followed by another; an absolute one stands alone. -/
def append (p q : Path) : Path :=
  match q.anchor with
  | .here => ⟨p.anchor, p.parts ++ q.parts⟩
  | _ => q

instance : Append Path := ⟨append⟩

/-- The last segment, or nothing. -/
def name (p : Path) : String := p.parts.getLastD ""

/-- The path with its last segment replaced. The new name must be one segment
    and must not end in a slash. -/
def withName (p : Path) (name : String) : Except Fault Path :=
  if p.name = "" then
    .error (.refused (.emptyPathName ("PosixPath(" ++ Text.quoted p.text ++ ")")))
  else
    -- The name is taken as it is written, with the dots and slashes that are in it.
    let cs := name.toList
    if cs.getLast? = some '/' || anchorOf cs ≠ .here || (segments cs).length ≠ 1 then
      .error (.refused (.badPathName name))
    else .ok ⟨p.anchor, p.parts.dropLast ++ [name]⟩

/-- The path below `base`, if it starts with the segments of `base`. -/
def relativeTo (p base : Path) : Except Fault Path :=
  if p.anchor = base.anchor && base.parts.isPrefixOf p.parts then
    .ok ⟨.here, p.parts.drop base.parts.length⟩
  else .error (.refused (.outsideRoot p.text base.text))

theorem splitOn_append (sep : Char) (a b : List Char) :
    splitOn sep (a ++ sep :: b) = splitOn sep a ++ splitOn sep b := by
  induction a with
  | nil => simp [splitOn]
  | cons c a ih =>
    by_cases h : c = sep
    · simp [splitOn, h, ih]
    · simp only [List.cons_append, splitOn, if_neg h, ih]
      cases ha : splitOn sep a with
      | nil =>
        exfalso
        cases a with
        | nil => simp [splitOn] at ha
        | cons d a =>
          simp only [splitOn] at ha
          split at ha
          · simp at ha
          · split at ha <;> simp at ha
      | cons p ps => simp

/-- Two path texts joined by a slash have the segments of both. -/
theorem segments_append (a b : List Char) :
    segments (a ++ '/' :: b) = segments a ++ segments b := by
  simp [segments, splitOn_append]

theorem parts_append (p q : Path) (h : q.anchor = .here) : (p ++ q).parts = p.parts ++ q.parts := by
  show (append p q).parts = _
  simp [append, h]

end Path

end Stencil
