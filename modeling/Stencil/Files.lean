import Stencil.Catalog
import Stencil.Path
import Stencil.Script.Syntax
import Stencil.Template.Syntax
import Stencil.Text.Blank

/-!
# File trees

The files that templates, scripts, settings, data and catalogs are read from. A
tree is a table of nodes by location: directories, and files with a content and a
modification time. The current directory is the empty location; double dots lead
above it, to directories of which nothing is known but that they exist.

A path is followed one segment after the other, and what is met on the way
decides the failure: something missing, a file where a directory should be, or a
segment too long for the file system, in the order in which they are met.

A content is text or bytes, or something already read: a script, a catalog, or a
compiled template together with the source it was compiled from.

## Main definitions

* `Location`: Where a node is.
* `Content`, `Node`, `Files`: The tree.
* `Files.locate`: Following a path.
* `Files.isFile`, `Files.isDirectory`, `Files.read`: Looking at the tree.
* `Files.write`, `Files.remove`, `Files.makeDirectories`: Changing it.

## Theorems

* `Files.node?_put_self`: What is put at a location is found there.
-/

namespace Stencil

/-- Where a node is: the names from the current directory, or from the root if the
    first is a slash. -/
abbrev Location := List String

/-- What a file holds. -/
inductive Content where
  | text (s : String)
  | bytes (bs : List UInt8)
  | script (p : Script.Program)
  /-- A script that is not well formed from the given line on. -/
  | brokenScript (line : Nat)
  | catalog (c : Catalog)
  /-- A compiled template: its name and file, its source, and its statements. -/
  | compiled (name file source : String) (body : List Template.Stmt)

/-- A directory, or a file with its modification time. -/
inductive Node where
  | directory
  | file (content : Content) (modified : Nat)

def Node.isFile : Node → Bool
  | .file .. => true
  | .directory => false

/-- A file tree. -/
structure Files where
  nodes : List (Location × Node)

namespace Files

def empty : Files := ⟨[]⟩

/-- The node at a location. Every location made of double dots is a directory. -/
def node? (t : Files) (l : Location) : Option Node :=
  if l.all (· == "..") || l == ["/"] then some .directory else t.nodes.lookup l

/-- Puts a node at a location, in place of one that is there. -/
def put (t : Files) (l : Location) (n : Node) : Files :=
  ⟨(l, n) :: t.nodes.filter (·.1 != l)⟩

/-- The tree without a location and what lies below it. -/
def remove (t : Files) (l : Location) : Files := ⟨t.nodes.filter (!l.isPrefixOf ·.1)⟩

theorem node?_put_self (t : Files) (l : Location) (n : Node)
    (h : (l.all (· == "..") || l == ["/"]) = false) : (t.put l n).node? l = some n := by
  simp [node?, put, h]

/-- The location one step up. -/
def up (l : Location) : Location :=
  if l.all (· == "..") then ".." :: l else if l == ["/"] then l else l.dropLast

/-- The longest segment that a directory can hold, in bytes. -/
def longestName : Nat := 255

/-- The longest path that is followed, in bytes. -/
def longestPath : Nat := 4096

/-- Follows steps from a directory. The result names a place in a directory that
    exists; whether there is a node in it is not asked of the last step. -/
def follow (t : Files) : Location → List String → Except SystemReason Location
  | l, [] => .ok l
  | l, s :: steps =>
    match t.node? l with
    | none => .error .missing
    | some (.file ..) => .error .notDirectory
    | some .directory =>
      -- A dot stays, but only in a directory, which was asked before.
      if s = "." then follow t l steps
      else if s = ".." then follow t (up l) steps
      else if longestName < s.utf8ByteSize then .error .nameTooLong
      else follow t (l ++ [s]) steps

/-- The steps that a path takes. A segment that was put in place as it is written
    may hold several, and a dot among them asks for a directory. -/
def steps (p : Path) : List String :=
  p.parts.flatMap fun s =>
    ((Path.splitOn '/' s.toList).filter (· != [])).map String.ofList

/-- The place that a path names. -/
def locate (t : Files) (p : Path) : Except SystemReason Location :=
  if longestPath ≤ p.text.utf8ByteSize then .error .nameTooLong
  else t.follow (if p.isAbsolute then ["/"] else []) (steps p)

/-- Whether a path holds the character that no file system allows. -/
def hasNul (p : Path) : Bool := p.parts.any fun s => s.toList.contains '\x00'

/-- The node that a path names. -/
def stat (t : Files) (p : Path) : Except SystemReason Node := do
  match t.node? (← t.locate p) with
  | some n => return n
  | none => .error .missing

/-- The node that a text names as it is written. A slash at its end asks for a
    directory, and the empty text names nothing. -/
def statWritten (t : Files) (s : String) : Except SystemReason Node :=
  let p := Path.ofString s
  if s = "" then .error .missing
  else if longestPath ≤ s.utf8ByteSize then .error .nameTooLong
  else do
    let start : Location := if p.isAbsolute then ["/"] else []
    -- The slash at the end does not survive reading the path, so it is put back as a dot.
    let last := if s.toList.getLast? = some '/' then ["."] else []
    let dots := ((Path.splitOn '/' s.toList).filter (· != [])).map String.ofList
    match t.node? (← t.follow start (dots ++ last)) with
    | some n => return n
    | none => .error .missing

/-- Whether a question about a node is answered yes. A path that leads nowhere
    answers no, one with too long a segment is refused. -/
def asks (t : Files) (p : Path) (q : Node → Bool) : Except Fault Bool :=
  if hasNul p then .ok false
  else
    match t.stat p with
    | .ok n => .ok (q n)
    -- The other reasons say that nothing is there, this one that nothing can be said.
    | .error .nameTooLong => .error (.system .nameTooLong p.text)
    | .error _ => .ok false

/-- Whether the path names a file. -/
def isFile (t : Files) (p : Path) : Except Fault Bool := t.asks p Node.isFile

/-- Whether the path names a directory. -/
def isDirectory (t : Files) (p : Path) : Except Fault Bool := t.asks p fun n => !Node.isFile n

/-- The content and modification time of a file that is there, if it is. -/
def file? (t : Files) (p : Path) : Option (Content × Nat) :=
  if hasNul p then none
  else
    match t.stat p with
    | .ok (.file c m) => some (c, m)
    | _ => none

/-- The refusal of a path with the character that no file system allows. -/
def nulFault : Fault := .refused (.worded "embedded null byte")

/-- The content of a file. -/
def contentAt (t : Files) (p : Path) : Except Fault Content :=
  if hasNul p then .error nulFault
  else
    match t.stat p with
    | .ok (.file c _) => .ok c
    | .ok .directory => .error (.system .isDirectory p.text)
    | .error r => .error (.system r p.text)

end Files

namespace Content

/-- The characters of a content, line ends unified. What was already read counts
    as an empty text. -/
def chars : Content → Except Fault (List Char)
  | .text s => .ok (Text.unifyNewlines s.toList)
  | .bytes bs =>
    match Text.Utf8.decode bs with
    | .ok cs => .ok (Text.unifyNewlines cs)
    | .error f => .error (.decoding f)
  | _ => .ok []

end Content

namespace Files

/-- The text of a file, line ends unified. -/
def read (t : Files) (p : Path) : Except Fault (List Char) := do (← t.contentAt p).chars

/-- Writes a file whose directory is there. -/
def write (t : Files) (p : Path) (c : Content) (modified : Nat) : Except Fault Files :=
  if hasNul p then .error nulFault
  else
    let fault (r : SystemReason) : Except Fault Files := .error (.system r p.text)
    match t.locate p with
    | .error r => fault r
    | .ok l =>
      match t.node? l with
      | some .directory => fault .isDirectory
      -- A file that is there needs no look at its directory.
      | some (.file ..) => .ok (t.put l (.file c modified))
      | none =>
        match t.node? (up l) with
        | some .directory => .ok (t.put l (.file c modified))
        | some (.file ..) => fault .notDirectory
        | none => fault .missing

/-- Makes a directory in one that is there. One that is there already stays. -/
def makeOne (t : Files) (p : Path) : Except SystemReason Files :=
  match t.locate p with
  | .error r => .error r
  | .ok l =>
    match t.node? l with
    | some .directory => .ok t
    | some (.file ..) => .error .exists
    | none =>
      match t.node? (up l) with
      | some .directory => .ok (t.put l .directory)
      | some (.file ..) => .error .notDirectory
      | none => .error .missing

/-- The path one segment shorter. -/
def above (p : Path) : Path := ⟨p.anchor, p.parts.dropLast⟩

/-- Makes a directory, going up at most `depth` steps for those above it that are
    missing. -/
def makeUp (t : Files) (p : Path) : Nat → Except Fault Files
  | 0 => .error (.system .missing p.text)
  | depth + 1 =>
    match t.makeOne p with
    | .ok t => .ok t
    -- Only a missing directory above is a reason to go up.
    | .error .missing => do
      let t ← makeUp t (above p) depth
      match t.makeOne p with
      | .ok t => return t
      | .error r => throw (.system r p.text)
    | .error r => .error (.system r p.text)

/-- Makes a directory and those above it that are missing, and does nothing if it
    is there. What stands in the way of the first of them is the fault. -/
def makeDirectories (t : Files) (p : Path) : Except Fault Files :=
  if hasNul p then .error nulFault else t.makeUp p (p.parts.length + 1)

/-- Writes a file and the directories on the way to it, or makes a directory. What
    stands in the way stays. -/
def writeDeep (t : Files) (p : Path) (n : Node) : Files :=
  match n with
  | .directory => (t.makeDirectories p).toOption.getD t
  | .file c modified =>
    -- If the directories cannot be made, writing is tried all the same.
    let t := (t.makeDirectories (above p)).toOption.getD t
    (t.write p c modified).toOption.getD t

/-- The nodes directly in a directory. -/
def children (t : Files) (l : Location) : List (Location × Node) :=
  t.nodes.filter fun e => e.1 != [] && e.1.dropLast == l

end Files

end Stencil
