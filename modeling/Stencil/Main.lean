import Stencil.Command

/-!
# The program

Reads the files below the current directory and the user's settings file, runs the
command line on them, prints what it prints, and writes the files that it wrote.
Events go to standard error.

## Main definitions

* `main`: The program.
-/

namespace Stencil

namespace Program

/-- How deep directories are read. -/
def directoryDepth : Nat := 32

/-- The files below a directory of the disk, whose names start with `above`. -/
def readTree : Nat → String → Files → IO Files
  | 0, _, t => return t
  | depth + 1, above, t => do
    let mut t := t
    for e in ← (← IO.FS.realPath (if above = "" then "." else above)).readDir do
      let name := if above = "" then e.fileName else above ++ "/" ++ e.fileName
      if ← e.path.isDir then
        t := t.writeDeep (Path.ofString name) .directory
        t ← readTree depth name t
      else
        let bytes ← try IO.FS.readBinFile name catch _ => pure ByteArray.empty
        t := t.writeDeep (Path.ofString name) (.file (.bytes bytes.toList) 0)
    return t

/-- A tree with one more file of the disk, if it is there. -/
def withFile (t : Files) (name : String) : IO Files := do
  try
    let bytes ← IO.FS.readBinFile name
    return t.writeDeep (Path.ofString name) (.file (.bytes bytes.toList) 0)
  catch _ => return t

/-- Writes a file of the tree to the disk if it holds text, which only files that
    were written have. -/
def writeBack (l : Location) (n : Node) : IO Unit := do
  let name :=
    match l with
    | "/" :: l => "/" ++ "/".intercalate l
    | l => "/".intercalate l
  match n with
  | .file (.text s) _ => IO.FS.writeFile name s
  | .directory => if !l.isEmpty then IO.FS.createDirAll name
  | _ => return ()

/-- Prints what a run prints. -/
def print (p : Command.Printed) : IO Unit := do
  match p with
  | .text s => IO.print s
  | .probes ps lines => do
    for p in ps do
      IO.println (p.owner.kind.name ++ "  " ++ p.owner.path.text ++ "  " ++
        (if p.present then "yes" else "no"))
    lines.forM IO.println

/-- Prints the events that a run is asked to show. -/
def printEvents (args : List String) (w : World) : IO Unit := do
  match Command.Globals.ofWords args with
  | .ok (g, _, _) => (w.shown g.level).forM fun e => IO.eprintln (Command.eventLine g.jsonLogs e)
  | .error _ => return ()

end Program

end Stencil

open Stencil Program

/-- The program. Its status is taken modulo 256, as systems do. -/
def main (args : List String) : IO UInt32 := do
  let home := (← IO.getEnv "HOME").getD ""
  let settings := home ++ "/.config/templateview/config.toml"
  let files ← withFile (← readTree directoryDepth "" Files.empty) settings
  let world := World.ofFiles files 0 (← IO.currentDir).toString (Path.ofString settings)
  let (o, after) := Command.run args world
  for (l, n) in after.files.nodes do
    writeBack l n
  printEvents args after
  o.title.forM IO.println
  print o.printed
  o.parting.forM IO.eprintln
  match o.message, o.unhandled with
  | some m, _ => IO.eprintln m
  | none, some f => IO.eprintln (f.kind ++ ": " ++ f.message)
  | none, none => pure ()
  return (o.status % 256).toNat.toUInt32
