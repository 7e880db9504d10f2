import Stencil.World

/-!
# Where rendered text goes

Text goes to a file, as UTF-8 and byte for byte, or to a standard output of some
encoding. An output that cannot express every character of a text gets all of it as
UTF-8 instead. The characters of a text are whole ones, never halves of a pair, so there
is none that UTF-8 does not express.

## Main definitions

* `writeToFile`: Writing a file.
* `Encoding`, `outputBytes`: The bytes on a standard output.

## Theorems

* `outputBytes_utf8`: UTF-8 expresses every text.
-/

namespace Stencil

namespace Output

/-- The part of the library that logs here. -/
def source : String := "templateview.output"

/-- Writes a file in a directory that is there. -/
def writeToFile (path : Path) (text : String) : Act Unit := do
  Act.log .info source "writing_output_to_file" [("path", .text path.text)]
  let w ← get
  match w.files.write path (.text text) w.clock with
  | .ok files => set { w with files }
  | .error (.system r p) => throw (.unwritable path.text (.system r p))
  | .error f => throw f

/-- Encodings of a standard output. -/
inductive Encoding where
  | utf8
  | ascii
  | latin1
deriving DecidableEq

/-- The number below which an encoding has one byte for each character; none if it
    has bytes for all of them. -/
def Encoding.limit? : Encoding → Option Nat
  | .utf8 => none
  | .ascii => some 0x80
  | .latin1 => some 0x100

/-- A text as UTF-8. -/
def utf8Bytes (s : String) : List UInt8 := s.toUTF8.toList

/-- The bytes that a text becomes on a standard output. -/
def outputBytes (e : Encoding) (s : String) : List UInt8 :=
  match e.limit? with
  | none => utf8Bytes s
  | some n =>
    if s.toList.all fun c => c.toNat < n then s.toList.map fun c => c.toNat.toUInt8
    else utf8Bytes s

theorem outputBytes_utf8 (s : String) : outputBytes .utf8 s = utf8Bytes s := rfl

end Output

end Stencil
