import Stencil.Text.Quoted

/-!
# Reading UTF-8

Files hold bytes, and reading one as text either gives its characters or names
the first stretch of bytes that is no character, with the reason: a byte that
starts none, a byte that should continue one and does not, or an end of data in
the middle of one.

## Main definitions

* `Utf8.Fault`: Where and why reading stopped.
* `Utf8.decode`: The characters of a list of bytes.
-/

namespace Stencil

namespace Text

namespace Utf8

/-- Why a stretch of bytes is no character. -/
inductive Reason where
  | start
  | continuation
  | ending

def Reason.text : Reason → String
  | .start => "invalid start byte"
  | .continuation => "invalid continuation byte"
  | .ending => "unexpected end of data"

/-- The first bytes that are no character: their position, their count, the
    first of them and the reason. -/
structure Fault where
  position : Nat
  count : Nat
  byte : UInt8
  reason : Reason

/-- The wording of a fault. -/
def Fault.message (f : Fault) : String :=
  (if f.count = 1 then
    "'utf-8' codec can't decode byte 0x" ++ String.ofList (hexDigits 2 f.byte.toNat) ++
      " in position " ++ toString f.position
  else
    "'utf-8' codec can't decode bytes in position " ++ toString f.position ++ "-" ++
      toString (f.position + f.count - 1)) ++ ": " ++ f.reason.text

def isContinuation (b : UInt8) : Bool := 0x80 ≤ b.toNat && b.toNat < 0xc0

/-- The payload of a continuation byte. -/
def low (b : UInt8) : Nat := b.toNat % 64

/-- Whether `b` may be the second byte of a character that starts with `a`: the
    first continuation byte also excludes overlong forms, surrogates and numbers
    beyond the last code point. -/
def secondFits (a b : UInt8) : Bool :=
  isContinuation b &&
    (if a = 0xe0 then 0xa0 ≤ b.toNat
     else if a = 0xed then b.toNat < 0xa0
     else if a = 0xf0 then 0x90 ≤ b.toNat
     else if a = 0xf4 then b.toNat < 0x90
     else true)

/-- The outcome of reading one character: its code point and length, or a count
    of bad bytes and the reason. -/
inductive Step where
  | char (code length : Nat)
  | bad (count : Nat) (reason : Reason)

/-- Reads the character that starts with `a` and goes on with `rest`. -/
def step (a : UInt8) (rest : List UInt8) : Step :=
  let n := a.toNat
  if n < 0x80 then .char n 1
  else if n < 0xc2 then .bad 1 .start
  else if n < 0xe0 then
    match rest with
    | [] => .bad 1 .ending
    | b :: _ => if isContinuation b then .char (n % 32 * 64 + low b) 2 else .bad 1 .continuation
  else if n < 0xf0 then
    match rest with
    | [] => .bad 1 .ending
    | b :: rest =>
      if secondFits a b then
        match rest with
        | [] => .bad 2 .ending
        | c :: _ =>
          if isContinuation c then .char (n % 16 * 4096 + low b * 64 + low c) 3
          else .bad 2 .continuation
      else .bad 1 .continuation
  else if n < 0xf5 then
    match rest with
    | [] => .bad 1 .ending
    | b :: rest =>
      if secondFits a b then
        match rest with
        | [] => .bad 2 .ending
        | c :: rest =>
          if isContinuation c then
            match rest with
            | [] => .bad 3 .ending
            | d :: _ =>
              if isContinuation d then
                .char (n % 8 * 262144 + low b * 4096 + low c * 64 + low d) 4
              else .bad 3 .continuation
          else .bad 2 .continuation
      else .bad 1 .continuation
  else .bad 1 .start

/-- Reads all characters of bytes that start at a position; `skip` bytes belong
    to the character read last. -/
def decodeFrom (position skip : Nat) : List UInt8 → Except Fault (List Char)
  | [] => .ok []
  | b :: bs =>
    match skip with
    | k + 1 => decodeFrom (position + 1) k bs
    | 0 =>
      match step b bs with
      | .char code length => do
        let cs ← decodeFrom (position + 1) (length - 1) bs
        return Char.ofNat code :: cs
      | .bad count reason => .error ⟨position, count, b, reason⟩

/-- The characters that a list of bytes encodes. -/
def decode (bytes : List UInt8) : Except Fault (List Char) := decodeFrom 0 0 bytes

end Utf8

end Text

end Stencil
