import Remittance.Text.Quoted

/-! # Bytes in UTF-8

The first byte of a character tells how many bytes follow it and in which range the next one lies,
so that no character has two encodings. `Utf8.points` reads bytes one at a time and gives the code
points of the characters. A surrogate has an encoding of three bytes, which is taken only if
surrogates may pass; a fault gives the place of the bytes that are no character's. -/

namespace Remittance.Text.Utf8

/-- Why bytes are no text. -/
inductive Cause where
  | startByte
  | continuationByte
  | endOfData
  deriving DecidableEq, Repr

/-- The description of a cause. -/
def Cause.message : Cause → String
  | .startByte => "invalid start byte"
  | .continuationByte => "invalid continuation byte"
  | .endOfData => "unexpected end of data"

/-- The first bytes that are no character's, and their place. -/
structure Fault where
  cause : Cause
  place : Nat
  bytes : List UInt8
  deriving DecidableEq, Repr

/-- The description of a fault. -/
def Fault.message (f : Fault) : String :=
  let what := match f.bytes with
    | [b] => s!"byte 0x{String.ofList (hexDigits 2 b.toNat)} in position {f.place}"
    | bytes => s!"bytes in position {f.place}-{f.place + bytes.length - 1}"
  s!"'utf-8' codec can't decode {what}: {f.cause.message}"

/-- A character of which some bytes were read: these bytes, the last one first, their value, the
number of bytes that are owed, and the range of the next one. -/
structure Begun where
  bytes : List UInt8
  value : Nat
  owed : Nat
  low : Nat := 0x80
  high : Nat := 0xBF
  deriving DecidableEq, Repr

/-- The character that begins with the byte `b`. -/
def begin? (surrogates : Bool) (b : UInt8) : Option Begun :=
  let n := b.toNat
  if n < 0x80 then some { bytes := [b], value := n, owed := 0 }
  else if n < 0xC2 then none
  else if n < 0xE0 then some { bytes := [b], value := n - 0xC0, owed := 1 }
  else if n < 0xF0 then
    some
      { bytes := [b], value := n - 0xE0, owed := 2
        low := if n = 0xE0 then 0xA0 else 0x80
        high := if n = 0xED ∧ surrogates = false then 0x9F else 0xBF }
  else if n < 0xF5 then
    some
      { bytes := [b], value := n - 0xF0, owed := 3
        low := if n = 0xF0 then 0x90 else 0x80
        high := if n = 0xF4 then 0x8F else 0xBF }
  else none

/-- Reads one byte, of a new character or of one that has begun. -/
def step (surrogates : Bool) (begun : Option Begun) (b : UInt8) : Except Cause Begun :=
  match begun with
  | none =>
    match begin? surrogates b with
    | some begun => .ok begun
    | none => .error .startByte
  | some begun =>
    if begun.low ≤ b.toNat ∧ b.toNat ≤ begun.high then
      .ok
        { bytes := b :: begun.bytes
          value := begun.value * 0x40 + (b.toNat - 0x80)
          owed := begun.owed - 1 }
    else .error .continuationByte

/-- Reads bytes to their end. `done` holds the code points that were read, the last one first, and
`place` is the number of their bytes. -/
def read (surrogates : Bool) :
    Nat → List Nat → Option Begun → List UInt8 → Except Fault (List Nat)
  | _, done, none, [] => .ok done.reverse
  | place, _, some begun, [] => .error ⟨.endOfData, place, begun.bytes.reverse⟩
  | place, done, begun, b :: bs =>
    match step surrogates begun b with
    | .error cause => .error ⟨cause, place, (begun.map (·.bytes.reverse)).getD [b]⟩
    | .ok next =>
      if next.owed = 0 then read surrogates (place + next.bytes.length) (next.value :: done) none bs
      else read surrogates place done (some next) bs

/-- The code points of bytes. -/
def points (surrogates : Bool) (bytes : List UInt8) : Except Fault (List Nat) :=
  read surrogates 0 [] none bytes

end Remittance.Text.Utf8
