import Remittance.Text.Utf8

/-! # The encoding of a JSON text

A byte order mark in front of a JSON text tells how the text is encoded: in bytes, or in units of two
or four bytes with the high byte first or last. Without a mark the first two characters are ASCII,
so the zero bytes among the first four tell it. `decode` finds the encoding out and gives the code
points, among which surrogates may stand alone. Bytes that make no whole units, or units beyond the
last code point, make no text. -/

namespace Remittance.Json

/-- An encoding of text as bytes. -/
inductive Encoding where
  | utf8
  | utf16 (highFirst : Bool)
  | utf32 (highFirst : Bool)
  deriving DecidableEq, Repr

namespace Encoding

/-- The byte order marks, and the encodings they tell of. The marks of four bytes go first, since one
of them begins with a mark of two. -/
def marks : List (List UInt8 × Encoding) := [
  ([0x00, 0x00, 0xFE, 0xFF], .utf32 true), ([0xFF, 0xFE, 0x00, 0x00], .utf32 false),
  ([0xFE, 0xFF], .utf16 true), ([0xFF, 0xFE], .utf16 false), ([0xEF, 0xBB, 0xBF], .utf8)]

/-- The encoding that the zero bytes in front tell of. -/
def detect (bytes : List UInt8) : Encoding :=
  match bytes with
  | a :: b :: c :: d :: _ =>
    if a = 0 then if b = 0 then .utf32 true else .utf16 true
    else if b = 0 then if c = 0 ∧ d = 0 then .utf32 false else .utf16 false
    else .utf8
  | [a, b] => if a = 0 then .utf16 true else if b = 0 then .utf16 false else .utf8
  | _ => .utf8

/-- The number that bytes denote, the high one first. -/
def unit (bytes : List UInt8) : Nat :=
  bytes.foldl (fun n b => 256 * n + b.toNat) 0

/-- The units of two bytes. -/
def units16? (highFirst : Bool) : List UInt8 → Option (List Nat)
  | [] => some []
  | a :: b :: rest =>
    (units16? highFirst rest).map ((if highFirst then unit [a, b] else unit [b, a]) :: ·)
  | _ => none

/-- The units of four bytes. -/
def units32? (highFirst : Bool) : List UInt8 → Option (List Nat)
  | [] => some []
  | a :: b :: c :: d :: rest =>
    (units32? highFirst rest).map
      ((if highFirst then unit [a, b, c, d] else unit [d, c, b, a]) :: ·)
  | _ => none

/-- The code points of units of two bytes, pairs of surrogates taken together. -/
def ofUnits16 : List Nat → List Nat
  | [] => []
  | [u] => [u]
  | u :: v :: rest =>
    if 0xD800 ≤ u ∧ u < 0xDC00 ∧ 0xDC00 ≤ v ∧ v < 0xE000 then
      (0x10000 + (u - 0xD800) * 0x400 + (v - 0xDC00)) :: ofUnits16 rest
    else u :: ofUnits16 (v :: rest)

/-- The code points of bytes. -/
def points? : Encoding → List UInt8 → Option (List Nat)
  | .utf8, bytes => (Text.Utf8.points true bytes).toOption
  | .utf16 highFirst, bytes => (units16? highFirst bytes).map ofUnits16
  | .utf32 highFirst, bytes => (units32? highFirst bytes).filter (·.all (· < 0x110000))

end Encoding

/-- The code points of the text that a body stands for, without a byte order mark. -/
def decode (body : List UInt8) : Option (List Nat) :=
  match Encoding.marks.find? (·.1.isPrefixOf body) with
  | some (mark, encoding) => encoding.points? (body.drop mark.length)
  | none => (Encoding.detect body).points? body

end Remittance.Json
