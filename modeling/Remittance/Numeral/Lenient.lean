import Remittance.Numeral.Digits
import Remittance.Text.Blank

/-! # Integers as lenient text

Where an integer is expected, a text that denotes one is taken in its place: ASCII digits after an
optional sign, between optional spaces, with single underscores between digits, leading zeros (and
underscores among them) and a fraction of zeros. A minus may also stand behind leading zeros, with
an underscore behind it. `lenient` reads such a text. -/

namespace Remittance.Numeral

/-- Why a text denotes no integer. -/
inductive LenientFault where
  /-- The text is no numeral, or one with too many digits that does not open with them. -/
  | malformed
  /-- The text opens with more than `digitLimit` digits. -/
  | tooLong
  deriving DecidableEq, Repr

/-- Whether a text opens with a number of more than `digitLimit` digits, whatever follows them. Only
a minus may come first: behind a space, a plus or a zero such a number is just malformed. -/
def opensTooLong (cs : List Char) : Bool :=
  let unsigned := if cs.head? = some '-' then cs.tail else cs
  unsigned.head? != some '0' && digitLimit < (unsigned.takeWhile Text.isAsciiDigit).length

/-- Whether `cs` is a point followed by one or more zeros. -/
def isZeroFraction : List Char → Bool
  | '.' :: z :: zs => (z :: zs).all (· == '0')
  | _ => false

/-- A numeral without its fraction of zeros, if it has one. -/
def dropZeroFraction (cs : List Char) : List Char :=
  if isZeroFraction (cs.dropWhile (· != '.')) then cs.takeWhile (· != '.') else cs

/-- Whether `c` belongs to the padding that a leading zero begins. -/
def isPadding (c : Char) : Bool :=
  c == '0' || c == '_'

/-- A numeral without the padding in front of it. The last of the padding stays where nothing or a
fraction follows, so that zero keeps its digit. -/
def dropPadding (cs : List Char) : List Char :=
  if cs.head? = some '0' then
    let rest := cs.dropWhile isPadding
    if rest = [] ∨ rest.head? = some '.' then (cs.takeWhile isPadding).getLast?.toList ++ rest
    else rest
  else cs

/-- The number of a run of at most `digitLimit` digits that no further zero leads. -/
def bare? (cs : List Char) : Option Nat :=
  match groupedDigits? asciiDigit? cs with
  | some (0 :: _ :: _) => none
  | some ds => if digitLimit < ds.length then none else some (ofDigits ds)
  | none => none

/-- The number of a run of digits behind an optional minus. -/
def signed? : List Char → Option Int
  | '-' :: '_' :: cs => (bare? cs).map (-Int.ofNat ·)
  | '-' :: cs => (bare? cs).map (-Int.ofNat ·)
  | cs => (bare? cs).map Int.ofNat

/-- The numeral that is left of one that begins with a digit. -/
def core? (cs : List Char) : Option (List Char) :=
  if cs.head?.any Text.isAsciiDigit then some (dropZeroFraction (dropPadding cs)) else none

/-- The number of a numeral with an optional sign. Where a minus comes first, none may follow. -/
def padded? : List Char → Option Int
  | '+' :: cs => (core? cs).bind signed?
  | '-' :: cs => (core? cs).bind fun core => signed? ('-' :: core)
  | cs => (core? cs).bind signed?

/-- Reads an integer from lenient text. -/
def lenient (text : String) : Except LenientFault Int :=
  let cs := text.toList
  if opensTooLong cs then .error .tooLong
  else
    match padded? (Text.trimBy Text.isSpace cs) with
    | some n => .ok n
    | none => .error .malformed

end Remittance.Numeral
