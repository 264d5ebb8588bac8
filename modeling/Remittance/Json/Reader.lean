import Remittance.Json.Basic
import Remittance.Numeral.Digits
import Remittance.Text.StandIn

/-! # Reading JSON

`Json.read` reads one JSON value with blanks around it. A text that holds none is refused with the
cause and the position of the first character that could not be taken. Besides the numbers of the
standard `NaN`, `Infinity` and `-Infinity` are taken as numbers, and for a `\u` escape of an
unpaired surrogate its stand-in is put.

The scanners below take a list of characters and give back what is left of it, so a fault is placed
by the number of characters left. -/

namespace Remittance.Json

open Text (StandIns)

/-- Why a text is no JSON value. -/
inductive Cause where
  | expectedValue
  | expectedName
  | expectedColon
  | expectedComma
  | extraData
  | openString
  | controlCharacter
  | unknownEscape
  | codeEscape
  /-- An integer has more digits than the limits allow. -/
  | longInteger
  /-- Arrays and objects are nested deeper than the limits allow. -/
  | deepNesting
  deriving DecidableEq, Repr

/-- The description of a cause. -/
def Cause.message : Cause → String
  | .expectedValue => "Expecting value"
  | .expectedName => "Expecting property name enclosed in double quotes"
  | .expectedColon => "Expecting ':' delimiter"
  | .expectedComma => "Expecting ',' delimiter"
  | .extraData => "Extra data"
  | .openString => "Unterminated string starting at"
  | .controlCharacter => "Invalid control character at"
  | .unknownEscape => "Invalid \\escape"
  | .codeEscape => "Invalid \\uXXXX escape"
  | .longInteger => "Integer too long"
  | .deepNesting => "Nesting too deep"

/-- A cause, and the number of characters from the fault to the end of the text. -/
structure Fault where
  cause : Cause
  left : Nat
  deriving DecidableEq, Repr

/-- How a text is read: which integers are too long and which values nested too deep, if any, and
which characters stand for unpaired surrogates. -/
structure Options where
  digits : Option Nat := none
  depth : Option Nat := none
  standIns : StandIns := .none

/-- A scanner takes something off the front of a text. -/
abbrev Scan (α : Type) := List Char → Except Fault (α × List Char)

/-- Whether `c` may stand between the parts of a value. -/
def isSeparator (c : Char) : Bool :=
  c == ' ' || c == '\t' || c == '\n' || c == '\r'

/-- A text from its first character that is no separator. -/
def skip (cs : List Char) : List Char :=
  cs.dropWhile isSeparator

/-! ### Strings -/

/-- The value of a hexadecimal digit. -/
def hexValue? (c : Char) : Option Nat :=
  if '0' ≤ c ∧ c ≤ '9' then some (c.toNat - 0x30)
  else if 'a' ≤ c ∧ c ≤ 'f' then some (c.toNat - 0x57)
  else if 'A' ≤ c ∧ c ≤ 'F' then some (c.toNat - 0x37)
  else none

/-- The code unit of four hexadecimal digits. -/
def codeUnit? (a b c d : Char) : Option Nat := do
  let a ← hexValue? a
  let b ← hexValue? b
  let c ← hexValue? c
  let d ← hexValue? d
  return ((a * 16 + b) * 16 + c) * 16 + d

/-- Whether a code unit is the first half of a pair. -/
def isHighSurrogate (u : Nat) : Bool :=
  decide (0xD800 ≤ u) && decide (u ≤ 0xDBFF)

/-- Whether a code unit is the second half of a pair. -/
def isLowSurrogate (u : Nat) : Bool :=
  decide (0xDC00 ≤ u) && decide (u ≤ 0xDFFF)

/-- The character of a code unit that stands alone. -/
def ofCodeUnit (standIns : StandIns) (u : Nat) : Char :=
  if Text.isSurrogate u then standIns.char u else Char.ofNat u

/-- The character of a pair of code units. -/
def ofPair (u v : Nat) : Char :=
  Char.ofNat (0x10000 + (u - 0xD800) * 0x400 + (v - 0xDC00))

/-- The character behind a backslash that needs no digits. -/
def simpleEscape? : Char → Option Char
  | '"' => some '"'
  | '\\' => some '\\'
  | '/' => some '/'
  | 'b' => some (Char.ofNat 0x08)
  | 'f' => some (Char.ofNat 0x0C)
  | 'n' => some '\n'
  | 'r' => some '\r'
  | 't' => some '\t'
  | _ => none

/-- The code units of an escape whose `u` stands before `cs`: one, or two if a second escape makes a
pair with the first. A further character must follow the digits. -/
def scanCode (standIns : StandIns) (cs : List Char) : Except Fault (Char × List Char) :=
  match cs with
  | a :: b :: c :: d :: e :: rest =>
    match codeUnit? a b c d with
    | none => .error ⟨.codeEscape, cs.length + 1⟩
    | some u =>
      match isHighSurrogate u, e :: rest with
      | true, '\\' :: 'u' :: a' :: b' :: c' :: d' :: e' :: rest' =>
        match codeUnit? a' b' c' d' with
        | none => .error ⟨.codeEscape, rest'.length + 6⟩
        | some v =>
          if isLowSurrogate v then .ok (ofPair u v, e' :: rest')
          else .ok (ofCodeUnit standIns u, e :: rest)
      | _, _ => .ok (ofCodeUnit standIns u, e :: rest)
  | _ => .error ⟨.codeEscape, cs.length + 1⟩

/-- Takes the characters of a string up to its closing quote. `done` holds those taken, the last one
first; `start` is the number of characters from the opening quote to the end of the text. -/
def scanString (standIns : StandIns) (start : Nat) : Nat → List Char → Scan String
  | 0, _, _ => .error ⟨.openString, start⟩
  | _ + 1, _, [] => .error ⟨.openString, start⟩
  | _ + 1, done, '"' :: cs => .ok (String.ofList done.reverse, cs)
  | _ + 1, _, ['\\'] => .error ⟨.openString, start⟩
  | fuel + 1, done, '\\' :: 'u' :: cs => do
    let (c, cs) ← scanCode standIns cs
    scanString standIns start fuel (c :: done) cs
  | fuel + 1, done, '\\' :: c :: cs =>
    match simpleEscape? c with
    | some c => scanString standIns start fuel (c :: done) cs
    | none => .error ⟨.unknownEscape, cs.length + 2⟩
  | fuel + 1, done, c :: cs =>
    if c.toNat < 0x20 then .error ⟨.controlCharacter, cs.length + 1⟩
    else scanString standIns start fuel (c :: done) cs

/-! ### Numbers -/

/-- Takes a point and the digits after it, if a digit follows the point. -/
def scanFraction (cs : List Char) : List Char × List Char :=
  match cs with
  | '.' :: rest => (rest.takeWhile Text.isAsciiDigit,
      if (rest.takeWhile Text.isAsciiDigit).isEmpty then cs else rest.dropWhile Text.isAsciiDigit)
  | _ => ([], cs)

/-- Takes the mark of an exponent, its sign and its digits, if there is a digit. -/
def scanExponent (cs : List Char) : Option Int × List Char :=
  match cs with
  | mark :: rest =>
    if mark = 'e' ∨ mark = 'E' then
      let digits := if rest.head? = some '+' ∨ rest.head? = some '-' then rest.tail else rest
      let ds := digits.takeWhile Text.isAsciiDigit
      if ds.isEmpty then (none, cs)
      else
        let e : Int := Numeral.ofDigits (ds.map Text.asciiDigitValue)
        (some (if rest.head? = some '-' then -e else e), digits.dropWhile Text.isAsciiDigit)
    else (none, cs)
  | [] => (none, cs)

/-- The digits before the point: a zero alone, or a run that begins with another digit. -/
def scanWhole : List Char → Option (List Char × List Char)
  | '0' :: cs => some (['0'], cs)
  | c :: cs =>
    if Text.isAsciiDigit c then
      some (c :: cs.takeWhile Text.isAsciiDigit, cs.dropWhile Text.isAsciiDigit)
    else none
  | [] => none

/-- Takes a number: an integer unless a fraction or an exponent follows the digits. -/
def scanNumber (options : Options) : Scan Json := fun text =>
  let negative := text.head? = some '-'
  match scanWhole (if negative then text.tail else text) with
  | none => .error ⟨.expectedValue, text.length⟩
  | some (whole, rest) =>
    let (fraction, rest) := scanFraction rest
    let (exponent, rest) := scanExponent rest
    if fraction.isEmpty && exponent.isNone then
      if options.digits.any (· < whole.length) then .error ⟨.longInteger, text.length⟩
      else
        let n : Int := Numeral.ofDigits (whole.map Text.asciiDigitValue)
        .ok (.int (if negative then -n else n), rest)
    else
      let ds := (whole ++ fraction).map Text.asciiDigitValue
      .ok (.real (.ofDecimal negative ds (exponent.getD 0 - fraction.length)), rest)

/-! ### Values -/

/-- Takes one of the words that stand for a value. -/
def scanWord? (cs : List Char) : Option (Json × List Char) :=
  let words : List (String × Json) := [("null", .null), ("true", .bool true),
    ("false", .bool false), ("NaN", .real .nan), ("Infinity", .real (.infinite false)),
    ("-Infinity", .real (.infinite true))]
  (words.find? (·.1.toList.isPrefixOf cs)).map fun w => (w.2, cs.drop w.1.length)

/-- Takes the elements of an array up to its closing bracket. -/
def scanItems (item : Scan Json) : Nat → List Json → Scan (List Json)
  | 0, _, cs => .error ⟨.expectedValue, cs.length⟩
  | fuel + 1, done, cs => do
    let (v, cs) ← item cs
    match skip cs with
    | ']' :: cs => .ok ((v :: done).reverse, cs)
    | ',' :: cs => scanItems item fuel (v :: done) (skip cs)
    | cs => .error ⟨.expectedComma, cs.length⟩

/-- Takes the fields of an object up to its closing brace. -/
def scanFields (standIns : StandIns) (item : Scan Json) (bound : Nat) :
    Nat → List (String × Json) → Scan (List (String × Json))
  | 0, _, cs => .error ⟨.expectedName, cs.length⟩
  | fuel + 1, done, cs =>
    match cs with
    | '"' :: rest => do
      let (name, cs) ← scanString standIns cs.length bound [] rest
      match skip cs with
      | ':' :: cs =>
        let (v, cs) ← item (skip cs)
        match skip cs with
        | '\x7d' :: cs => .ok (putField name v done, cs)
        | ',' :: cs => scanFields standIns item bound fuel (putField name v done) (skip cs)
        | cs => .error ⟨.expectedComma, cs.length⟩
      | cs => .error ⟨.expectedColon, cs.length⟩
    | _ => .error ⟨.expectedName, cs.length⟩

/-- Takes a value nested at most `depth` deep. `bound` exceeds the length of the text. -/
def scanValue (options : Options) (bound : Nat) : Nat → Scan Json
  | _, '"' :: cs => do
    let (s, cs) ← scanString options.standIns (cs.length + 1) bound [] cs
    return (.string s, cs)
  | 0, '\x7b' :: cs => .error ⟨.deepNesting, cs.length⟩
  | 0, '[' :: cs => .error ⟨.deepNesting, cs.length⟩
  | depth + 1, '\x7b' :: cs =>
    match skip cs with
    | '\x7d' :: cs => .ok (.object [], cs)
    | cs => do
      let value := scanValue options bound depth
      let (fields, cs) ← scanFields options.standIns value bound bound [] cs
      return (.object fields, cs)
  | depth + 1, '[' :: cs =>
    match skip cs with
    | ']' :: cs => .ok (.array [], cs)
    | cs => do
      let (items, cs) ← scanItems (scanValue options bound depth) bound [] cs
      return (.array items, cs)
  | _, cs =>
    match scanWord? cs with
    | some r => .ok r
    | none => scanNumber options cs

/-- Reads a JSON value. A refused text is described by the cause and the position of the fault. -/
def read (options : Options) (text : String) : Except (Cause × Nat) Json :=
  let cs := text.toList
  let bound := cs.length + 1
  let outcome : Except Fault Json := do
    let (v, rest) ← scanValue options bound (options.depth.getD bound) (skip cs)
    match skip rest with
    | [] => return v
    | rest => .error ⟨.extraData, rest.length⟩
  outcome.mapError fun f => (f.cause, cs.length - f.left)

end Remittance.Json
