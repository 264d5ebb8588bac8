import Remittance.Text.UpperCase.Table

/-! # Upper case

The full upper-case mapping: a character goes to one, two or three characters (`ß` to `SS`, `ŉ` to
`ʼN`), and a text to the concatenation of what its characters go to. Keywords, currencies and level
names are compared after this mapping, so `uſd` is read as `USD`. -/

namespace Remittance.Text

namespace CaseRun

/-- Whether the code point `n` is a member of the run. -/
def covers (r : CaseRun) (n : Nat) : Bool :=
  decide (r.first ≤ n) && decide (n ≤ r.last) && (n - r.first) % r.step == 0

/-- The upper-case form of a member. -/
def upper (r : CaseRun) (n : Nat) : Nat :=
  (n + r.shift).toNat

end CaseRun

/-- The upper-case form of a code point that has one of its own. -/
def tabledUpper? (n : Nat) : Option (List Nat) :=
  match shifts.find? (·.covers n) with
  | some r => some [r.upper n]
  | none => expansions.lookup n

/-- The upper-case form of a character. Of the ASCII characters only the lower-case letters
change. -/
def upperChar (c : Char) : List Char :=
  if c.toNat < 0x80 then
    if 'a' ≤ c ∧ c ≤ 'z' then [Char.ofNat (c.toNat - 0x20)] else [c]
  else
    match tabledUpper? c.toNat with
    | some ns => ns.map Char.ofNat
    | none => [c]

/-- The upper-case form of a list of characters. -/
def upperChars (cs : List Char) : List Char :=
  cs.flatMap upperChar

@[simp]
theorem upperChars_nil : upperChars [] = [] := rfl

@[simp]
theorem upperChars_append (cs ds : List Char) :
    upperChars (cs ++ ds) = upperChars cs ++ upperChars ds := by
  simp [upperChars]

/-- The upper-case form of a text. -/
def upper (s : String) : String :=
  String.ofList (upperChars s.toList)

end Remittance.Text
