import Remittance.Text.CharClass

/-! # Blanks and trimming

Two sets of blanks are in use. `blanks` separates the words of a sentence: every character of the
property White_Space together with the four information separators U+001C to U+001F. `spaces` is
White_Space alone; numerals may be surrounded by it. Trimming takes such characters off both ends:
what is left begins and ends with a character outside the set. -/

namespace Remittance.Text

/-- The characters of the property White_Space. -/
def spaces : CharClass := ⟨[
  (0x09, 0x0D), (0x20, 0x20), (0x85, 0x85), (0xA0, 0xA0), (0x1680, 0x1680), (0x2000, 0x200A),
  (0x2028, 0x2029), (0x202F, 0x202F), (0x205F, 0x205F), (0x3000, 0x3000)]⟩

/-- White_Space and the four information separators. -/
def blanks : CharClass := ⟨[
  (0x09, 0x0D), (0x1C, 0x20), (0x85, 0x85), (0xA0, 0xA0), (0x1680, 0x1680), (0x2000, 0x200A),
  (0x2028, 0x2029), (0x202F, 0x202F), (0x205F, 0x205F), (0x3000, 0x3000)]⟩

/-- Whether `c` separates words. -/
def isBlank (c : Char) : Bool :=
  blanks.contains c

/-- Whether `c` may surround a numeral. -/
def isSpace (c : Char) : Bool :=
  spaces.contains c

theorem isBlank_of_isSpace {c : Char} (h : isSpace c = true) : isBlank c = true := by
  simp only [isSpace, isBlank, CharClass.contains, CharClass.covers, spaces, blanks, List.any_cons,
    List.any_nil, Bool.or_eq_true, Bool.and_eq_true, decide_eq_true_eq, Bool.or_false] at h ⊢
  omega

/-- The characters of `cs` from the first to the last one outside `p`. -/
def trimBy (p : Char → Bool) (cs : List Char) : List Char :=
  ((cs.dropWhile p).reverse.dropWhile p).reverse

/-- A text without the blanks at its ends. -/
def trim (s : String) : String :=
  String.ofList (trimBy isBlank s.toList)

@[simp]
theorem toList_trim (s : String) : (trim s).toList = trimBy isBlank s.toList := by
  simp [trim]

end Remittance.Text
