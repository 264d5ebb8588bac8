import Remittance.Text.Blank

/-! # The words of a text

A word is a maximal run of characters that are not blank. `words s` lists the words of `s` in order:
none is empty, none holds a blank, and blanks at either end of the text yield nothing. -/

namespace Remittance.Text

/-- The maximal runs of non-blank characters, in order. -/
def runs : List Char → List (List Char)
  | [] => []
  | c :: cs =>
    if isBlank c then runs cs
    else (c :: cs.takeWhile (!isBlank ·)) :: runs (cs.dropWhile (!isBlank ·))
termination_by cs => cs.length
decreasing_by
  · simp
  · have := (List.dropWhile_sublist (!isBlank ·) (l := cs)).length_le
    simp only [List.length_cons]
    omega

theorem runs_cons_of_blank {c : Char} {cs : List Char} (h : isBlank c = true) :
    runs (c :: cs) = runs cs := by
  rw [runs, if_pos h]

theorem runs_cons_of_not_blank {c : Char} {cs : List Char} (h : isBlank c = false) :
    runs (c :: cs) = (c :: cs.takeWhile (!isBlank ·)) :: runs (cs.dropWhile (!isBlank ·)) := by
  rw [runs, if_neg (by simp [h])]

/-- The words of a text, in order. -/
def words (s : String) : List String :=
  (runs s.toList).map String.ofList

end Remittance.Text
