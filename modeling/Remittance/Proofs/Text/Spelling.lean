import Remittance.Proofs.Text.Words
import Remittance.Text.UpperCase

/-! # Spellings

A word may be spelled in any way that has the same upper-case form, with letters of other scripts
too. As no blank has a case (`upperChar_of_isBlank`), a spelling of a word is a word
(`isWord_of_upper`): it can be told from its neighbours in a text. -/

namespace Remittance.Text

namespace CharClass

/-- The code points of a class. -/
def points (k : CharClass) : List Nat :=
  k.ranges.flatMap fun r => List.range' r.1 (r.2 + 1 - r.1)

theorem mem_points_of_contains {k : CharClass} {c : Char} (h : k.contains c = true) :
    c.toNat ∈ k.points := by
  obtain ⟨r, hr, hle⟩ := covers_iff.mp h
  refine List.mem_flatMap.mpr ⟨r, hr, List.mem_range'_1.mpr ?_⟩
  omega

end CharClass

/-- **No blank has a case.** -/
theorem upperChar_of_isBlank {c : Char} (h : isBlank c = true) : upperChar c = [c] := by
  have hall : ∀ n ∈ blanks.points, upperChar (Char.ofNat n) = [Char.ofNat n] := by decide +kernel
  have hc := hall c.toNat (CharClass.mem_points_of_contains h)
  rwa [Char.ofNat_toNat] at hc

theorem mem_upperChars_of_isBlank {cs : List Char} {c : Char} (h : isBlank c = true) (hc : c ∈ cs) :
    c ∈ upperChars cs := by
  refine List.mem_flatMap.mpr ⟨c, hc, ?_⟩
  rw [upperChar_of_isBlank h]
  exact List.mem_singleton_self c

/-- **A spelling of a word is a word.** -/
theorem isWord_of_upper {token word : String} (h : upper token = word)
    (hword : IsWord word.toList) : IsWord token.toList := by
  have hchars : upperChars token.toList = word.toList := by
    rw [← h, upper, String.toList_ofList]
  obtain ⟨hne, hall⟩ := hword
  constructor
  · intro hnil
    rw [hnil, upperChars_nil] at hchars
    exact hne hchars.symm
  · intro c hc
    rw [← Bool.not_eq_true]
    intro hblank
    have hmem := mem_upperChars_of_isBlank hblank hc
    rw [hchars] at hmem
    rw [hall c hmem] at hblank
    cases hblank

end Remittance.Text
