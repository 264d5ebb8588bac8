import Mathlib.Data.List.Basic
import Remittance.Text.StandIn

/-! # Texts with stand-ins

A text without stand-ins is one in which no run of them is found (`firstRun?_eq_none_iff`). All
stand-ins come from the pool (`poolStart_le_of_holds_apartFrom`), so a text of ordinary characters
has none, and it leaves the pool whole (`pairs_apartFrom`). -/

namespace Remittance.Text

/-! ### Code points -/

theorem character?_toNat (c : Char) : character? c.toNat = some c := by
  have hvalid : c.toNat.isValidChar := c.valid
  rw [character?, dif_pos hvalid]
  rfl

theorem isSurrogate_toNat (c : Char) : isSurrogate c.toNat = false := by
  have hvalid : c.toNat.isValidChar := c.valid
  unfold isSurrogate
  rw [← Bool.not_eq_true, Bool.and_eq_true, decide_eq_true_eq, decide_eq_true_eq]
  rcases hvalid with hvalid | hvalid <;> omega

namespace StandIns

theorem text_map_toNat (s : StandIns) (text : String) :
    s.text (text.toList.map Char.toNat) = text := by
  have hchar : ((fun n => (character? n).getD (s.char n)) ∘ Char.toNat) = id := by
    funext c
    rw [Function.comp_apply, character?_toNat, Option.getD_some, id]
  rw [StandIns.text, List.map_map, hchar, List.map_id, String.ofList_toList]

/-! ### Runs -/

theorem holds_eq_true_iff {s : StandIns} {c : Char} :
    s.holds c = true ↔ ∃ p ∈ s.pairs, p.2 = c := by
  rw [holds, surrogate?, Option.isSome_map, List.find?_isSome]
  simp only [beq_iff_eq]

/-- **No run is found** if and only if the text holds no stand-in. -/
theorem firstRun?_eq_none_iff {s : StandIns} {cs : List Char} :
    s.firstRun? cs = .none ↔ ∀ c ∈ cs, s.holds c = false := by
  rw [firstRun?, Option.map_eq_none_iff]
  induction cs with
  | nil => simp
  | cons c cs ih =>
    rw [List.forall_mem_cons]
    cases hc : s.holds c
    · simpa [hc] using ih
    · have hsome : (s.surrogate? c).isSome = true := hc
      simp [hc, ← Option.isSome_iff_ne_none, hsome]

/-! ### The pool -/

theorem poolStart_le_of_mem_free {n : Nat} {cs : List Char} {c : Char} (h : c ∈ free n cs) :
    poolStart ≤ c.toNat := by
  obtain ⟨k, hk, hc⟩ := List.mem_filterMap.mp h
  rw [toNat_of_character? hc]
  exact (List.mem_range'_1.mp (List.mem_filter.mp hk).1).1

theorem poolStart_le_of_holds_apartFrom {codes : List Nat} {cs : List Char} {c : Char}
    (h : (apartFrom codes cs).holds c = true) : poolStart ≤ c.toNat := by
  obtain ⟨p, hp, rfl⟩ := holds_eq_true_iff.mp h
  unfold apartFrom at hp
  split at hp
  · cases hp
  · exact poolStart_le_of_mem_free (List.of_mem_zip hp).2

theorem free_of_forall_lt {n : Nat} {cs : List Char} (h : ∀ c ∈ cs, c.toNat < poolStart) :
    free n cs = (List.range' poolStart n).filterMap character? := by
  have htaken : (cs.map Char.toNat).filter (fun k => decide (poolStart ≤ k)) = [] := by
    simpa using h
  simp [free, htaken]

theorem pairs_apartFrom {codes : List Nat} {cs : List Char} (h : ∀ c ∈ cs, c.toNat < poolStart) :
    (apartFrom codes cs).pairs = codes.eraseDups.zip
      ((List.range' poolStart codes.eraseDups.length).filterMap character?) := by
  unfold apartFrom
  split
  · next hempty => rw [List.isEmpty_iff.mp hempty]; rfl
  · exact congrArg _ (free_of_forall_lt h)

end StandIns

end Remittance.Text
