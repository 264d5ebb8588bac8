import Mathlib.Algebra.Order.Ring.Nat
import Remittance.Proofs.Numeral.Digits

/-! # Decimal numerals

A run of ASCII digits denotes what the standard library takes it for (`plain?_eq_some_iff_ofDigitChars`),
and so do the decimal numeral of a number and any zeros in front of it (`plain?_zeros_toDigits`). Of
two runs of one length the first digit in which they differ tells which number is the smaller one
(`lt_iff_of_plain?`): their order as texts is that of their numbers, and a run is told by its length
and its number (`eq_of_plain?`). -/

namespace Remittance

/-! ### The order of texts -/

namespace Text

theorem append_lt_append_iff {cs ds rs ss : List Char} (h : cs.length = ds.length) :
    cs ++ rs < ds ++ ss ↔ cs < ds ∨ (cs = ds ∧ rs < ss) := by
  induction cs generalizing ds with
  | nil =>
    have hds : ds = [] := List.length_eq_zero_iff.mp h.symm
    subst hds
    simp
  | cons c cs ih =>
    obtain ⟨d, ds, rfl⟩ := List.exists_cons_of_length_eq_add_one h.symm
    have hlen : cs.length = ds.length := by simpa using h
    rw [List.cons_append, List.cons_append, List.cons_lt_cons_iff, List.cons_lt_cons_iff, ih hlen,
      List.cons.injEq]
    constructor
    · rintro (hlt | ⟨heq, hlt | ⟨heq', hlt⟩⟩)
      · exact .inl (.inl hlt)
      · exact .inl (.inr ⟨heq, hlt⟩)
      · exact .inr ⟨⟨heq, heq'⟩, hlt⟩
    · rintro ((hlt | ⟨heq, hlt⟩) | ⟨⟨heq, heq'⟩, hlt⟩)
      · exact .inl hlt
      · exact .inr ⟨heq, .inl hlt⟩
      · exact .inr ⟨heq, .inr ⟨heq', hlt⟩⟩

theorem isAsciiDigit_eq_isDigit (c : Char) : isAsciiDigit c = c.isDigit := by
  rw [Bool.eq_iff_iff, isAsciiDigit_iff, Char.isDigit_iff_toNat]
  exact Iff.rfl

theorem lt_iff_asciiDigitValue_lt {c d : Char} (hc : isAsciiDigit c = true)
    (hd : isAsciiDigit d = true) : c < d ↔ asciiDigitValue c < asciiDigitValue d := by
  have hlt : c < d ↔ c.toNat < d.toNat := Iff.rfl
  rw [isAsciiDigit_iff] at hc hd
  rw [hlt]
  unfold asciiDigitValue
  omega

theorem eq_iff_asciiDigitValue_eq {c d : Char} (hc : isAsciiDigit c = true)
    (hd : isAsciiDigit d = true) : c = d ↔ asciiDigitValue c = asciiDigitValue d := by
  refine ⟨fun h => by rw [h], fun h => ?_⟩
  rw [isAsciiDigit_iff] at hc hd
  unfold asciiDigitValue at h
  have hval : c.toNat = d.toNat := by omega
  rw [← Char.ofNat_toNat c, hval, Char.ofNat_toNat]

end Text

namespace Numeral

/-! ### The number of a numeral -/

theorem ofDigits_map_asciiDigitValue (cs : List Char) :
    ofDigits (cs.map Text.asciiDigitValue) = Nat.ofDigitChars 10 cs 0 := by
  rw [ofDigits, List.foldl_map]
  rfl

theorem plain?_eq_some_iff_ofDigitChars {cs : List Char} {n : Nat} :
    plain? cs = some n ↔
      (∀ c ∈ cs, Text.isAsciiDigit c = true) ∧ Nat.ofDigitChars 10 cs 0 = n := by
  rw [plain?_eq_some_iff, ofDigits_map_asciiDigitValue]

theorem toList_zeros_toString (k n : Nat) :
    (String.ofList (List.replicate k '0') ++ toString n).toList =
      List.replicate k '0' ++ Nat.toDigits 10 n := by
  rw [Nat.toString_eq_ofList_toDigits, String.toList_append, String.toList_ofList,
    String.toList_ofList]

theorem length_toString (n : Nat) : (toString n).length = (Nat.toDigits 10 n).length := by
  rw [Nat.toString_eq_ofList_toDigits, String.length_ofList]

theorem length_toString_le {n k : Nat} (hk : 0 < k) (h : n < 10 ^ k) : (toString n).length ≤ k := by
  rw [length_toString]
  exact (Nat.length_toDigits_le_iff (by omega) hk).mpr h

/-- **The decimal numeral of a number, with any zeros in front of it, denotes the number.** -/
theorem plain?_zeros_toDigits (k n : Nat) :
    plain? (List.replicate k '0' ++ Nat.toDigits 10 n) = some n := by
  refine plain?_eq_some_iff_ofDigitChars.mpr ⟨fun c hc => ?_, ?_⟩
  · rcases List.mem_append.mp hc with hc | hc
    · rw [List.eq_of_mem_replicate hc]
      rfl
    · rw [Text.isAsciiDigit_eq_isDigit]
      exact Nat.isDigit_of_mem_toDigits (by omega) (by omega) hc
  · rw [Nat.ofDigitChars_append, Nat.ofDigitChars_replicate_zero, Nat.mul_zero,
      Nat.ofDigitChars_ten_toDigits]

/-- The first digit of a run counts the powers of ten of the rest. -/
theorem plain?_cons {c : Char} {cs : List Char} {n : Nat} :
    plain? (c :: cs) = some n ↔ Text.isAsciiDigit c = true ∧
      ∃ r, plain? cs = some r ∧ Text.asciiDigitValue c * 10 ^ cs.length + r = n := by
  have hvalue : Nat.ofDigitChars 10 (c :: cs) 0 =
      Text.asciiDigitValue c * 10 ^ cs.length + Nat.ofDigitChars 10 cs 0 := by
    rw [Nat.ofDigitChars_cons, Nat.ofDigitChars_eq_ofDigitChars_zero, Nat.mul_zero, Nat.zero_add,
      Nat.mul_comm]
    rfl
  rw [plain?_eq_some_iff_ofDigitChars, List.forall_mem_cons, hvalue]
  constructor
  · rintro ⟨⟨hc, hcs⟩, rfl⟩
    exact ⟨hc, _, plain?_eq_some_iff_ofDigitChars.mpr ⟨hcs, rfl⟩, rfl⟩
  · rintro ⟨hc, r, hr, rfl⟩
    obtain ⟨hcs, rfl⟩ := plain?_eq_some_iff_ofDigitChars.mp hr
    exact ⟨⟨hc, hcs⟩, rfl⟩

/-! ### The order of runs -/

theorem mul_add_lt_mul_add_iff {a b p r s : Nat} (hr : r < p) (hs : s < p) :
    a * p + r < b * p + s ↔ a < b ∨ (a = b ∧ r < s) := by
  rcases Nat.lt_trichotomy a b with hab | rfl | hab
  · have hle : (a + 1) * p ≤ b * p := Nat.mul_le_mul_right p hab
    rw [Nat.add_mul, Nat.one_mul] at hle
    omega
  · omega
  · have hle : (b + 1) * p ≤ a * p := Nat.mul_le_mul_right p hab
    rw [Nat.add_mul, Nat.one_mul] at hle
    omega

/-- **Runs of one length are ordered as their numbers.** -/
theorem lt_iff_of_plain? {cs ds : List Char} {m n : Nat} (hlen : cs.length = ds.length)
    (hm : plain? cs = some m) (hn : plain? ds = some n) : cs < ds ↔ m < n := by
  induction cs generalizing ds m n with
  | nil =>
    have hds : ds = [] := List.length_eq_zero_iff.mp hlen.symm
    subst hds
    cases hm; cases hn
    simp
  | cons c cs ih =>
    obtain ⟨d, ds, rfl⟩ := List.exists_cons_of_length_eq_add_one hlen.symm
    have hlen' : cs.length = ds.length := by simpa using hlen
    obtain ⟨hc, r, hr, rfl⟩ := plain?_cons.mp hm
    obtain ⟨hd, s, hs, rfl⟩ := plain?_cons.mp hn
    have hr' : r < 10 ^ ds.length := hlen' ▸ lt_of_plain? hr
    rw [List.cons_lt_cons_iff, ih hlen' hr hs, Text.lt_iff_asciiDigitValue_lt hc hd,
      Text.eq_iff_asciiDigitValue_eq hc hd, hlen', mul_add_lt_mul_add_iff hr' (lt_of_plain? hs)]

/-- **A run is told by its length and its number.** -/
theorem eq_of_plain? {cs ds : List Char} {n : Nat} (hlen : cs.length = ds.length)
    (hcs : plain? cs = some n) (hds : plain? ds = some n) : cs = ds := by
  have hnot : ¬ cs < ds := by
    rw [lt_iff_of_plain? hlen hcs hds]
    omega
  have hnot' : ¬ ds < cs := by
    rw [lt_iff_of_plain? hlen.symm hds hcs]
    omega
  exact List.le_antisymm (List.not_lt.mp hnot') (List.not_lt.mp hnot)

end Numeral

end Remittance
