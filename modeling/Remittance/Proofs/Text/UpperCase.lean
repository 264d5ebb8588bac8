import Remittance.Text.UpperCase

/-! # Upper case is reached at once

What a character goes to in upper case has no other upper-case form: the table has the upper-case
forms of its members, and none of these is a member (`not_mem_cased_of_mem_capitals`). So a text in
upper case stays as it is (`upper_upper`).

The table is compared with itself by two sets of code points. Each of them is taken as a number
whose bits tell the members (`bits`), which makes the comparison that of two numbers. -/

namespace Remittance.Text

/-! ### Sets of code points as numbers -/

/-- The number whose bits tell the members of a list. -/
def bits (ns : List Nat) : Nat :=
  ns.foldr (fun n b => b ||| 1 <<< n) 0

theorem testBit_bits (ns : List Nat) (n : Nat) : (bits ns).testBit n = decide (n ∈ ns) := by
  induction ns with
  | nil => simp [bits]
  | cons m ns ih =>
    have hcons : bits (m :: ns) = bits ns ||| 1 <<< m := rfl
    rw [hcons, Nat.testBit_or, ih, Nat.one_shiftLeft, Nat.testBit_two_pow]
    by_cases hmn : m = n
    · simp [hmn]
    · simp [hmn, Ne.symm hmn]

/-- Numbers without a common bit stand for lists without a common member. -/
theorem not_mem_of_bits {ms ns : List Nat} (h : bits ms &&& bits ns = 0) {n : Nat} (hn : n ∈ ms) :
    n ∉ ns := by
  have hbit : (bits ms &&& bits ns).testBit n = false := by rw [h, Nat.zero_testBit]
  rw [Nat.testBit_and, testBit_bits, testBit_bits, decide_eq_true hn, Bool.true_and] at hbit
  exact of_decide_eq_false hbit

/-! ### The members of the table -/

/-- The members of a run. -/
def CaseRun.members (r : CaseRun) : List Nat :=
  (List.range ((r.last - r.first) / r.step + 1)).map fun k => r.first + r.step * k

theorem CaseRun.mem_members_of_covers {r : CaseRun} {n : Nat} (h : r.covers n = true) :
    n ∈ r.members := by
  simp only [covers, Bool.and_eq_true, decide_eq_true_eq, beq_iff_eq] at h
  obtain ⟨⟨hfirst, hlast⟩, hstep⟩ := h
  have hle : (n - r.first) / r.step ≤ (r.last - r.first) / r.step :=
    Nat.div_le_div_right (by omega)
  have hmul : r.step * ((n - r.first) / r.step) = n - r.first :=
    Nat.mul_div_cancel' (Nat.dvd_of_mod_eq_zero hstep)
  refine List.mem_map.mpr ⟨(n - r.first) / r.step, List.mem_range.mpr (by omega), ?_⟩
  rw [hmul]; omega

/-- The code points with an upper-case form of their own. -/
def cased : List Nat :=
  shifts.flatMap CaseRun.members ++ expansions.map (·.1)

/-- The code points of the upper-case forms. -/
def capitals : List Nat :=
  (shifts.flatMap fun r => r.members.map r.upper) ++ expansions.flatMap (·.2)

/-- **No upper-case form in the table is a member of the table.** -/
theorem not_mem_cased_of_mem_capitals {n : Nat} (h : n ∈ capitals) : n ∉ cased := by
  have hbits : bits capitals &&& bits cased = 0 := by decide +kernel
  exact not_mem_of_bits hbits h

theorem isValidChar_of_mem_capitals : ∀ n ∈ capitals, n.isValidChar := by decide +kernel

theorem mem_cased_of_covers {r : CaseRun} (hr : r ∈ shifts) {n : Nat} (h : r.covers n = true) :
    n ∈ cased :=
  List.mem_append_left _ (List.mem_flatMap.mpr ⟨r, hr, CaseRun.mem_members_of_covers h⟩)

theorem upper_mem_capitals_of_covers {r : CaseRun} (hr : r ∈ shifts) {n : Nat}
    (h : r.covers n = true) : r.upper n ∈ capitals := by
  refine List.mem_append_left _ (List.mem_flatMap.mpr ⟨r, hr, ?_⟩)
  exact List.mem_map_of_mem (CaseRun.mem_members_of_covers h)

theorem of_tabledUpper? {n : Nat} {ns : List Nat} (h : tabledUpper? n = some ns) :
    n ∈ cased ∧ ∀ m ∈ ns, m ∈ capitals := by
  unfold tabledUpper? at h
  split at h
  · next r hr =>
    have hmem := List.mem_of_find?_eq_some hr
    have hcovers : r.covers n = true := by simpa using List.find?_some hr
    cases h
    refine ⟨mem_cased_of_covers hmem hcovers, fun m hm => ?_⟩
    rw [List.mem_singleton.mp hm]
    exact upper_mem_capitals_of_covers hmem hcovers
  · obtain ⟨before, after, hsplit, -⟩ := List.lookup_eq_some_iff.mp h
    have hmem : (n, ns) ∈ expansions := by rw [hsplit]; simp
    refine ⟨List.mem_append_right _ (List.mem_map.mpr ⟨_, hmem, rfl⟩), fun m hm => ?_⟩
    exact List.mem_append_right _ (List.mem_flatMap.mpr ⟨_, hmem, hm⟩)

theorem tabledUpper?_eq_none {n : Nat} (h : n ∉ cased) : tabledUpper? n = none := by
  cases hns : tabledUpper? n with
  | none => rfl
  | some ns => exact absurd (of_tabledUpper? hns).1 h

/-! ### Characters and texts -/

/-- The run of the lower-case ASCII letters. -/
def asciiRun : CaseRun := ⟨0x61, 0x7A, 1, -32⟩

theorem asciiRun_mem : asciiRun ∈ shifts := List.mem_cons_self

theorem covers_asciiRun {c : Char} (h : 'a' ≤ c ∧ c ≤ 'z') : asciiRun.covers c.toNat = true := by
  have hfirst : 0x61 ≤ c.toNat := h.1
  have hlast : c.toNat ≤ 0x7A := h.2
  simp [CaseRun.covers, asciiRun, hfirst, hlast, Nat.mod_one]

theorem upperChar_of_not_mem_cased {c : Char} (h : c.toNat ∉ cased) : upperChar c = [c] := by
  unfold upperChar
  split
  · split
    · next hletter => exact absurd (mem_cased_of_covers asciiRun_mem (covers_asciiRun hletter)) h
    · rfl
  · rw [tabledUpper?_eq_none h]

theorem upperChar_cases (c : Char) :
    upperChar c = [c] ∨
      ∃ ns : List Nat, (∀ n ∈ ns, n ∈ capitals) ∧ upperChar c = ns.map Char.ofNat := by
  unfold upperChar
  split
  · split
    · next hletter =>
      have hupper : asciiRun.upper c.toNat = c.toNat - 0x20 := by
        simp only [CaseRun.upper, asciiRun]; omega
      refine .inr ⟨[c.toNat - 0x20], fun n hn => ?_, rfl⟩
      rw [List.mem_singleton.mp hn, ← hupper]
      exact upper_mem_capitals_of_covers asciiRun_mem (covers_asciiRun hletter)
    · exact .inl rfl
  · cases hns : tabledUpper? c.toNat with
    | none => exact .inl rfl
    | some ns => exact .inr ⟨ns, (of_tabledUpper? hns).2, rfl⟩

theorem toNat_ofNat_of_isValidChar {n : Nat} (h : n.isValidChar) : (Char.ofNat n).toNat = n := by
  rw [Char.ofNat, dif_pos h]
  rfl

/-- **Upper case is reached at once**: what a character goes to goes to itself. -/
theorem upperChar_of_mem_upperChar {c d : Char} (h : d ∈ upperChar c) : upperChar d = [d] := by
  rcases upperChar_cases c with hself | ⟨ns, hns, hupper⟩
  · rw [hself] at h
    rw [List.mem_singleton.mp h, hself]
  · rw [hupper] at h
    obtain ⟨n, hn, rfl⟩ := List.mem_map.mp h
    have hcapital := hns n hn
    apply upperChar_of_not_mem_cased
    rw [toNat_ofNat_of_isValidChar (isValidChar_of_mem_capitals n hcapital)]
    exact not_mem_cased_of_mem_capitals hcapital

theorem upperChars_eq_self {cs : List Char} (h : ∀ c ∈ cs, upperChar c = [c]) :
    upperChars cs = cs := by
  induction cs with
  | nil => rfl
  | cons c cs ih =>
    rw [upperChars, List.flatMap_cons, h c List.mem_cons_self, ← upperChars,
      ih fun d hd => h d (List.mem_cons_of_mem c hd)]
    rfl

/-- **A text in upper case stays as it is.** -/
theorem upper_upper (s : String) : upper (upper s) = upper s := by
  have hfixed : upperChars (upperChars s.toList) = upperChars s.toList := by
    refine upperChars_eq_self fun d hd => ?_
    obtain ⟨c, -, hc⟩ := List.mem_flatMap.mp hd
    exact upperChar_of_mem_upperChar hc
  unfold upper
  rw [String.toList_ofList, hfixed]

end Remittance.Text
