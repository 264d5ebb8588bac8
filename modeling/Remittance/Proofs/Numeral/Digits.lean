import Mathlib.Algebra.Group.Nat.Defs
import Mathlib.Data.List.TakeWhile
import Remittance.Numeral.Whole
import Remittance.Proofs.Text.Words

/-! # Runs of ASCII digits

A run of ASCII digits has a value (`plain?_eq_some_iff`) below the power of ten of its length
(`ofDigits_lt`), which is zero only for a run of zeros (`ofDigits_eq_zero_iff`). A reader of whole
numbers in any script, with spaces, sign and underscores, reads such a run as the same number
(`whole_of_plain?`). -/

namespace Remittance

namespace Text

theorem isAsciiDigit_iff {c : Char} : isAsciiDigit c = true ↔ 0x30 ≤ c.toNat ∧ c.toNat ≤ 0x39 := by
  rw [isAsciiDigit, Bool.and_eq_true, decide_eq_true_eq, decide_eq_true_eq]
  exact Iff.rfl

theorem asciiDigitValue_lt {c : Char} (h : isAsciiDigit c = true) : asciiDigitValue c < 10 := by
  rw [isAsciiDigit_iff] at h
  unfold asciiDigitValue; omega

theorem eq_zero_of_asciiDigitValue {c : Char} (h : isAsciiDigit c = true)
    (h0 : asciiDigitValue c = 0) : c = '0' := by
  rw [isAsciiDigit_iff] at h
  unfold asciiDigitValue at h0
  have : c.toNat = 0x30 := by omega
  rw [← Char.ofNat_toNat c, this]

theorem digitValue?_of_isAsciiDigit {c : Char} (h : isAsciiDigit c = true) :
    digitValue? c = some (asciiDigitValue c) := by
  rw [isAsciiDigit_iff] at h
  unfold digitValue? zeros
  rw [List.find?_cons_of_pos (by simp only [Bool.and_eq_true, decide_eq_true_eq]; omega)]
  rfl

theorem isSpace_of_isAsciiDigit {c : Char} (h : isAsciiDigit c = true) : isSpace c = false := by
  rw [isAsciiDigit_iff] at h
  have hblank : isBlank c = false := isBlank_of_visible (by omega) (by omega)
  rw [← Bool.not_eq_true] at hblank ⊢
  exact fun hspace => hblank (isBlank_of_isSpace hspace)

theorem trimBy_of_forall_not {p : Char → Bool} {cs : List Char} (h : ∀ c ∈ cs, p c = false) :
    trimBy p cs = cs := by
  have hdrop : ∀ ds : List Char, (∀ c ∈ ds, p c = false) → ds.dropWhile p = ds := by
    intro ds hds
    cases ds with
    | nil => rfl
    | cons d ds => rw [List.dropWhile_cons_of_neg (by rw [hds d (by simp)]; exact Bool.false_ne_true)]
  rw [trimBy, hdrop cs h, hdrop cs.reverse fun c hc => h c (List.mem_reverse.mp hc),
    List.reverse_reverse]

end Text

namespace Numeral

/-! ### The value of a run -/

theorem foldl_digits_lt : ∀ (ds : List Nat) (n : Nat), (∀ d ∈ ds, d < 10) →
    ds.foldl (fun n d => 10 * n + d) n < (n + 1) * 10 ^ ds.length
  | [], n, _ => by simp
  | d :: ds, n, h => by
    have hd : d < 10 := h d (by simp)
    have ih := foldl_digits_lt ds (10 * n + d) fun x hx => h x (List.mem_cons_of_mem d hx)
    calc ds.foldl (fun n d => 10 * n + d) (10 * n + d)
        < (10 * n + d + 1) * 10 ^ ds.length := ih
      _ ≤ ((n + 1) * 10) * 10 ^ ds.length := Nat.mul_le_mul_right _ (by omega)
      _ = (n + 1) * 10 ^ (d :: ds).length := by
        rw [List.length_cons, Nat.pow_succ, Nat.mul_assoc, Nat.mul_comm 10]

theorem ofDigits_lt {ds : List Nat} (h : ∀ d ∈ ds, d < 10) : ofDigits ds < 10 ^ ds.length := by
  have := foldl_digits_lt ds 0 h
  rwa [Nat.zero_add, Nat.one_mul] at this

theorem foldl_digits_eq_zero : ∀ (ds : List Nat) (n : Nat),
    ds.foldl (fun n d => 10 * n + d) n = 0 ↔ n = 0 ∧ ∀ d ∈ ds, d = 0
  | [], n => by simp
  | d :: ds, n => by
    rw [List.foldl_cons, foldl_digits_eq_zero ds, List.forall_mem_cons, ← and_assoc]
    refine and_congr_left fun _ => ?_
    omega

theorem ofDigits_eq_zero_iff {ds : List Nat} : ofDigits ds = 0 ↔ ∀ d ∈ ds, d = 0 := by
  rw [ofDigits, foldl_digits_eq_zero, and_iff_right rfl]

theorem mapM_asciiDigit? (cs : List Char) : cs.mapM asciiDigit? =
    if cs.all Text.isAsciiDigit then some (cs.map Text.asciiDigitValue) else none := by
  induction cs with
  | nil => rfl
  | cons c cs ih =>
    rw [List.mapM_cons, ih, asciiDigit?, List.all_cons]
    cases Text.isAsciiDigit c
    · rfl
    · cases cs.all Text.isAsciiDigit <;> rfl

theorem plain?_eq_some_iff {cs : List Char} {n : Nat} :
    plain? cs = some n ↔ (∀ c ∈ cs, Text.isAsciiDigit c = true) ∧
      ofDigits (cs.map Text.asciiDigitValue) = n := by
  rw [plain?, mapM_asciiDigit?, ← List.all_eq_true]
  cases cs.all Text.isAsciiDigit <;> simp

theorem lt_of_plain? {cs : List Char} {n : Nat} (h : plain? cs = some n) : n < 10 ^ cs.length := by
  obtain ⟨hcs, rfl⟩ := plain?_eq_some_iff.mp h
  have hlen : (cs.map Text.asciiDigitValue).length = cs.length := List.length_map _
  rw [← hlen]
  refine ofDigits_lt fun d hd => ?_
  obtain ⟨c, hc, rfl⟩ := List.mem_map.mp hd
  exact Text.asciiDigitValue_lt (hcs c hc)

theorem eq_replicate_of_plain?_zero {cs : List Char} (h : plain? cs = some 0) :
    cs = List.replicate cs.length '0' := by
  obtain ⟨hcs, h0⟩ := plain?_eq_some_iff.mp h
  rw [ofDigits_eq_zero_iff] at h0
  refine List.eq_replicate_of_mem fun c hc => ?_
  exact Text.eq_zero_of_asciiDigitValue (hcs c hc) (h0 _ (List.mem_map_of_mem hc))

/-! ### The same run as a whole number -/

theorem groupedDigits?_of_isAsciiDigit {cs : List Char} (hne : cs ≠ [])
    (h : ∀ c ∈ cs, Text.isAsciiDigit c = true) :
    groupedDigits? Text.digitValue? cs = some (cs.map Text.asciiDigitValue) := by
  fun_induction groupedDigits? Text.digitValue? cs with
  | case1 => exact absurd rfl hne
  | case2 c => rw [Text.digitValue?_of_isAsciiDigit (h c (by simp))]; rfl
  | case3 c cs ih =>
    have := h '_' (by simp)
    exact absurd this (by decide)
  | case4 c cs hcs hus ih =>
    rw [Text.digitValue?_of_isAsciiDigit (h c (by simp)),
      ih (fun hnil => hcs (by rw [hnil])) fun x hx => h x (List.mem_cons_of_mem c hx)]
    rfl

/-- **A run of ASCII digits is a whole number of the same value.** -/
theorem whole_of_plain? {cs : List Char} {n : Nat} (hne : cs ≠ []) (hlen : cs.length ≤ digitLimit)
    (h : plain? cs = some n) : whole (String.ofList cs) = .ok n := by
  obtain ⟨hcs, rfl⟩ := plain?_eq_some_iff.mp h
  have htrim : Text.trimBy Text.isSpace cs = cs :=
    Text.trimBy_of_forall_not fun c hc => Text.isSpace_of_isAsciiDigit (hcs c hc)
  have hrun : ∀ c ∈ cs, inRun c = true := by
    intro c hc
    rw [inRun, Text.digitValue?_of_isAsciiDigit (hcs c hc), Option.isSome_some, Bool.or_true]
  have hplus : cs.head? ≠ some '+' := by
    intro hhead
    exact absurd (hcs '+' (List.mem_of_mem_head? hhead)) (by decide)
  dsimp only [whole]
  rw [String.toList_ofList, htrim, if_neg hplus, List.takeWhile_eq_self_iff.mpr hrun,
    List.dropWhile_eq_nil_iff.mpr hrun, groupedDigits?_of_isAsciiDigit hne hcs]
  dsimp only
  rw [List.length_map, if_neg (by omega), if_pos rfl]

end Numeral

end Remittance
