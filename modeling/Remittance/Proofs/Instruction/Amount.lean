import Remittance.Proofs.Instruction.Field
import Remittance.Proofs.Numeral.Decimal

/-! # What an amount is

A decimal numeral with an optional sign (`Numeral.Signed`) denotes an integer. A token is an amount if
and only if it is such a numeral of a positive integer with at most `digitLimit` digits
(`Field.amount_eq_ok_iff_signed`); so the decimal numeral of every positive number that has no more
digits is read as this number, with a plus or without (`Field.amount_ofNat`). The digits are
counted with the zeros in front, which is why a numeral may be refused for the zeros that fill it up
(`Field.amount_filledOne`). -/

namespace Remittance

namespace Numeral

/-- The sign of a numeral. -/
inductive Sign where
  | absent
  | plus
  | minus
  deriving DecidableEq, Repr

namespace Sign

/-- The sign as it is written. -/
def chars : Sign → List Char
  | absent => []
  | plus => ['+']
  | minus => ['-']

/-- The integer with the sign and the absolute value. -/
def apply : Sign → Nat → Int
  | absent, n => n
  | plus, n => n
  | minus, n => -n

theorem ne_minus_of_apply_pos {s : Sign} {n : Nat} (h : 0 < s.apply n) : s ≠ minus := by
  rintro rfl
  have hneg : -(n : Int) > 0 := h
  omega

theorem apply_of_ne_minus {s : Sign} (h : s ≠ minus) (n : Nat) : s.apply n = n := by
  cases s with
  | absent => rfl
  | plus => rfl
  | minus => exact absurd rfl h

end Sign

/-- A decimal numeral: an optional sign and one or more digits. -/
structure Signed where
  sign : Sign
  digits : List Char
  ne_nil : digits ≠ []
  isDigit : ∀ c ∈ digits, Text.isAsciiDigit c = true

namespace Signed

/-- The numeral as it is written. -/
def chars (s : Signed) : List Char :=
  s.sign.chars ++ s.digits

/-- The integer that the numeral denotes. -/
def value (s : Signed) : Int :=
  s.sign.apply (Nat.ofDigitChars 10 s.digits 0)

/-- The decimal numeral of a number, with zeros in front. -/
def ofNat (sign : Sign) (k n : Nat) : Signed where
  sign := sign
  digits := List.replicate k '0' ++ Nat.toDigits 10 n
  ne_nil := by simp [Nat.toDigits_ne_nil]
  isDigit := (plain?_eq_some_iff.mp (plain?_zeros_toDigits k n)).1

theorem value_ofNat (sign : Sign) (k n : Nat) : (ofNat sign k n).value = sign.apply n := by
  have h := (plain?_eq_some_iff_ofDigitChars.mp (plain?_zeros_toDigits k n)).2
  unfold value ofNat
  dsimp only
  rw [h]

theorem length_digits_ofNat (sign : Sign) (k n : Nat) :
    (ofNat sign k n).digits.length = k + (toString n).length := by
  unfold ofNat
  rw [List.length_append, List.length_replicate, length_toString]

end Signed

end Numeral

namespace Field

open Numeral (Sign Signed digitLimit)

variable {token : String}

/-! ### Amounts are numerals -/

theorem amountDigits_of_chars {s : Signed} (htoken : token.toList = s.chars)
    (hsign : s.sign ≠ .minus) : amountDigits token = s.digits := by
  obtain ⟨sign, ds, hne, hds⟩ := s
  unfold amountDigits
  rw [htoken]
  cases sign with
  | absent =>
    obtain ⟨c, ds, rfl⟩ := List.exists_cons_of_ne_nil hne
    have hc : c ≠ '+' := by
      rintro rfl
      exact absurd (hds '+' List.mem_cons_self) (by decide)
    have hhead : ¬ (c :: ds).head? = some '+' := by
      rw [List.head?_cons, Option.some.injEq]
      exact hc
    exact if_neg hhead
  | plus => rfl
  | minus => exact absurd rfl hsign

theorem exists_signed_of_amountDigits (hne : amountDigits token ≠ [])
    (hds : ∀ c ∈ amountDigits token, Text.isAsciiDigit c = true) :
    ∃ s : Signed, token.toList = s.chars ∧ s.sign ≠ .minus ∧ s.digits = amountDigits token := by
  unfold amountDigits at hne hds ⊢
  by_cases hplus : token.toList.head? = some '+'
  · rw [if_pos hplus] at hne hds ⊢
    refine ⟨⟨.plus, token.toList.tail, hne, hds⟩, ?_, by simp, rfl⟩
    exact (List.cons_head?_tail hplus).symm
  · rw [if_neg hplus] at hne hds ⊢
    exact ⟨⟨.absent, token.toList, hne, hds⟩, rfl, by simp, rfl⟩

/-- **An amount is a numeral** of a positive integer with at most `digitLimit` digits. -/
theorem amount_eq_ok_iff_signed {a : Amount} : amount token = .ok a ↔
    ∃ s : Signed, token.toList = s.chars ∧ s.digits.length ≤ digitLimit ∧ s.value = a.value := by
  rw [amount_eq_ok_iff, Numeral.ofDigits_map_asciiDigitValue]
  constructor
  · rintro ⟨hne, hds, hlen, hvalue⟩
    obtain ⟨s, htoken, hsign, hdigits⟩ := exists_signed_of_amountDigits hne hds
    refine ⟨s, htoken, hdigits ▸ hlen, ?_⟩
    unfold Signed.value
    rw [Sign.apply_of_ne_minus hsign, hdigits, hvalue]
  · rintro ⟨s, htoken, hlen, hvalue⟩
    have hpos : 0 < s.value := by
      have := a.pos
      omega
    have hsign := Sign.ne_minus_of_apply_pos hpos
    unfold Signed.value at hvalue
    rw [Sign.apply_of_ne_minus hsign] at hvalue
    rw [amountDigits_of_chars htoken hsign]
    exact ⟨s.ne_nil, s.isDigit, hlen, by omega⟩

theorem amount_eq_error_iff {r : Reason} : amount token = .error r ↔
    r = .invalidAmount ∧ ¬ ∃ s : Signed, token.toList = s.chars ∧ s.digits.length ≤ digitLimit ∧
      0 < s.value := by
  constructor
  · intro h
    refine ⟨amount_eq_error h, ?_⟩
    rintro ⟨s, htoken, hlen, hpos⟩
    have hok : amount token = .ok ⟨s.value.toNat, by omega⟩ :=
      amount_eq_ok_iff_signed.mpr ⟨s, htoken, hlen, by dsimp only; omega⟩
    rw [hok] at h
    cases h
  · rintro ⟨rfl, hno⟩
    cases h : amount token with
    | error r => rw [amount_eq_error h]
    | ok a =>
      obtain ⟨s, htoken, hlen, hvalue⟩ := amount_eq_ok_iff_signed.mp h
      have hpos := a.pos
      exact absurd ⟨s, htoken, hlen, by omega⟩ hno

theorem amount_ofNat {sign : Sign} {k n : Nat} (hn : 0 < n) (hsign : sign ≠ .minus)
    (hlen : k + (toString n).length ≤ digitLimit)
    (htoken : token.toList = (Signed.ofNat sign k n).chars) : amount token = .ok ⟨n, hn⟩ := by
  refine amount_eq_ok_iff_signed.mpr ⟨_, htoken, ?_, ?_⟩
  · rw [Signed.length_digits_ofNat]
    exact hlen
  · rw [Signed.value_ofNat, Sign.apply_of_ne_minus hsign]

/-- A one behind as many zeros as an amount may have digits. -/
def filledOne : String :=
  String.ofList (List.replicate digitLimit '0' ++ ['1'])

theorem toList_filledOne : filledOne.toList = (Signed.ofNat .absent digitLimit 1).chars := by
  unfold filledOne
  rw [String.toList_ofList]
  rfl

/-- **Zeros in front count as digits**: with too many of them even a one is refused. -/
theorem amount_filledOne :
    filledOne.toList = (Signed.ofNat .absent digitLimit 1).chars ∧
      (Signed.ofNat .absent digitLimit 1).value = 1 ∧ 1 < 10 ^ digitLimit ∧
      amount filledOne = .error .invalidAmount := by
  have hlimit : digitLimit ≠ 0 := by decide
  refine ⟨toList_filledOne, Signed.value_ofNat _ _ _, Nat.one_lt_pow hlimit (by omega), ?_⟩
  cases h : amount filledOne with
  | error r => rw [amount_eq_error h]
  | ok a =>
    obtain ⟨-, -, hlen, -⟩ := amount_eq_ok_iff.mp h
    have hsign : Sign.absent ≠ .minus := by decide
    have hone : (toString 1).length = 1 := rfl
    rw [amountDigits_of_chars toList_filledOne hsign, Signed.length_digits_ofNat, hone] at hlen
    omega

/-- The token is a numeral of the integer, with no more digits than are converted. -/
def Denotes (token : Option String) (n : Int) : Prop :=
  ∃ s : Signed, token.map String.toList = some s.chars ∧ s.digits.length ≤ digitLimit ∧ s.value = n

/-- What is missing is no numeral, and neither is an empty token. -/
theorem denotes_iff {token : Option String} {n : Int} : Denotes token n ↔
    ∃ s : Signed, (token.getD "").toList = s.chars ∧ s.digits.length ≤ digitLimit ∧
      s.value = n := by
  unfold Denotes
  cases token with
  | some token => simp
  | none =>
    constructor
    · rintro ⟨s, htoken, -⟩
      cases htoken
    · rintro ⟨s, htoken, -⟩
      have hnil : s.sign.chars ++ s.digits = [] := htoken.symm
      exact absurd (List.append_eq_nil_iff.mp hnil).2 s.ne_nil

/-- **What an amount is.** A token is read as a number if and only if it is a decimal numeral of this
number with an optional sign, the number is positive and the numeral has at most 4300 digits, those
zeros included that stand in front; any other token and a missing one are refused as no amount. So
every positive number of at most 4300 digits is read from its decimal numeral, with a plus or without
it, and with zeros in front as long as there are no more digits in all. -/
theorem amount_numerals :
    (∀ (token : Option String) (a : Amount),
      Reader.ofMissing amount token = .ok a ↔ Denotes token a.value) ∧
    (∀ (token : Option String) (r : Reason), Reader.ofMissing amount token = .error r ↔
      r = .invalidAmount ∧ ∀ n, Denotes token n → n ≤ 0) ∧
    Reason.invalidAmount.code = "AM01" ∧ digitLimit = 4300 ∧
    ∀ (n : Nat) (hn : 0 < n), n < 10 ^ digitLimit → (toString n).length ≤ digitLimit ∧
      ∀ k, k + (toString n).length ≤ digitLimit →
        amount (String.ofList (List.replicate k '0') ++ toString n) = .ok ⟨n, hn⟩ ∧
        amount ("+" ++ String.ofList (List.replicate k '0') ++ toString n) = .ok ⟨n, hn⟩ := by
  refine ⟨fun token a => ?_, fun token r => ?_, rfl, rfl, fun n hn hlt => ?_⟩
  · rw [denotes_iff]
    exact amount_eq_ok_iff_signed
  · unfold Reader.ofMissing
    rw [amount_eq_error_iff]
    refine and_congr_right fun _ => ?_
    constructor
    · intro hno n hn
      obtain ⟨s, htoken, hlen, rfl⟩ := denotes_iff.mp hn
      by_contra hpos
      exact hno ⟨s, htoken, hlen, by omega⟩
    · rintro hall ⟨s, htoken, hlen, hpos⟩
      have hle := hall s.value (denotes_iff.mpr ⟨s, htoken, hlen, rfl⟩)
      omega
  · refine ⟨Numeral.length_toString_le (by decide) hlt, fun k hk => ⟨?_, ?_⟩⟩
    · have htoken : (String.ofList (List.replicate k '0') ++ toString n).toList =
          (Signed.ofNat .absent k n).chars := Numeral.toList_zeros_toString k n
      exact amount_ofNat hn (by decide) hk htoken
    · have htoken : ("+" ++ String.ofList (List.replicate k '0') ++ toString n).toList =
          (Signed.ofNat .plus k n).chars := by
        rw [String.append_assoc, String.toList_append, Numeral.toList_zeros_toString]
        rfl
      exact amount_ofNat hn (by decide) hk htoken

/-- Zeros in front of a numeral that is short enough change nothing. -/
theorem amount_numerals_five :
    0 < 5 ∧ amount "+005" = .ok ⟨5, by decide⟩ := by
  obtain ⟨-, -, -, -, hnumeral⟩ := amount_numerals
  have hlt : 5 < 10 ^ digitLimit :=
    calc 5 < 10 ^ 1 := by decide
      _ ≤ 10 ^ digitLimit := Nat.pow_le_pow_right (by decide) (by decide)
  have hlen : 2 + (toString 5).length ≤ digitLimit := by decide
  exact ⟨by decide, ((hnumeral 5 (by decide) hlt).2 2 hlen).2⟩

end Field

end Remittance
