import Remittance.Instruction.Field

/-! # What the field readers accept

Each reader refuses a token for one reason only (`amount_eq_error`, `currency_eq_error`,
`accountId_eq_error`, `date_eq_error`), and what it accepts has the shape that later stages rely on:
an amount is a run of digits, a currency is one of `currencies`, an account id is the token itself
and not empty, and a date is the token itself, with a year, a month and a day in it. -/

namespace Remittance.Field

variable {token : String}

/-! ### Amounts -/

theorem amount_eq_ok_iff {a : Amount} :
    amount token = .ok a ↔ amountDigits token ≠ [] ∧
      (∀ c ∈ amountDigits token, Text.isAsciiDigit c = true) ∧
      (amountDigits token).length ≤ Numeral.digitLimit ∧
      Numeral.ofDigits ((amountDigits token).map Text.asciiDigitValue) = a.value := by
  dsimp only [amount]
  generalize amountDigits token = ds
  split
  · next hbad =>
    constructor
    · intro h; cases h
    · rintro ⟨hne, hall, hlen, -⟩
      rw [Bool.or_eq_true, Bool.or_eq_true, List.isEmpty_iff, Bool.not_eq_true', List.all_eq_false,
        decide_eq_true_eq] at hbad
      rcases hbad with (hnil | ⟨c, hc, hc'⟩) | hlong
      · exact absurd hnil hne
      · exact absurd (hall c hc) hc'
      · exact absurd hlong (Nat.not_lt.mpr hlen)
  · next hgood =>
    rw [Bool.or_eq_true, Bool.or_eq_true, not_or, not_or, List.isEmpty_iff, Bool.not_eq_true,
      Bool.not_eq_false', List.all_eq_true, decide_eq_true_eq, Nat.not_lt] at hgood
    obtain ⟨⟨hne, hall⟩, hlen⟩ := hgood
    split
    · constructor
      · rintro ⟨rfl⟩; exact ⟨hne, hall, hlen, rfl⟩
      · rintro ⟨-, -, -, hvalue⟩
        obtain ⟨n, hn⟩ := a
        cases hvalue; rfl
    · next hzero =>
      constructor
      · intro h; cases h
      · rintro ⟨-, -, -, hvalue⟩
        exact absurd (hvalue ▸ a.pos) hzero

theorem amount_eq_error {r : Reason} (h : amount token = .error r) : r = .invalidAmount := by
  dsimp only [amount] at h
  split at h
  · cases h; rfl
  · split at h
    · cases h
    · cases h; rfl

/-! ### Currencies -/

theorem currency_eq_ok_iff {c : String} :
    currency token = .ok c ↔ c = Text.upper token ∧ c ∈ currencies := by
  unfold currency
  split
  · next hmem =>
    constructor
    · rintro ⟨rfl⟩; exact ⟨rfl, hmem⟩
    · rintro ⟨rfl, -⟩; rfl
  · next hmem =>
    constructor
    · intro h; cases h
    · rintro ⟨rfl, hc⟩; exact absurd hc hmem

theorem currency_eq_error {r : Reason} (h : currency token = .error r) :
    r = .unsupportedCurrency := by
  unfold currency at h
  split at h
  · cases h
  · cases h; rfl

/-! ### Account ids -/

theorem accountId_eq_ok_iff {id : String} :
    accountId token = .ok id ↔
      id = token ∧ token ≠ "" ∧ ∀ c ∈ token.toList, isIdChar c = true := by
  have hempty : token.toList.isEmpty = true ↔ token = "" := by simp
  unfold accountId
  split
  · next hbad =>
    constructor
    · intro h; cases h
    · rintro ⟨-, hne, hall⟩
      rw [Bool.or_eq_true, hempty, Bool.not_eq_true', List.all_eq_false] at hbad
      obtain ⟨c, hc, hc'⟩ := hbad.resolve_left hne
      exact absurd (hall c hc) hc'
  · next hgood =>
    rw [Bool.or_eq_true, not_or, hempty, Bool.not_eq_true, Bool.not_eq_false',
      List.all_eq_true] at hgood
    constructor
    · rintro ⟨rfl⟩; exact ⟨rfl, hgood⟩
    · rintro ⟨rfl, -⟩; rfl

theorem accountId_eq_error {r : Reason} (h : accountId token = .error r) :
    r = .invalidAccountId := by
  unfold accountId at h
  split at h
  · cases h; rfl
  · cases h

theorem visible_of_isIdChar {c : Char} (h : isIdChar c = true) :
    0x21 ≤ c.toNat ∧ c.toNat ≤ 0x7E := by
  simp only [isIdChar, Bool.or_eq_true, beq_iff_eq] at h
  rcases h with ((h | rfl) | rfl) | rfl
  · have hranges : ((decide ('A'.val ≤ c.val ∧ c.val ≤ 'Z'.val) ||
        (decide ('a'.val ≤ c.val) && decide (c.val ≤ 'z'.val))) ||
        (decide ('0'.val ≤ c.val) && decide (c.val ≤ '9'.val))) = true := h
    simp only [Bool.or_eq_true, Bool.and_eq_true, decide_eq_true_eq, UInt32.le_iff_toNat_le,
      Char.reduceVal, UInt32.reduceToNat] at hranges
    have hval : c.toNat = c.val.toNat := rfl
    omega
  · decide
  · decide
  · decide

theorem visible_of_accountId {id : String} (h : accountId token = .ok id) :
    ∀ c ∈ token.toList, 0x21 ≤ c.toNat ∧ c.toNat ≤ 0x7E :=
  fun c hc => visible_of_isIdChar ((accountId_eq_ok_iff.mp h).2.2 c hc)

/-! ### Dates -/

theorem date_eq_ok_iff {d : String} :
    date token = .ok d ↔ d = token ∧ ∃ year month day, dateParts? token = some (year, month, day) ∧
      1 ≤ month ∧ month ≤ 12 ∧ 1 ≤ day ∧ day ≤ 31 := by
  unfold date
  rcases dateParts? token with _ | ⟨year, month, day⟩
  · simp
  · dsimp only
    split
    · next hb =>
      constructor
      · rintro ⟨rfl⟩; exact ⟨rfl, year, month, day, rfl, hb⟩
      · rintro ⟨rfl, -⟩; rfl
    · next hb =>
      constructor
      · intro h; cases h
      · rintro ⟨-, y, m, d, ⟨⟩, hb'⟩; exact absurd hb' hb

theorem date_eq_error {r : Reason} (h : date token = .error r) : r = .invalidDate := by
  unfold date at h
  split at h
  · split at h
    · cases h
    · cases h; rfl
  · cases h; rfl

end Remittance.Field
