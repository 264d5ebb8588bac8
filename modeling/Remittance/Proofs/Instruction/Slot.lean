import Remittance.Instruction.Sentence

/-! # The slots of a sentence

A sentence is a row of slots, one token each: `Form.layout` lists those of a form without its date,
and `Sentence.slots` adds the date's clause where the tokens have one. A slot takes or refuses its
token by that token alone (`Slot.fits`), and each slot has one reason for refusing (`Slot.reason`).

`Slot.firstMishap?` goes along the slots and stops at the first that its token does not fit; a token
that is missing counts as a wrong keyword, or else as the end of the sentence.
`firstMishap?_eq_some_iff` says the same with positions. -/

namespace Remittance

/-- What one token of a sentence has to be. -/
inductive Slot where
  | keyword (word : String)
  | amount
  | currency
  | accountId
  | date
  deriving DecidableEq, Repr

namespace Slot

/-- Whether a token fits the slot. -/
def fits : Slot → String → Bool
  | keyword word, token => Text.upper token == word
  | amount, token => (Field.amount token).isOk
  | currency, token => (Field.currency token).isOk
  | accountId, token => (Field.accountId token).isOk
  | date, token => (Field.date token).isOk

/-- The reason for which the slot refuses a token. -/
def reason : Slot → Reason
  | keyword _ => .keywordOrder
  | amount => .invalidAmount
  | currency => .unsupportedCurrency
  | accountId => .invalidAccountId
  | date => .invalidDate

/-- **The codes for which slots refuse their tokens.** -/
theorem code_reason (s : Slot) : s.reason.code =
    match s with
    | keyword _ => "SY02"
    | amount => "AM01"
    | currency => "CU02"
    | accountId => "AC04"
    | date => "DT01" := by
  cases s <;> exact Reason.code_eq _

/-- What happens at the slot when no token is left. -/
def missing : Slot → Mishap
  | keyword _ => .refused .keywordOrder
  | _ => .exhausted

/-- What goes wrong at the slot with the token there, if any. -/
def mishap? (s : Slot) : Option String → Option Mishap
  | some token => if s.fits token then none else some (.refused s.reason)
  | none => some s.missing

/-- What goes wrong first when the tokens are put into the slots. -/
def firstMishap? : List Slot → List String → Option Mishap
  | [], _ => none
  | s :: ss, ts => (s.mishap? ts.head?).or (firstMishap? ss ts.tail)

theorem mishap?_eq_some_iff {s : Slot} {token : String} {m : Mishap} :
    s.mishap? (some token) = some m ↔ s.fits token = false ∧ m = .refused s.reason := by
  rw [mishap?]
  cases s.fits token
  · rw [if_neg Bool.false_ne_true, Option.some_inj, eq_comm, and_iff_right rfl]
  · simp

theorem mishap?_eq_none_iff {s : Slot} {token : String} :
    s.mishap? (some token) = none ↔ s.fits token = true := by
  rw [mishap?]
  cases s.fits token <;> simp

theorem firstMishap?_append (ss ss' : List Slot) (ts : List String) :
    firstMishap? (ss ++ ss') ts =
      (firstMishap? ss ts).or (firstMishap? ss' (ts.drop ss.length)) := by
  induction ss generalizing ts with
  | nil => simp [firstMishap?]
  | cons s ss ih =>
    rw [List.cons_append, firstMishap?, firstMishap?, ih, Option.or_assoc, List.length_cons,
      List.drop_tail]

/-- **Nothing goes wrong** if and only if nothing goes wrong at any position. -/
theorem firstMishap?_eq_none_iff {ss : List Slot} {ts : List String} :
    firstMishap? ss ts = none ↔
      ∀ (k : Nat) (s : Slot), ss[k]? = some s → s.mishap? ts[k]? = none := by
  induction ss generalizing ts with
  | nil => simp [firstMishap?]
  | cons s ss ih =>
    rw [firstMishap?, Option.or_eq_none_iff, ih]
    constructor
    · rintro ⟨h0, h⟩ k s' hk
      cases k with
      | zero => cases hk; rw [← List.head?_eq_getElem?]; exact h0
      | succ k => rw [← List.getElem?_tail]; exact h k s' hk
    · intro h
      refine ⟨?_, fun k s' hk => ?_⟩
      · rw [List.head?_eq_getElem?]; exact h 0 s rfl
      · rw [List.getElem?_tail]; exact h (k + 1) s' hk

/-- **What goes wrong first** is what goes wrong at the first position where anything does. -/
theorem firstMishap?_eq_some_iff {ss : List Slot} {ts : List String} {m : Mishap} :
    firstMishap? ss ts = some m ↔
      ∃ (k : Nat) (s : Slot), ss[k]? = some s ∧ s.mishap? ts[k]? = some m ∧
        ∀ (j : Nat) (s' : Slot), j < k → ss[j]? = some s' → s'.mishap? ts[j]? = none := by
  induction ss generalizing ts with
  | nil => simp [firstMishap?]
  | cons s ss ih =>
    rw [firstMishap?, Option.or_eq_some_iff, ih]
    constructor
    · rintro (h0 | ⟨h0, k, s', hk, hm, hbefore⟩)
      · exact ⟨0, s, rfl, by rw [← List.head?_eq_getElem?]; exact h0, fun j _ hj => by omega⟩
      · refine ⟨k + 1, s', hk, by rw [← List.getElem?_tail]; exact hm, fun j s'' hj hs => ?_⟩
        cases j with
        | zero => cases hs; rw [← List.head?_eq_getElem?]; exact h0
        | succ j => rw [← List.getElem?_tail]; exact hbefore j s'' (by omega) hs
    · rintro ⟨k, s', hk, hm, hbefore⟩
      cases k with
      | zero => cases hk; left; rw [List.head?_eq_getElem?]; exact hm
      | succ k =>
        right
        refine ⟨?_, k, s', hk, by rw [List.getElem?_tail]; exact hm, fun j s'' hj hs => ?_⟩
        · rw [List.head?_eq_getElem?]; exact hbefore 0 s (by omega) rfl
        · rw [List.getElem?_tail]; exact hbefore (j + 1) s'' (by omega) hs

end Slot

/-- The slots of a sentence without a date. -/
def Form.layout : Form → List Slot
  | .debit => [.keyword "DEBIT", .amount, .currency, .keyword "FROM", .keyword "ACCOUNT",
      .accountId, .keyword "FOR", .keyword "CREDIT", .keyword "TO", .keyword "ACCOUNT", .accountId]
  | .credit => [.keyword "CREDIT", .amount, .currency, .keyword "TO", .keyword "ACCOUNT",
      .accountId, .keyword "FOR", .keyword "DEBIT", .keyword "FROM", .keyword "ACCOUNT", .accountId]

@[simp]
theorem Form.length_layout (form : Form) : form.layout.length = 11 := by
  cases form <;> rfl

namespace Sentence

/-- Whether a date follows the sentence: its keyword, and a token behind it. -/
def isDated (tokens : List String) : Bool :=
  Text.upper (tokens.getD 11 "") == "ON" && decide (13 ≤ tokens.length)

/-- The slots of the tokens of a sentence. -/
def slots (form : Form) (tokens : List String) : List Slot :=
  form.layout ++ if isDated tokens then [.keyword "ON", .date] else []

end Sentence

end Remittance
