import Mathlib.Tactic.Common
import Remittance.Proofs.Instruction.Position

/-! # Sentences

A sentence with at least eleven words that begins with the word of a form fails exactly as its slots
do (`read_eq_error_iff`), and each field of what is read is the word of its slot (`of_read_eq_ok`).
Every other sentence lacks a keyword. `readMissing_eq_of_slots` says both in terms of positions.

Eleven words are as many as there are slots without a date, so the words never run out: a sentence
that cannot be read is refused for one of six reasons (`of_read_eq_error`). An instruction that was
read is sound (`Instruction.Sound`, `sound_of_read`). -/

namespace Remittance.Sentence

/-! ### The first word -/

theorem read_of_first {text word : String} {ts : List String} {form : Form}
    (hwords : Text.words text = word :: ts) (hlen : 10 ≤ ts.length)
    (hform : Text.upper word = form.text) : read text = ofTokens form ts := by
  have hdetect : Form.detect? word = some form := Form.ofText?_eq_some_iff.mpr hform
  rw [read, hwords]
  dsimp only
  rw [hdetect]
  dsimp only
  rw [if_neg (by unfold leastLength; omega)]

theorem read_of_no_form {text : String}
    (h : (Text.words text).length < 11 ∨
      ∀ form : Form, Text.upper ((Text.words text).getD 0 "") ≠ form.text) :
    read text = .error (.refused .missingKeyword) := by
  unfold read
  split
  · rfl
  · next word ts hwords =>
    rw [hwords] at h
    split
    · rfl
    · next form hdetect =>
      have hform : Text.upper word = form.text := Form.ofText?_eq_some_iff.mp hdetect
      have hlen : ts.length + 1 < leastLength := h.resolve_right fun hne => hne form hform
      rw [if_pos hlen]

/-! ### The slots of all words -/

theorem isDated_cons (word : String) (ts : List String) :
    isDated (word :: ts) = ((ts.drop 10).head?.any (Text.upper · == "ON") &&
      decide (0 < (ts.drop 10).tail.length)) := by
  rw [List.head?_drop, List.tail_drop, List.length_drop, isDated, List.getD_cons_succ,
    List.getD_eq_getElem?_getD, List.length_cons]
  by_cases hlen : 12 ≤ ts.length
  · rw [List.getElem?_eq_getElem (by omega), decide_eq_true (by omega), decide_eq_true (by omega)]
    rfl
  · rw [decide_eq_false (by omega), decide_eq_false (by omega), Bool.and_false, Bool.and_false]

theorem slots_cons (form : Form) (word : String) (ts : List String) :
    slots form (word :: ts) =
      .keyword form.text :: (form.layout.tail ++ dateSlots (ts.drop 10)) := by
  rw [slots, dateSlots, ← isDated_cons word]
  cases form <;> rfl

/-- **A sentence with a form fails exactly as its slots do.** -/
theorem read_eq_error_iff {text : String} {form : Form} {m : Mishap}
    (hlen : 11 ≤ (Text.words text).length)
    (hform : Text.upper ((Text.words text).getD 0 "") = form.text) :
    read text = .error m ↔
      Slot.firstMishap? (slots form (Text.words text)) (Text.words text) = some m := by
  obtain ⟨word, ts, hwords⟩ := List.exists_cons_of_ne_nil (List.ne_nil_of_length_pos
    (show 0 < (Text.words text).length by omega))
  rw [hwords] at hlen hform
  have hfits : (Slot.keyword form.text).mishap? (some word) = none :=
    Slot.mishap?_eq_none_iff.mpr (beq_iff_eq.mpr hform)
  rw [read_of_first hwords (by simpa using hlen) hform, hwords, slots_cons, Slot.firstMishap?,
    List.head?_cons, hfits, Option.none_or, List.tail_cons, ofTokens_eq_error_iff]

theorem length_slots_le {form : Form} {t : List String} (hlen : 11 ≤ t.length) :
    (slots form t).length ≤ t.length := by
  rw [slots, List.length_append, Form.length_layout]
  by_cases h : isDated t = true
  · rw [if_pos h]
    rw [isDated, Bool.and_eq_true, decide_eq_true_eq] at h
    exact h.2
  · rw [if_neg h]; simpa using hlen

theorem getElem?_of_slot {form : Form} {t : List String} {k : Nat} {s : Slot}
    (hlen : 11 ≤ t.length) (h : (slots form t)[k]? = some s) : t[k]? = some (t.getD k "") := by
  obtain ⟨hk, -⟩ := List.getElem?_eq_some_iff.mp h
  have hk' : k < t.length := Nat.lt_of_lt_of_le hk (length_slots_le hlen)
  rw [List.getD_eq_getElem?_getD, List.getElem?_eq_getElem hk', Option.getD_some]

/-! ### What is read -/

theorem eq_of_dateOf_eq_ok {word : String} {ts : List String} {d : Option String}
    (h : dateOf (ts.drop 10) = .ok d) :
    d = if isDated (word :: ts) then some ((word :: ts).getD 12 "") else none := by
  rw [isDated_cons]
  unfold dateOf at h
  by_cases hon : (ts.drop 10).head?.any (Text.upper · == "ON") = true
  · by_cases hmore : 0 < (ts.drop 10).tail.length
    · rw [if_pos hon, if_pos hmore] at h
      obtain ⟨d', hd, rfl⟩ := Except.map_eq_ok_iff.mp h
      obtain ⟨token, htoken, hd⟩ := valueOf_eq_ok_iff.mp hd
      rw [List.tail_drop, List.head?_drop] at htoken
      rw [hon, decide_eq_true hmore, Bool.true_and, if_pos rfl, (Field.date_eq_ok_iff.mp hd).1,
        List.getD_cons_succ, List.getD_eq_getElem?_getD, htoken, Option.getD_some]
    · rw [if_pos hon, if_neg hmore] at h
      rw [decide_eq_false hmore, Bool.and_false, if_neg Bool.false_ne_true]
      cases h; rfl
  · rw [if_neg hon] at h
    rw [Bool.not_eq_true] at hon
    rw [hon, Bool.false_and, if_neg Bool.false_ne_true]
    cases h; rfl

/-- **What is read** from a sentence with a form. -/
theorem of_read_eq_ok {text : String} {form : Form} {i : Instruction}
    (hlen : 11 ≤ (Text.words text).length)
    (hform : Text.upper ((Text.words text).getD 0 "") = form.text) (h : read text = .ok i) :
    let t := Text.words text
    i.form = form ∧ Field.amount (t.getD 1 "") = .ok i.amount ∧
      Field.currency (t.getD 2 "") = .ok i.currency ∧
      Field.accountId (t.getD 5 "") = .ok (t.getD 5 "") ∧
      Field.accountId (t.getD 10 "") = .ok (t.getD 10 "") ∧
      form.roles (t.getD 5 "") (t.getD 10 "") = (i.debit, i.credit) ∧
      dateOf (t.tail.drop 10) = .ok i.executeBy ∧
      i.executeBy = if isDated t then some (t.getD 12 "") else none := by
  obtain ⟨word, ts, hwords⟩ := List.exists_cons_of_ne_nil (List.ne_nil_of_length_pos
    (show 0 < (Text.words text).length by omega))
  rw [hwords] at hlen hform ⊢
  rw [read_of_first hwords (by simpa using hlen) hform] at h
  obtain ⟨hf, hamount, hcurrency, ⟨first, second, hfirst, hsecond, hroles⟩, hdate⟩ :=
    of_ofTokens_eq_ok h
  -- each of the values comes from the word in its slot
  have hvalue : ∀ {α : Type} {reader : Field.Reader α} {k : Nat} {a : α},
      valueOf reader ts[k]? = .ok a → reader ((word :: ts).getD (k + 1) "") = .ok a := by
    intro α reader k a ha
    rw [List.getD_cons_succ]
    exact getD_of_valueOf ha
  have hfirst' := hvalue hfirst
  have hsecond' := hvalue hsecond
  obtain ⟨rfl, -⟩ := Field.accountId_eq_ok_iff.mp hfirst'
  obtain ⟨rfl, -⟩ := Field.accountId_eq_ok_iff.mp hsecond'
  exact ⟨hf, hvalue hamount, hvalue hcurrency, hfirst', hsecond', hroles, hdate,
    eq_of_dateOf_eq_ok hdate⟩

/-! ### Whatever the sentence -/

theorem form_of_read {text : String} {x : Except Mishap Instruction} (h : read text = x) :
    x = .error (.refused .missingKeyword) ∨ ∃ form : Form, 11 ≤ (Text.words text).length ∧
      Text.upper ((Text.words text).getD 0 "") = form.text := by
  by_cases hno : (Text.words text).length < 11 ∨
      ∀ form : Form, Text.upper ((Text.words text).getD 0 "") ≠ form.text
  · left; rw [← h, read_of_no_form hno]
  · right
    rw [not_or, Nat.not_lt, not_forall] at hno
    obtain ⟨hlen, form, hform⟩ := hno
    exact ⟨form, hlen, not_not.mp hform⟩

/-- The reasons for refusing a sentence. -/
def refusals : List Reason :=
  [.missingKeyword, .keywordOrder, .invalidAmount, .unsupportedCurrency, .invalidAccountId,
    .invalidDate]

theorem reason_mem_refusals (s : Slot) : s.reason ∈ refusals := by
  cases s <;> simp [Slot.reason, refusals]

/-- **A sentence that cannot be read is refused** for one of its reasons; its tokens never run
out. -/
theorem of_read_eq_error {text : String} {m : Mishap} (h : read text = .error m) :
    ∃ r ∈ refusals, m = .refused r := by
  rcases form_of_read h with hm | ⟨form, hlen, hform⟩
  · cases hm; exact ⟨.missingKeyword, by decide, rfl⟩
  · obtain ⟨k, s, hs, hm, -⟩ :=
      Slot.firstMishap?_eq_some_iff.mp ((read_eq_error_iff hlen hform).mp h)
    rw [getElem?_of_slot hlen hs, Slot.mishap?_eq_some_iff] at hm
    exact ⟨s.reason, reason_mem_refusals s, hm.2⟩

theorem date_of_dateOf {ts : List String} {d : String} (h : dateOf ts = .ok (some d)) :
    Field.date d = .ok d := by
  unfold dateOf at h
  split at h
  · split at h
    · obtain ⟨d', hd, hsome⟩ := Except.map_eq_ok_iff.mp h
      cases hsome
      obtain ⟨token, -, hd⟩ := valueOf_eq_ok_iff.mp hd
      obtain ⟨rfl, -⟩ := Field.date_eq_ok_iff.mp hd
      exact hd
    · cases h
  · cases h

end Sentence

/-- An instruction that can be written as a sentence: its currency is supported, its ids may stand
in a sentence, and so may its date if it has one. -/
structure Instruction.Sound (i : Instruction) : Prop where
  currency : i.currency ∈ Field.currencies
  debit : Field.accountId i.debit = .ok i.debit
  credit : Field.accountId i.credit = .ok i.credit
  executeBy : ∀ d, i.executeBy = some d → Field.date d = .ok d

namespace Sentence

/-- **An instruction that was read is sound.** -/
theorem sound_of_read {text : String} {i : Instruction} (h : read text = .ok i) : i.Sound := by
  rcases form_of_read h with hm | ⟨form, hlen, hform⟩
  · cases hm
  · obtain ⟨-, -, hcurrency, hfirst, hsecond, hroles, hdate, -⟩ := of_read_eq_ok hlen hform h
    have hids : Field.accountId i.debit = .ok i.debit ∧
        Field.accountId i.credit = .ok i.credit := by
      cases form <;> rw [Form.roles, Prod.mk.injEq] at hroles <;> rw [← hroles.1, ← hroles.2]
      · exact ⟨hfirst, hsecond⟩
      · exact ⟨hsecond, hfirst⟩
    obtain ⟨hc, hmem⟩ := Field.currency_eq_ok_iff.mp hcurrency
    exact ⟨hmem, hids.1, hids.2, fun d hd => date_of_dateOf (hd ▸ hdate)⟩

/-! ### The reading of a sentence, slot by slot -/

section

variable {text : String} {form : Form}

/-- Only a sentence without a form lacks a keyword: no slot refuses its word for that. -/
theorem read_eq_missingKeyword_iff : read text = .error (.refused .missingKeyword) ↔
    (Text.words text).length < 11 ∨
      ∀ form : Form, Text.upper ((Text.words text).getD 0 "") ≠ form.text := by
  refine ⟨fun h => ?_, read_of_no_form⟩
  by_contra hno
  rw [not_or, Nat.not_lt, not_forall] at hno
  obtain ⟨hlen, form, hform⟩ := hno
  rw [not_not] at hform
  obtain ⟨k, s, hs, hm, -⟩ := Slot.firstMishap?_eq_some_iff.mp ((read_eq_error_iff hlen hform).mp h)
  rw [getElem?_of_slot hlen hs, Slot.mishap?_eq_some_iff] at hm
  have hreason := hm.2
  cases s <;> cases hreason

theorem read_eq_refused (hlen : 11 ≤ (Text.words text).length)
    (hform : Text.upper ((Text.words text).getD 0 "") = form.text) {k : Nat} {s : Slot}
    (hs : (slots form (Text.words text))[k]? = some s)
    (hfits : s.fits ((Text.words text).getD k "") = false)
    (hbefore : ∀ (j : Nat) (s' : Slot), j < k → (slots form (Text.words text))[j]? = some s' →
      s'.fits ((Text.words text).getD j "") = true) :
    read text = .error (.refused s.reason) := by
  refine (read_eq_error_iff hlen hform).mpr (Slot.firstMishap?_eq_some_iff.mpr ?_)
  refine ⟨k, s, hs, ?_, fun j s' hj hs' => ?_⟩
  · rw [getElem?_of_slot hlen hs]
    exact Slot.mishap?_eq_some_iff.mpr ⟨hfits, rfl⟩
  · rw [getElem?_of_slot hlen hs']
    exact Slot.mishap?_eq_none_iff.mpr (hbefore j s' hj hs')

theorem exists_read_of_fits (hlen : 11 ≤ (Text.words text).length)
    (hform : Text.upper ((Text.words text).getD 0 "") = form.text)
    (hfits : ∀ (k : Nat) (s : Slot), (slots form (Text.words text))[k]? = some s →
      s.fits ((Text.words text).getD k "") = true) : ∃ i, read text = .ok i := by
  have hnone : Slot.firstMishap? (slots form (Text.words text)) (Text.words text) = none := by
    rw [Slot.firstMishap?_eq_none_iff]
    intro k s hs
    rw [getElem?_of_slot hlen hs]
    exact Slot.mishap?_eq_none_iff.mpr (hfits k s hs)
  refine Except.exists_ok_of_ne_error fun m hm => ?_
  rw [read_eq_error_iff hlen hform, hnone] at hm
  cases hm

end

/-- **A sentence is read slot by slot.** It lacks a keyword if it has less than eleven words or
begins with the word of no form. Otherwise the first word that does not fit its slot decides the
reason for refusing it, and if every word fits, each field of the instruction is the word of its
slot, with a date where the clause is complete. Each kind of slot has a code of its own. -/
theorem readMissing_eq_of_slots (text : Option String) :
    let t := Text.words (text.getD "")
    Reason.missingKeyword.code = "SY01" ∧
    (∀ s : Slot, s.reason.code =
      match s with
      | .keyword _ => "SY02"
      | .amount => "AM01"
      | .currency => "CU02"
      | .accountId => "AC04"
      | .date => "DT01") ∧
    (readMissing text = .error (.refused .missingKeyword) ↔
      t.length < 11 ∨ ∀ form : Form, Text.upper (t.getD 0 "") ≠ form.text) ∧
    ∀ form : Form, 11 ≤ t.length → Text.upper (t.getD 0 "") = form.text →
      (∀ (k : Nat) (s : Slot), (slots form t)[k]? = some s → s.fits (t.getD k "") = false →
        (∀ (j : Nat) (s' : Slot), j < k → (slots form t)[j]? = some s' →
          s'.fits (t.getD j "") = true) →
        readMissing text = .error (.refused s.reason)) ∧
      ((∀ (k : Nat) (s : Slot), (slots form t)[k]? = some s → s.fits (t.getD k "") = true) →
        ∃ amount currency, Field.amount (t.getD 1 "") = .ok amount ∧
          Field.currency (t.getD 2 "") = .ok currency ∧
          readMissing text = .ok
            { form, amount, currency
              debit := match form with | .debit => t.getD 5 "" | .credit => t.getD 10 ""
              credit := match form with | .debit => t.getD 10 "" | .credit => t.getD 5 ""
              executeBy := if isDated t then some (t.getD 12 "") else none }) := by
  intro t
  refine ⟨Reason.code_eq _, Slot.code_reason, read_eq_missingKeyword_iff, fun form hlen hform =>
    ⟨fun k s hs hfits hbefore => read_eq_refused hlen hform hs hfits hbefore, fun hfits => ?_⟩⟩
  obtain ⟨i, hi⟩ := exists_read_of_fits hlen hform hfits
  obtain ⟨hf, hamount, hcurrency, -, -, hroles, -, hdate⟩ := of_read_eq_ok hlen hform hi
  refine ⟨i.amount, i.currency, hamount, hcurrency, ?_⟩
  rw [readMissing, hi]
  obtain ⟨_, _, _, _, _, _⟩ := i
  cases form <;> cases hroles <;> cases hf <;> cases hdate <;> rfl

/-- A sentence that ends with the keyword of a date's clause. -/
def dangling : String := "CREDIT 5 usd TO ACCOUNT b FOR DEBIT FROM ACCOUNT a ON"

/-- A keyword with nothing behind it is no date. -/
theorem readMissing_dangling :
    11 ≤ (Text.words dangling).length ∧
    Text.upper ((Text.words dangling).getD 0 "") = Form.credit.text ∧
    (∀ s ∈ (slots .credit (Text.words dangling)).zip (Text.words dangling), s.1.fits s.2 = true) ∧
    ∃ amount currency, readMissing (some dangling) = .ok
      { form := .credit, amount, currency, debit := "a", credit := "b", executeBy := none } := by
  have hwords : Text.words dangling =
      ["CREDIT", "5", "usd", "TO", "ACCOUNT", "b", "FOR", "DEBIT", "FROM", "ACCOUNT", "a", "ON"] := by
    decide +kernel
  have hlen : 11 ≤ (Text.words dangling).length := by rw [hwords]; decide
  have hform : Text.upper ((Text.words dangling).getD 0 "") = Form.credit.text := by
    rw [hwords]; decide +kernel
  have hfits : ∀ s ∈ (slots .credit (Text.words dangling)).zip (Text.words dangling),
      s.1.fits s.2 = true := by
    rw [hwords]; decide +kernel
  have hall : ∀ (k : Nat) (s : Slot), (slots .credit (Text.words dangling))[k]? = some s →
      s.fits ((Text.words dangling).getD k "") = true := by
    intro k s hs
    have hk := getElem?_of_slot hlen hs
    exact hfits (s, _) (List.mem_iff_getElem?.mpr ⟨k, List.getElem?_zip_eq_some.mpr ⟨hs, hk⟩⟩)
  obtain ⟨amount, currency, -, -, hread⟩ :=
    ((readMissing_eq_of_slots (some dangling)).2.2.2 .credit hlen hform).2 hall
  refine ⟨hlen, hform, hfits, amount, currency, ?_⟩
  rw [hread, Option.getD_some, hwords]
  rfl

end Remittance.Sentence
