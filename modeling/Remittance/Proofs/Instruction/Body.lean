import Mathlib.Order.Bounds.Basic
import Remittance.Proofs.Instruction.Sentence

/-! # The body of a sentence

Behind its first word a sentence has ten slots (`Form.bodySlots`), and a date's clause may follow
them. Whatever the tokens and however few, the first slot that its token does not fit, or that has no
token, decides how the reading fails (`ofTokens_eq_error_of_slot`); if every slot has its token, only
the token of the date can still be refused (`exists_ofTokens_eq`).

A value that is missing is met as the end of the tokens. The last of the ten slots is that of a value,
so this can happen as long as there are less than ten tokens, and not with more: eleven words, with
the first one, are the least with which the tokens never run out (`isLeast_leastLength`). A sentence
of so many words is read as its body is (`read_eq_act`), hence never found at its end.
`ofTokens_eq_of_bodySlots` puts all this together. -/

namespace Remittance

/-! ### Slots and their tokens -/

/-- The slots behind the first word of a sentence without a date. -/
def Form.bodySlots (form : Form) : List Slot :=
  [.amount, .currency] ++ form.keywordsBeforeFirst.map .keyword ++ [.accountId] ++
    form.keywordsBeforeSecond.map .keyword ++ [.accountId]

theorem Form.tail_layout (form : Form) : form.layout.tail = form.bodySlots := by
  cases form <;> rfl

theorem Form.length_bodySlots (form : Form) : form.bodySlots.length = 10 := by
  cases form <;> rfl

theorem Slot.mishap?_eq_none_iff_any {s : Slot} {token : Option String} :
    s.mishap? token = none ↔ token.any s.fits = true := by
  cases token with
  | none => simp [mishap?]
  | some token => exact mishap?_eq_none_iff

theorem Slot.missing_eq (s : Slot) : s.missing =
    match s with
    | keyword word => .refused (keyword word).reason
    | _ => .exhausted := by
  cases s <;> rfl

namespace Sentence

open Cursor (act)

variable {form : Form} {ts : List String}

/-! ### The first slot that fails -/

theorem ofTokens_eq_error_iff_or {m : Mishap} : ofTokens form ts = .error m ↔
    Slot.firstMishap? form.bodySlots ts = some m ∨
      Slot.firstMishap? form.bodySlots ts = none ∧ dateOf (ts.drop 10) = .error m := by
  rw [ofTokens_eq_error_iff, Form.tail_layout, Slot.firstMishap?_append, Form.length_bodySlots,
    Option.or_eq_some_iff, ← failsAs_dateOf (ts.drop 10) m]

/-- **The first slot that fails decides.** -/
theorem ofTokens_eq_error_of_slot {k : Nat} {s : Slot} {m : Mishap}
    (hs : form.bodySlots[k]? = some s) (hm : s.mishap? ts[k]? = some m)
    (hbefore : ∀ (j : Nat) (s' : Slot), j < k → form.bodySlots[j]? = some s' →
      ts[j]?.any s'.fits = true) : ofTokens form ts = .error m := by
  refine ofTokens_eq_error_iff_or.mpr (.inl (Slot.firstMishap?_eq_some_iff.mpr ?_))
  exact ⟨k, s, hs, hm, fun j s' hj hs' => Slot.mishap?_eq_none_iff_any.mpr (hbefore j s' hj hs')⟩

/-! ### A date behind the ten slots -/

/-- The token of the date behind ten other tokens: one that follows the clause's keyword. -/
def dateToken? (ts : List String) : Option String :=
  if ts[10]?.map Text.upper = some "ON" then ts[11]? else none

theorem dateOf_drop_of_none (h : dateToken? ts = none) : dateOf (ts.drop 10) = .ok none := by
  unfold dateToken? at h
  unfold dateOf
  rw [List.head?_drop, List.tail_drop, List.length_drop]
  by_cases hon : ts[10]?.map Text.upper = some "ON"
  · rw [if_pos hon, List.getElem?_eq_none_iff] at h
    rw [if_neg (show ¬ 0 < ts.length - (10 + 1) by omega), ite_self]
  · have hany : ¬ ts[10]?.any (Text.upper · == "ON") = true := by
      cases htoken : ts[10]? with
      | none => simp
      | some token => simpa [htoken] using hon
    rw [if_neg hany]

theorem dateOf_drop_of_some {token : String} (h : dateToken? ts = some token) :
    dateOf (ts.drop 10) = ((Field.date token).mapError .refused).map some := by
  unfold dateToken? at h
  split at h
  · next hon =>
    obtain ⟨word, hword, hupper⟩ := Option.map_eq_some_iff.mp hon
    obtain ⟨hlt, -⟩ := List.getElem?_eq_some_iff.mp h
    have hmore : 0 < ts.length - (10 + 1) := by omega
    unfold dateOf
    rw [List.head?_drop, List.tail_drop, List.length_drop, List.head?_drop, hword, h, if_pos hmore,
      Option.any_some, if_pos (beq_iff_eq.mpr hupper)]
    rfl
  · cases h

/-! ### What is read -/

theorem exists_value {α : Type} (reader : Field.Reader α) {s : Slot} {k : Nat}
    (hfits : ∀ token, s.fits token = (reader token).isOk) (h : ts[k]?.any s.fits = true) :
    ∃ a, reader (ts.getD k "") = .ok a := by
  obtain ⟨token, htoken, hok⟩ := (Option.any_eq_true _ _).mp h
  rw [hfits, Except.isOk_iff] at hok
  rwa [List.getD_eq_getElem?_getD, htoken, Option.getD_some]

/-- The instruction of a body with the given amount, currency and date. -/
def instructionOf (form : Form) (ts : List String) (amount : Amount) (currency : String)
    (executeBy : Option String) : Instruction where
  form := form
  amount := amount
  currency := currency
  debit := match form with | .debit => ts.getD 4 "" | .credit => ts.getD 9 ""
  credit := match form with | .debit => ts.getD 9 "" | .credit => ts.getD 4 ""
  executeBy := executeBy

theorem eq_instructionOf {i : Instruction} (h : ofTokens form ts = .ok i) :
    i = instructionOf form ts i.amount i.currency i.executeBy := by
  obtain ⟨hform, -, -, ⟨first, second, hfirst, hsecond, hroles⟩, -⟩ := of_ofTokens_eq_ok h
  obtain ⟨rfl, -⟩ := Field.accountId_eq_ok_iff.mp (getD_of_valueOf hfirst)
  obtain ⟨rfl, -⟩ := Field.accountId_eq_ok_iff.mp (getD_of_valueOf hsecond)
  obtain ⟨_, _, _, _, _, _⟩ := i
  cases form <;> cases hroles <;> cases hform <;> rfl

/-- **If every slot has its token**, the date's clause decides what is read. -/
theorem exists_ofTokens_eq (h : ∀ (k : Nat) (s : Slot), form.bodySlots[k]? = some s →
      ts[k]?.any s.fits = true) :
    ∃ amount currency, Field.amount (ts.getD 0 "") = .ok amount ∧
      Field.currency (ts.getD 1 "") = .ok currency ∧
      ofTokens form ts = (dateOf (ts.drop 10)).map (instructionOf form ts amount currency) := by
  have hnone : Slot.firstMishap? form.bodySlots ts = none :=
    Slot.firstMishap?_eq_none_iff.mpr fun k s hs => Slot.mishap?_eq_none_iff_any.mpr (h k s hs)
  -- only the date's clause is left to fail
  have herror : ∀ m, ofTokens form ts = .error m ↔ dateOf (ts.drop 10) = .error m := by
    intro m
    rw [ofTokens_eq_error_iff_or, hnone]
    simp
  obtain ⟨amount, hamount⟩ := exists_value Field.amount (fun _ => rfl) (h 0 .amount rfl)
  obtain ⟨currency, hcurrency⟩ :=
    exists_value Field.currency (fun _ => rfl) (h 1 .currency rfl)
  refine ⟨amount, currency, hamount, hcurrency, ?_⟩
  cases hdate : dateOf (ts.drop 10) with
  | error m => exact (herror m).mpr hdate
  | ok date =>
    obtain ⟨i, hi⟩ : ∃ i, ofTokens form ts = .ok i := Except.exists_ok_of_ne_error fun m hm => by
      rw [herror, hdate] at hm
      cases hm
    obtain ⟨-, hamount', hcurrency', -, hdate'⟩ := of_ofTokens_eq_ok hi
    have ha := Except.ok.inj (hamount.symm.trans (getD_of_valueOf hamount'))
    have hc := Except.ok.inj (hcurrency.symm.trans (getD_of_valueOf hcurrency'))
    have hd := Except.ok.inj (hdate.symm.trans hdate')
    rw [hi, eq_instructionOf hi, ha, hc, hd]
    rfl

/-! ### The end of the tokens -/

/-- **The tokens of a body do not run out** if there are ten of them. -/
theorem ofTokens_ne_exhausted (hlen : 10 ≤ ts.length) : ofTokens form ts ≠ .error .exhausted := by
  intro h
  obtain ⟨k, s, hs, hm, -⟩ := Slot.firstMishap?_eq_some_iff.mp (ofTokens_eq_error_iff.mp h)
  -- with any first word the slots are those of a sentence, which has a token for each of them
  have hs' : (slots form (form.text :: ts))[k + 1]? = some s := by
    rw [slots_cons, List.getElem?_cons_succ]
    exact hs
  have htoken := getElem?_of_slot (by rw [List.length_cons]; omega) hs'
  rw [List.getElem?_cons_succ] at htoken
  rw [htoken, Slot.mishap?_eq_some_iff] at hm
  cases hm.2

/-- A body that ends before its last slot. -/
def unfinished (form : Form) : List String :=
  ["1", "USD"] ++ form.keywordsBeforeFirst ++ ["a"] ++ form.keywordsBeforeSecond

theorem ofTokens_unfinished (form : Form) :
    ofTokens form (unfinished form) = .error .exhausted := by
  cases form <;> decide +kernel

/-- **Eleven words are the least** with which the tokens of a sentence never run out. -/
theorem isLeast_leastLength (form : Form) :
    IsLeast {n | ∀ ts : List String, n ≤ ts.length + 1 → ofTokens form ts ≠ .error .exhausted}
      leastLength := by
  constructor
  · intro ts hlen
    unfold leastLength at hlen
    exact ofTokens_ne_exhausted (by omega)
  · intro n hn
    by_contra hlt
    have hlength : (unfinished form).length = 9 := by cases form <;> rfl
    unfold leastLength at hlt
    exact hn (unfinished form) (by omega) (ofTokens_unfinished form)

/-! ### The whole sentence -/

/-- **A sentence with a form is read as its body**: by a cursor over all of its words that steps over
the first of them. -/
theorem read_eq_act {text : String} (hlen : 11 ≤ (Text.words text).length)
    (hform : Text.upper ((Text.words text).getD 0 "") = form.text) :
    read text = ofTokens form (Text.words text).tail ∧
      (act (do Cursor.expect [form.text]; body form) ⟨Text.words text, 0⟩).1 = read text := by
  obtain ⟨word, ts, hwords⟩ := List.exists_cons_of_ne_nil (List.ne_nil_of_length_pos
    (show 0 < (Text.words text).length by omega))
  rw [hwords] at hlen hform ⊢
  have hread : read text = ofTokens form ts := read_of_first hwords (by simpa using hlen) hform
  have hword : keywordsOf [form.text] (word :: ts) = .ok () :=
    if_pos (beq_iff_eq.mpr hform)
  refine ⟨hread, ?_⟩
  rw [act_expect_bind]
  show (keywordsOf [form.text] (word :: ts) >>= fun _ => (act (body form) ⟨word :: ts, 1⟩).1) = _
  rw [hword, Except.ok_bind, act_body_fst, hread, ofTokens_eq_bodyOf]
  rfl

/-- **The first slot that fails decides how a body is read.** A slot fails if its token is missing,
which is the end of the tokens for a value and a wrong keyword for a keyword, or if it refuses its
token, for its own reason. If none of the ten slots fails, the body is read, unless a date behind it
is refused. A sentence with a form and at least eleven words is read as the body behind its first
word, and this is the least length with which the tokens never run out. Each kind of slot has a code
of its own. -/
theorem ofTokens_eq_of_bodySlots (form : Form) (ts : List String) :
    (∀ s : Slot,
      (s.reason.code =
        match s with
        | .keyword _ => "SY02"
        | .amount => "AM01"
        | .currency => "CU02"
        | .accountId => "AC04"
        | .date => "DT01") ∧
      s.missing =
        match s with
        | .keyword word => .refused (Slot.keyword word).reason
        | _ => .exhausted) ∧
    Reason.invalidDate.code = "DT01" ∧
    (∀ (k : Nat) (s : Slot), form.bodySlots[k]? = some s →
      (∀ (j : Nat) (s' : Slot), j < k → form.bodySlots[j]? = some s' →
        ts[j]?.any s'.fits = true) →
      (ts[k]? = none → ofTokens form ts = .error s.missing) ∧
      ∀ token, ts[k]? = some token → s.fits token = false →
        ofTokens form ts = .error (.refused s.reason)) ∧
    ((∀ (k : Nat) (s : Slot), form.bodySlots[k]? = some s → ts[k]?.any s.fits = true) →
      ∃ amount currency, Field.amount (ts.getD 0 "") = .ok amount ∧
        Field.currency (ts.getD 1 "") = .ok currency ∧
        (dateToken? ts = none →
          ofTokens form ts = .ok (instructionOf form ts amount currency none)) ∧
        ∀ token, dateToken? ts = some token → ofTokens form ts =
          if (Field.date token).isOk then .ok (instructionOf form ts amount currency (some token))
          else .error (.refused .invalidDate)) ∧
    (∀ text : String, 11 ≤ (Text.words text).length →
      Text.upper ((Text.words text).getD 0 "") = form.text →
      read text = ofTokens form (Text.words text).tail ∧
      (act (do Cursor.expect [form.text]; body form) ⟨Text.words text, 0⟩).1 = read text ∧
      read text ≠ .error .exhausted) ∧
    IsLeast {n | ∀ ts' : List String, n ≤ ts'.length + 1 → ofTokens form ts' ≠ .error .exhausted}
      leastLength := by
  refine ⟨fun s => ⟨s.code_reason, s.missing_eq⟩, Reason.code_eq _,
    fun k s hs hbefore => ⟨fun hnone => ?_, fun token htoken hfits => ?_⟩, fun h => ?_,
    fun text hlen hform => ?_, isLeast_leastLength form⟩
  · exact ofTokens_eq_error_of_slot hs (by rw [hnone]; rfl) hbefore
  · refine ofTokens_eq_error_of_slot hs ?_ hbefore
    rw [htoken]
    exact Slot.mishap?_eq_some_iff.mpr ⟨hfits, rfl⟩
  · obtain ⟨amount, currency, hamount, hcurrency, heq⟩ := exists_ofTokens_eq h
    refine ⟨amount, currency, hamount, hcurrency, fun hnone => ?_, fun token htoken => ?_⟩
    · rw [heq, dateOf_drop_of_none hnone]
      rfl
    · rw [heq, dateOf_drop_of_some htoken]
      cases hdate : Field.date token with
      | error r =>
        obtain rfl := Field.date_eq_error hdate
        rfl
      | ok d =>
        obtain ⟨rfl, -⟩ := Field.date_eq_ok_iff.mp hdate
        rfl
  · obtain ⟨hread, hact⟩ := read_eq_act hlen hform
    refine ⟨hread, hact, ?_⟩
    rw [hread]
    exact ofTokens_ne_exhausted (by rw [List.length_tail]; omega)

end Sentence

end Remittance
