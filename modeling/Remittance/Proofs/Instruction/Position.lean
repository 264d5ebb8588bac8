import Remittance.Proofs.Except
import Remittance.Proofs.Instruction.Cursor
import Remittance.Proofs.Instruction.Field
import Remittance.Proofs.Instruction.Slot

/-! # Reading a sentence by position

A cursor only keeps count of the tokens that are behind it. So what an action yields is a function
of the tokens that are left: `valueOf` for a value, `keywordsOf` for keywords, `dateOf` for the
date's clause. `bodyOf` puts them together: what follows the first word of a sentence is read with
every position fixed in advance (`act_body_fst`).

Each of these readings fails as its slots do (`FailsAs`), and so does all of it
(`ofTokens_eq_error_iff`). What is read if nothing goes wrong is told by `of_ofTokens_eq_ok`. -/

namespace Remittance.Sentence

open Cursor

variable {α β : Type}

/-! ### Readings of the tokens that are left -/

/-- Reads a value from a token that may be missing. -/
def valueOf (reader : Field.Reader α) : Option String → Except Mishap α
  | none => .error .exhausted
  | some token => (reader token).mapError .refused

/-- Checks tokens against keywords. -/
def keywordsOf : List String → List String → Except Mishap Unit
  | [], _ => .ok ()
  | word :: words, ts =>
    if ts.head?.any (Text.upper · == word) then keywordsOf words ts.tail
    else .error (.refused .keywordOrder)

/-- Reads the date's clause. -/
def dateOf (ts : List String) : Except Mishap (Option String) :=
  if ts.head?.any (Text.upper · == "ON") then
    if 0 < ts.tail.length then (valueOf Field.date ts.tail.head?).map some else .ok none
  else .ok none

/-- Reads the body of a sentence. -/
def bodyOf (form : Form) (ts : List String) : Except Mishap Instruction := do
  let amount ← valueOf Field.amount ts.head?
  let currency ← valueOf Field.currency (ts.drop 1).head?
  keywordsOf form.keywordsBeforeFirst (ts.drop 2)
  let first ← valueOf Field.accountId (ts.drop 4).head?
  keywordsOf form.keywordsBeforeSecond (ts.drop 5)
  let second ← valueOf Field.accountId (ts.drop 9).head?
  let executeBy ← dateOf (ts.drop 10)
  return { form, amount, currency, debit := (form.roles first second).1,
           credit := (form.roles first second).2, executeBy }

theorem act_take_fst (reader : Field.Reader α) (c : Cursor) :
    (act (take reader) c).1 = valueOf reader c.rest.head? := by
  rw [act_take, current?_eq]
  cases c.rest.head? <;> rfl

theorem act_take_bind (reader : Field.Reader α) (f : α → Reading β) (c : Cursor) :
    (act (take reader >>= f) c).1 =
      valueOf reader c.rest.head? >>= fun a => (act (f a) (c.skip 1)).1 := by
  rw [act_bind, act_take, current?_eq]
  rcases c.rest.head? with _ | token
  · rfl
  · dsimp only [valueOf]
    cases reader token <;> rfl

theorem act_expect_bind (words : List String) (f : Unit → Reading β) (c : Cursor) :
    (act (expect words >>= f) c).1 =
      keywordsOf words c.rest >>= fun u => (act (f u) (c.skip words.length)).1 := by
  induction words generalizing c with
  | nil => rfl
  | cons word words ih =>
    rw [act_bind, act_expect_cons, keywordsOf, sees_eq]
    by_cases h : c.rest.head?.any (Text.upper · == word) = true
    · rw [if_pos h, if_pos h, ← act_bind, ih, rest_next, next_skip, List.length_cons]
    · rw [if_neg h, if_neg h]; rfl

theorem act_bind_pure (x : Reading α) (f : α → β) (c : Cursor) :
    (act (x >>= fun a => pure (f a)) c).1 = (act x c).1 >>= fun a => pure (f a) := by
  rw [act_bind]
  rcases act x c with ⟨_ | a, c'⟩ <;> rfl

theorem act_executeBy_fst (c : Cursor) : (act executeBy c).1 = dateOf c.rest := by
  rw [act_executeBy, sees_eq, hasMore_eq, rest_next, dateOf]
  by_cases hon : c.rest.head?.any (Text.upper · == "ON") = true
  · rw [if_pos hon, if_pos hon]
    by_cases hmore : 0 < c.rest.tail.length
    · rw [if_pos (decide_eq_true hmore), if_pos hmore, act_take_fst, rest_next]
    · rw [if_neg (by rwa [decide_eq_true_eq]), if_neg hmore]
  · rw [if_neg hon, if_neg hon]

/-- **The body of a sentence, position by position.** -/
theorem act_body_fst (form : Form) (c : Cursor) : (act (body form) c).1 = bodyOf form c.rest := by
  have hlen₁ : form.keywordsBeforeFirst.length = 2 := by cases form <;> rfl
  have hlen₂ : form.keywordsBeforeSecond.length = 4 := by cases form <;> rfl
  simp only [body, bodyOf, act_take_bind, act_expect_bind, hlen₁, hlen₂, rest_skip,
    List.drop_drop, act_bind_pure, act_executeBy_fst]

theorem ofTokens_eq_bodyOf (form : Form) (ts : List String) : ofTokens form ts = bodyOf form ts :=
  act_body_fst form ⟨ts, 0⟩

/-! ### Failing as slots do -/

/-- `x` fails exactly as the slots do when the tokens are put into them. -/
def FailsAs (x : Except Mishap α) (ss : List Slot) (ts : List String) : Prop :=
  ∀ m, x = .error m ↔ Slot.firstMishap? ss ts = some m

theorem failsAs_ok (a : α) (ts : List String) : FailsAs (.ok a) [] ts := by
  intro m
  constructor
  · intro h; cases h
  · intro h; cases h

theorem FailsAs.bind {x : Except Mishap α} {f : α → Except Mishap β} {ss ss' : List Slot}
    {ts : List String} (hx : FailsAs x ss ts)
    (hf : ∀ a, FailsAs (f a) ss' (ts.drop ss.length)) : FailsAs (x >>= f) (ss ++ ss') ts := by
  intro m
  rw [Except.bind_eq_error_iff, Slot.firstMishap?_append, Option.or_eq_some_iff, hx m]
  refine or_congr_right ?_
  cases hxa : x with
  | error e =>
    have := (hx e).mp hxa
    simp [this]
  | ok a =>
    have hnone : Slot.firstMishap? ss ts = none := by
      rw [Option.eq_none_iff_forall_ne_some]
      intro e he
      have := (hx e).mpr he
      rw [hxa] at this; cases this
    rw [hnone, and_iff_right rfl, ← hf a m]
    constructor
    · rintro ⟨_, ⟨⟩, h⟩; exact h
    · intro h; exact ⟨a, rfl, h⟩

theorem FailsAs.of_isOk {reader : Field.Reader α} {s : Slot}
    (hfits : ∀ token, s.fits token = (reader token).isOk)
    (hreason : ∀ token r, reader token = .error r → r = s.reason) (hmissing : s.missing = .exhausted)
    (ts : List String) : FailsAs (valueOf reader ts.head?) [s] ts := by
  intro m
  rw [Slot.firstMishap?, Slot.firstMishap?, Option.or_none]
  rcases ts.head? with _ | token
  · rw [valueOf, Slot.mishap?, hmissing, Except.error.injEq, Option.some_inj]
  · rw [valueOf, Slot.mishap?_eq_some_iff, hfits, Except.isOk_eq_false_iff,
      Except.mapError_eq_error_iff]
    constructor
    · rintro ⟨r, hr, rfl⟩
      exact ⟨⟨r, hr⟩, by rw [hreason token r hr]⟩
    · rintro ⟨⟨r, hr⟩, rfl⟩
      exact ⟨r, hr, by rw [hreason token r hr]⟩

theorem failsAs_amount (ts : List String) :
    FailsAs (valueOf Field.amount ts.head?) [.amount] ts :=
  .of_isOk (fun _ => rfl) (fun _ _ => Field.amount_eq_error) rfl ts

theorem failsAs_currency (ts : List String) :
    FailsAs (valueOf Field.currency ts.head?) [.currency] ts :=
  .of_isOk (fun _ => rfl) (fun _ _ => Field.currency_eq_error) rfl ts

theorem failsAs_accountId (ts : List String) :
    FailsAs (valueOf Field.accountId ts.head?) [.accountId] ts :=
  .of_isOk (fun _ => rfl) (fun _ _ => Field.accountId_eq_error) rfl ts

theorem failsAs_date (ts : List String) : FailsAs (valueOf Field.date ts.head?) [.date] ts :=
  .of_isOk (fun _ => rfl) (fun _ _ => Field.date_eq_error) rfl ts

theorem mishap?_keyword (word : String) (token : Option String) :
    (Slot.keyword word).mishap? token =
      if token.any (Text.upper · == word) then none else some (.refused .keywordOrder) := by
  cases token <;> rfl

theorem failsAs_keywords (words ts : List String) :
    FailsAs (keywordsOf words ts) (words.map .keyword) ts := by
  induction words generalizing ts with
  | nil => exact failsAs_ok () ts
  | cons word words ih =>
    intro m
    rw [keywordsOf, List.map_cons, Slot.firstMishap?, mishap?_keyword]
    by_cases h : ts.head?.any (Text.upper · == word) = true
    · rw [if_pos h, if_pos h, Option.none_or]; exact ih ts.tail m
    · rw [if_neg h, if_neg h, Option.some_or, Except.error.injEq, Option.some_inj]

/-- The slots of the date's clause, if the tokens begin with one. -/
def dateSlots (ts : List String) : List Slot :=
  if ts.head?.any (Text.upper · == "ON") && decide (0 < ts.tail.length) then
    [.keyword "ON", .date]
  else []

theorem failsAs_dateOf (ts : List String) : FailsAs (dateOf ts) (dateSlots ts) ts := by
  unfold dateOf dateSlots
  by_cases hon : ts.head?.any (Text.upper · == "ON") = true
  · by_cases hmore : 0 < ts.tail.length
    · rw [if_pos hon, if_pos hmore, hon, decide_eq_true hmore, Bool.true_and, if_pos rfl]
      intro m
      rw [Except.map_eq_error_iff, Slot.firstMishap?, mishap?_keyword, if_pos hon, Option.none_or]
      exact failsAs_date ts.tail m
    · rw [if_pos hon, if_neg hmore, hon, decide_eq_false hmore, Bool.true_and,
        if_neg Bool.false_ne_true]
      exact failsAs_ok none ts
  · rw [Bool.not_eq_true] at hon
    rw [hon, Bool.false_and, if_neg Bool.false_ne_true, if_neg Bool.false_ne_true]
    exact failsAs_ok none ts

/-- **The body of a sentence fails exactly as its slots do.** -/
theorem failsAs_ofTokens (form : Form) (ts : List String) :
    FailsAs (ofTokens form ts) (form.layout.tail ++ dateSlots (ts.drop 10)) ts := by
  have hslots : form.layout.tail ++ dateSlots (ts.drop 10) =
      [.amount] ++ ([.currency] ++ (form.keywordsBeforeFirst.map .keyword ++ ([.accountId] ++
        (form.keywordsBeforeSecond.map .keyword ++ ([.accountId] ++
          (dateSlots (ts.drop 10) ++ [])))))) := by
    cases form <;> rw [List.append_nil] <;> rfl
  have hlen₁ : (form.keywordsBeforeFirst.map Slot.keyword).length = 2 := by cases form <;> rfl
  have hlen₂ : (form.keywordsBeforeSecond.map Slot.keyword).length = 4 := by cases form <;> rfl
  rw [ofTokens_eq_bodyOf, bodyOf, hslots]
  refine (failsAs_amount ts).bind fun amount => ?_
  refine (failsAs_currency _).bind fun currency => ?_
  rw [List.drop_drop]
  refine (failsAs_keywords _ _).bind fun _ => ?_
  rw [List.drop_drop, hlen₁]
  refine (failsAs_accountId _).bind fun first => ?_
  rw [List.drop_drop]
  refine (failsAs_keywords _ _).bind fun _ => ?_
  rw [List.drop_drop, hlen₂]
  refine (failsAs_accountId _).bind fun second => ?_
  rw [List.drop_drop]
  exact (failsAs_dateOf _).bind fun executeBy => failsAs_ok _ _

theorem ofTokens_eq_error_iff {form : Form} {ts : List String} {m : Mishap} :
    ofTokens form ts = .error m ↔
      Slot.firstMishap? (form.layout.tail ++ dateSlots (ts.drop 10)) ts = some m :=
  failsAs_ofTokens form ts m

/-! ### What is read -/

theorem valueOf_eq_ok_iff {reader : Field.Reader α} {token : Option String} {a : α} :
    valueOf reader token = .ok a ↔ ∃ t, token = some t ∧ reader t = .ok a := by
  cases token with
  | none => simp [valueOf]
  | some t => simp [valueOf, Except.mapError_eq_ok_iff]

theorem getD_of_valueOf {reader : Field.Reader α} {ts : List String} {k : Nat} {a : α}
    (h : valueOf reader ts[k]? = .ok a) : reader (ts.getD k "") = .ok a := by
  obtain ⟨token, htoken, ha⟩ := valueOf_eq_ok_iff.mp h
  rwa [List.getD_eq_getElem?_getD, htoken, Option.getD_some]

/-- **What the body of a sentence yields**, field by field. -/
theorem of_ofTokens_eq_ok {form : Form} {ts : List String} {i : Instruction}
    (h : ofTokens form ts = .ok i) :
    i.form = form ∧ valueOf Field.amount ts[0]? = .ok i.amount ∧
      valueOf Field.currency ts[1]? = .ok i.currency ∧
      (∃ first second, valueOf Field.accountId ts[4]? = .ok first ∧
        valueOf Field.accountId ts[9]? = .ok second ∧
        form.roles first second = (i.debit, i.credit)) ∧
      dateOf (ts.drop 10) = .ok i.executeBy := by
  rw [ofTokens_eq_bodyOf, bodyOf] at h
  obtain ⟨amount, hamount, h⟩ := Except.bind_eq_ok_iff.mp h
  obtain ⟨currency, hcurrency, h⟩ := Except.bind_eq_ok_iff.mp h
  obtain ⟨_, -, h⟩ := Except.bind_eq_ok_iff.mp h
  obtain ⟨first, hfirst, h⟩ := Except.bind_eq_ok_iff.mp h
  obtain ⟨_, -, h⟩ := Except.bind_eq_ok_iff.mp h
  obtain ⟨second, hsecond, h⟩ := Except.bind_eq_ok_iff.mp h
  obtain ⟨executeBy, hdate, h⟩ := Except.bind_eq_ok_iff.mp h
  rw [List.head?_eq_getElem?] at hamount
  rw [List.head?_drop] at hcurrency hfirst hsecond
  cases h
  exact ⟨rfl, hamount, hcurrency, ⟨first, second, hfirst, hsecond, rfl⟩, hdate⟩

end Remittance.Sentence
