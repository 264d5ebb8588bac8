import Mathlib.Order.Bounds.Basic
import Remittance.Proofs.Instruction.Cursor

/-! # Runs of operations on a cursor

A cursor is walked by five kinds of operations (`Operation`), in any order and also after one of them
has failed. `OperationTable` says what each of them yields and how far it moves the cursor. This is
by some of the tokens that are left (`onward_after`), so after any run the cursor stands within its
tokens and not before the place where it stood (`onward_run`).

Hence the tokens behind the cursor are divided among the operations of the run: each of them was
stepped over by exactly one operation, and no other token was (`run_tiles`). -/

namespace Remittance.Cursor

/-- A step on a cursor that may stand anywhere in a run. -/
inductive Operation : Type 1 where
  | hasMore
  | sees (keyword : String)
  | expect (keywords : List String)
  | take {α : Type} (reader : Field.Reader α)
  | executeBy

namespace Operation

/-- What an operation yields if it does not fail. -/
abbrev Value : Operation → Type
  | hasMore => Bool
  | sees _ => Bool
  | expect _ => Unit
  | @take α _ => α
  | executeBy => Option String

/-- The operation as an action on a cursor. -/
def action : (o : Operation) → Reading o.Value
  | hasMore => do return (← get).hasMore
  | sees keyword => do return (← get).sees keyword
  | expect keywords => Cursor.expect keywords
  | take reader => Cursor.take reader
  | executeBy => Cursor.executeBy

end Operation

/-- The cursor that an operation leaves behind, whether or not it fails. -/
def after (c : Cursor) (o : Operation) : Cursor :=
  (act o.action c).2

/-- The cursor that a run of operations leaves behind; a failure does not end the run. -/
def run (c : Cursor) (os : List Operation) : Cursor :=
  os.foldl after c

/-- The token that a cursor stands before, in upper case. -/
def keyword? (c : Cursor) : Option String :=
  c.current?.map Text.upper

/-- The first `n` of the keywords stand at the cursor, in any casing. -/
def Shows (c : Cursor) (keywords : List String) (n : Nat) : Prop :=
  n ≤ keywords.length ∧ keywords.take n <+: c.rest.map Text.upper

/-- **What the operations do at a cursor**: what each of them yields, and the cursor that it leaves
behind. -/
structure OperationTable (c : Cursor) : Prop where
  hasMore : act Operation.hasMore.action c = (.ok (decide (c.position < c.tokens.length)), c)
  sees (keyword : String) :
    act (Operation.sees keyword).action c = (.ok (decide (c.keyword? = some keyword)), c)
  /-- Keywords are stepped over as far as they are there. -/
  expect (keywords : List String) : ∃ n, IsGreatest {n | c.Shows keywords n} n ∧
    act (Operation.expect keywords).action c =
      (if n = keywords.length then .ok () else .error (.refused .keywordOrder), c.skip n)
  /-- A token is stepped over even if it is refused. -/
  take {α : Type} (reader : Field.Reader α) (token : String) :
    c.current? = some token →
      act (Operation.take reader).action c = ((reader token).mapError .refused, c.skip 1)
  take_end {α : Type} (reader : Field.Reader α) : c.position = c.tokens.length →
    act (Operation.take reader).action c = (.error .exhausted, c)
  take_exhausted_iff {α : Type} (reader : Field.Reader α) :
    (act (Operation.take reader).action c).1 = .error .exhausted ↔ c.position = c.tokens.length
  executeBy_absent : c.keyword? ≠ some "ON" → act Operation.executeBy.action c = (.ok none, c)
  executeBy_dangling : c.keyword? = some "ON" → c.next.current? = none →
    act Operation.executeBy.action c = (.ok none, c.skip 1)
  /-- The clause is stepped over even if its date is refused. -/
  executeBy_dated (token : String) : c.keyword? = some "ON" → c.next.current? = some token →
    act Operation.executeBy.action c = (((Field.date token).mapError .refused).map some, c.skip 2)

/-- The operation with the number `i` of a run steps over the token with the number `k`. -/
def StepsOver (c : Cursor) (os : List Operation) (i k : Nat) : Prop :=
  i < os.length ∧ (c.run (os.take i)).position ≤ k ∧ k < (c.run (os.take (i + 1))).position

/-! ### The entries of the table -/

theorem sees_eq_decide (c : Cursor) (word : String) :
    c.sees word = decide (c.keyword? = some word) := by
  unfold sees keyword?
  cases c.current? with
  | none => rfl
  | some token => simp [Bool.beq_eq_decide_eq]

theorem sees_iff {c : Cursor} {word : String} :
    c.sees word = true ↔ c.keyword? = some word := by
  rw [sees_eq_decide, decide_eq_true_iff]

theorem rest_map_upper_of_keyword? {c : Cursor} {word : String} (h : c.keyword? = some word) :
    c.rest.map Text.upper = word :: c.next.rest.map Text.upper := by
  obtain ⟨token, htoken, rfl⟩ := Option.map_eq_some_iff.mp h
  rw [current?_eq] at htoken
  obtain ⟨ts, hrest⟩ := List.head?_eq_some_iff.mp htoken
  rw [rest_next, hrest, List.tail_cons, List.map_cons]

theorem shows_zero (c : Cursor) (keywords : List String) : c.Shows keywords 0 :=
  ⟨Nat.zero_le _, by simp⟩

theorem shows_cons_succ {c : Cursor} {word : String} {words : List String} {n : Nat} :
    c.Shows (word :: words) (n + 1) ↔ c.keyword? = some word ∧ c.next.Shows words n := by
  unfold Shows
  rw [List.length_cons, Nat.add_le_add_iff_right, List.take_succ_cons]
  constructor
  · rintro ⟨hn, ts, hts⟩
    rw [List.cons_append] at hts
    have hword : c.keyword? = some word := by
      rw [keyword?, current?_eq, ← List.head?_map, ← hts, List.head?_cons]
    rw [rest_map_upper_of_keyword? hword, List.cons.injEq] at hts
    exact ⟨hword, hn, ts, hts.2⟩
  · rintro ⟨hword, hn, hprefix⟩
    rw [rest_map_upper_of_keyword? hword]
    exact ⟨hn, (List.prefix_cons_inj word).mpr hprefix⟩

/-- **Keywords are stepped over as far as they are there.** -/
theorem exists_act_expect (words : List String) (c : Cursor) :
    ∃ n, IsGreatest {n | c.Shows words n} n ∧ act (expect words) c =
      (if n = words.length then .ok () else .error (.refused .keywordOrder), c.skip n) := by
  induction words generalizing c with
  | nil => exact ⟨0, ⟨shows_zero c [], fun n hn => hn.1⟩, rfl⟩
  | cons word words ih =>
    rw [act_expect_cons]
    by_cases hword : c.keyword? = some word
    · -- the first keyword and as many of the others as stand behind it
      obtain ⟨n, ⟨hn, hgreatest⟩, hact⟩ := ih c.next
      refine ⟨n + 1, ⟨shows_cons_succ.mpr ⟨hword, hn⟩, fun m hm => ?_⟩, ?_⟩
      · cases m with
        | zero => exact Nat.zero_le _
        | succ m => exact Nat.succ_le_succ (hgreatest (shows_cons_succ.mp hm).2)
      · rw [if_pos (sees_iff.mpr hword), hact, next_skip, List.length_cons]
        simp only [Nat.add_right_cancel_iff]
    · refine ⟨0, ⟨shows_zero c _, fun m hm => ?_⟩, ?_⟩
      · cases m with
        | zero => exact Nat.le_refl 0
        | succ m => exact absurd (shows_cons_succ.mp hm).1 hword
      · rw [if_neg fun h => hword (sees_iff.mp h), if_neg (by simp)]
        rfl

theorem lt_of_current? {c : Cursor} {token : String} (h : c.current? = some token) :
    c.position < c.tokens.length :=
  (List.getElem?_eq_some_iff.mp h).1

theorem current?_eq_none_iff {c : Cursor} :
    c.current? = none ↔ c.tokens.length ≤ c.position :=
  List.getElem?_eq_none_iff

theorem act_take_some {α : Type} (reader : Field.Reader α) {c : Cursor} {token : String}
    (h : c.current? = some token) :
    act (take reader) c = ((reader token).mapError .refused, c.skip 1) := by
  rw [act_take, h]
  rfl

theorem act_take_none {α : Type} (reader : Field.Reader α) {c : Cursor} (h : c.current? = none) :
    act (take reader) c = (.error .exhausted, c) := by
  rw [act_take, h]

theorem act_executeBy_absent {c : Cursor} (h : c.keyword? ≠ some "ON") :
    act executeBy c = (.ok none, c) := by
  rw [act_executeBy, if_neg fun hon => h (sees_iff.mp hon)]

theorem act_executeBy_dangling {c : Cursor} (h : c.keyword? = some "ON")
    (hend : c.next.current? = none) : act executeBy c = (.ok none, c.skip 1) := by
  have hmore : ¬ c.next.hasMore = true := by
    rw [hasMore, decide_eq_true_iff]
    exact Nat.not_lt.mpr (current?_eq_none_iff.mp hend)
  rw [act_executeBy, if_pos (sees_iff.mpr h), if_neg hmore]
  rfl

theorem act_executeBy_dated {c : Cursor} {token : String} (h : c.keyword? = some "ON")
    (htoken : c.next.current? = some token) :
    act executeBy c = (((Field.date token).mapError .refused).map some, c.skip 2) := by
  have hmore : c.next.hasMore = true := decide_eq_true (lt_of_current? htoken)
  rw [act_executeBy, if_pos (sees_iff.mpr h), if_pos hmore, act_take_some Field.date htoken,
    next_skip]

/-- **The table holds** of every cursor that has not passed the end of its tokens. -/
theorem operationTable {c : Cursor} (hc : c.position ≤ c.tokens.length) : OperationTable c where
  hasMore := rfl
  sees keyword := by
    rw [← sees_eq_decide]
    rfl
  expect keywords := exists_act_expect keywords c
  take reader _ htoken := act_take_some reader htoken
  take_end reader hend := act_take_none reader (current?_eq_none_iff.mpr hend.ge)
  take_exhausted_iff reader := by
    show (act (Cursor.take reader) c).1 = .error .exhausted ↔ _
    cases htoken : c.current? with
    | none =>
      rw [act_take_none reader htoken]
      exact iff_of_true rfl (Nat.le_antisymm hc (current?_eq_none_iff.mp htoken))
    | some token =>
      have hlt := lt_of_current? htoken
      rw [act_take_some reader htoken]
      refine iff_of_false (fun h => ?_) (by omega)
      cases hread : reader token <;> rw [hread] at h <;> cases h
  executeBy_absent := act_executeBy_absent
  executeBy_dangling := act_executeBy_dangling
  executeBy_dated _ := act_executeBy_dated

/-! ### Moving on -/

/-- A cursor that has moved on from another one, by some of the tokens that were left. -/
def Onward (c c' : Cursor) : Prop :=
  ∃ n ≤ c.rest.length, c' = c.skip n

section Onward

variable {c c' c'' : Cursor}

theorem Onward.refl (c : Cursor) : c.Onward c :=
  ⟨0, Nat.zero_le _, rfl⟩

theorem Onward.trans (h : c.Onward c') (h' : c'.Onward c'') : c.Onward c'' := by
  obtain ⟨n, hn, rfl⟩ := h
  obtain ⟨m, hm, rfl⟩ := h'
  rw [rest_skip, List.length_drop] at hm
  refine ⟨n + m, by omega, ?_⟩
  unfold skip
  rw [Nat.add_assoc]

theorem Onward.tokens_eq (h : c.Onward c') : c'.tokens = c.tokens := by
  obtain ⟨n, -, rfl⟩ := h
  rfl

theorem Onward.position_le (h : c.Onward c') : c.position ≤ c'.position := by
  obtain ⟨n, -, rfl⟩ := h
  exact Nat.le_add_right _ _

theorem Onward.position_le_length (h : c.Onward c') (hc : c.position ≤ c.tokens.length) :
    c'.position ≤ c'.tokens.length := by
  rw [h.tokens_eq]
  obtain ⟨n, hn, rfl⟩ := h
  rw [rest, List.length_drop] at hn
  show c.position + n ≤ c.tokens.length
  omega

end Onward

/-- An operation moves the cursor by some of the tokens that are left. -/
theorem onward_after (c : Cursor) (o : Operation) : c.Onward (c.after o) := by
  have hlength : c.rest.length = c.tokens.length - c.position := List.length_drop
  cases o with
  | hasMore => exact Onward.refl c
  | sees keyword => exact Onward.refl c
  | expect keywords =>
    obtain ⟨n, ⟨⟨hn, hprefix⟩, -⟩, hact⟩ := exists_act_expect keywords c
    have hle : n ≤ c.rest.length := by
      have := hprefix.length_le
      rw [List.length_take, List.length_map] at this
      omega
    exact ⟨n, hle, congrArg Prod.snd hact⟩
  | take reader =>
    cases htoken : c.current? with
    | none => exact ⟨0, Nat.zero_le _, congrArg Prod.snd (act_take_none reader htoken)⟩
    | some token =>
      have hlt := lt_of_current? htoken
      exact ⟨1, by omega, congrArg Prod.snd (act_take_some reader htoken)⟩
  | executeBy =>
    by_cases hon : c.keyword? = some "ON"
    · obtain ⟨_, htoken, -⟩ := Option.map_eq_some_iff.mp hon
      have hlt := lt_of_current? htoken
      cases hnext : c.next.current? with
      | none => exact ⟨1, by omega, congrArg Prod.snd (act_executeBy_dangling hon hnext)⟩
      | some token =>
        have hlt' : c.position + 1 < c.tokens.length := lt_of_current? hnext
        exact ⟨2, by omega, congrArg Prod.snd (act_executeBy_dated hon hnext)⟩
    · exact ⟨0, Nat.zero_le _, congrArg Prod.snd (act_executeBy_absent hon)⟩

theorem onward_run (c : Cursor) (os : List Operation) : c.Onward (c.run os) := by
  induction os generalizing c with
  | nil => exact Onward.refl c
  | cons o os ih => exact (onward_after c o).trans (ih (c.after o))

/-! ### Which operation steps over a token -/

theorem run_append (c : Cursor) (os os' : List Operation) :
    c.run (os ++ os') = (c.run os).run os' :=
  List.foldl_append

theorem position_run_take_le (c : Cursor) (os : List Operation) {i j : Nat} (h : i ≤ j) :
    (c.run (os.take i)).position ≤ (c.run (os.take j)).position := by
  obtain ⟨later, hlater⟩ := (List.take_prefix_take_left h : os.take i <+: os.take j)
  rw [← hlater, run_append]
  exact (onward_run _ later).position_le

theorem exists_stepsOver {c : Cursor} {os : List Operation} {k : Nat} (hle : c.position ≤ k)
    (hlt : k < (c.run os).position) : ∃ i, c.StepsOver os i k := by
  induction os generalizing c with
  | nil => exact absurd hlt (Nat.not_lt.mpr hle)
  | cons o os ih =>
    -- the first operation steps over the token, or it is left to the others
    by_cases hk : k < (c.after o).position
    · exact ⟨0, Nat.succ_pos _, hle, hk⟩
    · obtain ⟨i, hi, hstep⟩ := ih (Nat.not_lt.mp hk) hlt
      exact ⟨i + 1, Nat.succ_lt_succ hi, hstep⟩

theorem StepsOver.lt {c : Cursor} {os : List Operation} {i k : Nat} (h : c.StepsOver os i k) :
    k < (c.run os).position := by
  have hle := position_run_take_le c os (show i + 1 ≤ os.length from h.1)
  rw [List.take_length] at hle
  exact Nat.lt_of_lt_of_le h.2.2 hle

/-- Two operations do not step over the same token. -/
theorem StepsOver.le {c : Cursor} {os : List Operation} {i j k : Nat} (hi : c.StepsOver os i k)
    (hj : c.StepsOver os j k) : i ≤ j := by
  rw [← Nat.not_lt]
  intro hlt
  have hle := position_run_take_le c os (show j + 1 ≤ i from hlt)
  have hafter := hi.2.1
  have hbefore := hj.2.2
  omega

/-- **The tokens behind a cursor are divided among the operations that have moved it.** After any
operations, failed ones among them, the cursor stands within its tokens, no operation moves it back,
and the table says what each of them would do next. A token is behind the cursor if and only if
exactly one of the operations has stepped over it. -/
theorem run_tiles (tokens : List String) (os : List Operation) :
    let c := (Cursor.mk tokens 0).run os
    c.tokens = tokens ∧ c.position ≤ tokens.length ∧
    (∀ later, c.position ≤ (c.run later).position) ∧
    c.OperationTable ∧ Reason.keywordOrder.code = "SY02" ∧
    ∀ k, k < c.position ↔ ∃! i, (Cursor.mk tokens 0).StepsOver os i k := by
  intro c
  have hon : (Cursor.mk tokens 0).Onward c := onward_run _ os
  have htokens : c.tokens = tokens := hon.tokens_eq
  have hposition : c.position ≤ c.tokens.length := hon.position_le_length (Nat.zero_le _)
  refine ⟨htokens, htokens ▸ hposition, fun later => (onward_run c later).position_le,
    operationTable hposition, rfl, fun k => ?_⟩
  constructor
  · intro hk
    obtain ⟨i, hi⟩ := exists_stepsOver (Nat.zero_le k) hk
    exact ⟨i, hi, fun j hj => Nat.le_antisymm (hj.le hi) (hi.le hj)⟩
  · rintro ⟨i, hi, -⟩
    exact hi.lt

/-- The amount and the date are refused, the second keyword is missing, and at the end no token is
left. -/
example : ((Cursor.mk ["0", "from", "ON", "today"] 0).run
    [.take Field.amount, .expect ["FROM", "ACCOUNT"], .executeBy, .take Field.accountId]).position =
      4 := by
  decide +kernel

end Remittance.Cursor
