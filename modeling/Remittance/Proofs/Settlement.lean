import Remittance.Proofs.Except
import Remittance.Settlement

/-! # What a settlement rests on

An instruction passes the rules if and only if its two ids differ, both are found, the accounts
found have its currency and the debit account holds its amount (`check_eq_ok_iff`). It is settled if
and only if it passes and its date can be compared with the clock (`settle_eq_ok_iff`).

`Breaks` is the table of the rules: for each reason, the condition on the snapshot for which an
instruction is refused. `settle_eq_table` says that a settlement is decided by this table, and by the
date and the clock only if no rule is broken. -/

namespace Remittance

namespace Account

/-- `a` is the first account with the id: no account before it has the id. -/
def IsFirst (accounts : List Account) (id : String) (a : Account) : Prop :=
  ∃ before after, accounts = before ++ a :: after ∧ a.id = id ∧ ∀ b ∈ before, b.id ≠ id

variable {accounts : List Account} {id : String} {a : Account}

theorem isFirst_iff : IsFirst accounts id a ↔ find? accounts id = some a := by
  unfold find? IsFirst
  rw [List.find?_eq_some_iff_append]
  constructor
  · rintro ⟨before, after, hsplit, hid, hbefore⟩
    exact ⟨beq_iff_eq.mpr hid, before, after, hsplit, fun b hb => by simpa using hbefore b hb⟩
  · rintro ⟨hid, before, after, hsplit, hbefore⟩
    exact ⟨before, after, hsplit, beq_iff_eq.mp hid, fun b hb => by simpa using hbefore b hb⟩

theorem find?_filter {p : Account → Bool} (h : ∀ a : Account, a.id = id → p a = true) :
    find? (accounts.filter p) id = find? accounts id := by
  unfold find?
  rw [List.find?_filter]
  congr 1
  funext a
  by_cases hid : a.id = id
  · simp [hid, h a hid]
  · simp [hid]

end Account

namespace Settlement

variable {i : Instruction} {accounts : List Account} {now : Moment}

/-! ### The rules -/

/-- The reasons for which a rule refuses an instruction. -/
def refusals : List Reason :=
  [.accountNotFound, .sameAccount, .currencyMismatch, .insufficientFunds]

/-- **An instruction passes the rules.** -/
theorem check_eq_ok_iff : check i accounts = .ok () ↔
    i.debit ≠ i.credit ∧ ∃ d c, Account.find? accounts i.debit = some d ∧
      Account.find? accounts i.credit = some c ∧ d.currency = i.currency ∧
      c.currency = i.currency ∧ i.amount.value ≤ d.balance := by
  unfold check
  rcases Account.find? accounts i.debit with _ | d
  · simp [Except.throw_ne_ok]
  rcases Account.find? accounts i.credit with _ | c
  · simp [Except.throw_ne_ok]
  dsimp only
  rw [Except.ite_throw_eq_ok_iff, Except.ite_throw_eq_ok_iff, Except.ite_throw_eq_ok_iff, not_or,
    Decidable.not_not, Decidable.not_not, Nat.not_lt]
  constructor
  · rintro ⟨hne, ⟨hd, hc⟩, hle, -⟩; exact ⟨hne, d, c, rfl, rfl, hd, hc, hle⟩
  · rintro ⟨hne, _, _, ⟨⟩, ⟨⟩, hd, hc, hle⟩; exact ⟨hne, ⟨hd, hc⟩, hle, rfl⟩

/-- **The table of the rules**: for each reason, when an instruction is refused for it. The accounts
that count are the first ones with the two ids. -/
def Breaks (i : Instruction) (accounts : List Account) : Reason → Prop
  | .accountNotFound => (∀ a ∈ accounts, a.id ≠ i.debit) ∨ ∀ a ∈ accounts, a.id ≠ i.credit
  | .sameAccount => i.debit = i.credit ∧ ∃ a ∈ accounts, a.id = i.debit
  | .currencyMismatch => i.debit ≠ i.credit ∧ ∃ d c, Account.IsFirst accounts i.debit d ∧
      Account.IsFirst accounts i.credit c ∧ (d.currency ≠ i.currency ∨ c.currency ≠ i.currency)
  | .insufficientFunds => i.debit ≠ i.credit ∧ ∃ d c, Account.IsFirst accounts i.debit d ∧
      Account.IsFirst accounts i.credit c ∧ d.currency = i.currency ∧ c.currency = i.currency ∧
      d.balance < i.amount.value
  | _ => False

theorem mem_refusals_of_breaks {r : Reason} (h : Breaks i accounts r) : r ∈ refusals := by
  cases r with
  | accountNotFound | sameAccount | currencyMismatch | insufficientFunds => decide
  | _ => exact absurd h id

theorem breaks_of_missing {r : Reason}
    (h : Account.find? accounts i.debit = none ∨ Account.find? accounts i.credit = none) :
    Breaks i accounts r ↔ r = .accountNotFound := by
  have hno : ¬ ∃ d c, Account.find? accounts i.debit = some d ∧
      Account.find? accounts i.credit = some c := by
    rintro ⟨d, c, hd, hc⟩
    rcases h with h | h
    · rw [h] at hd; cases hd
    · rw [h] at hc; cases hc
  rw [Account.find?_eq_none_iff, Account.find?_eq_none_iff] at h
  cases r with
  | accountNotFound => exact iff_of_true h rfl
  | sameAccount =>
    refine iff_of_false ?_ (by decide)
    rintro ⟨hsame, a, ha, hid⟩
    rcases h with h | h
    · exact h a ha hid
    · exact h a ha (hid.trans hsame)
  | currencyMismatch =>
    refine iff_of_false ?_ (by decide)
    rintro ⟨-, d, c, hd, hc, -⟩
    exact hno ⟨d, c, Account.isFirst_iff.mp hd, Account.isFirst_iff.mp hc⟩
  | insufficientFunds =>
    refine iff_of_false ?_ (by decide)
    rintro ⟨-, d, c, hd, hc, -⟩
    exact hno ⟨d, c, Account.isFirst_iff.mp hd, Account.isFirst_iff.mp hc⟩
  | _ => exact iff_of_false id (by decide)

/-- With both accounts the other rules are looked at one after the other. -/
theorem breaks_of_found {r : Reason} {d c : Account} (hd : Account.find? accounts i.debit = some d)
    (hc : Account.find? accounts i.credit = some c) : Breaks i accounts r ↔
      (r = .sameAccount ∧ i.debit = i.credit) ∨
      (r = .currencyMismatch ∧ i.debit ≠ i.credit ∧
        (d.currency ≠ i.currency ∨ c.currency ≠ i.currency)) ∨
      (r = .insufficientFunds ∧ i.debit ≠ i.credit ∧ d.currency = i.currency ∧
        c.currency = i.currency ∧ d.balance < i.amount.value) := by
  have hdebit := Account.mem_of_find?_eq_some hd
  have hcredit := Account.mem_of_find?_eq_some hc
  have hdid := Account.id_of_find?_eq_some hd
  have hcid := Account.id_of_find?_eq_some hc
  cases r with
  | accountNotFound =>
    refine iff_of_false ?_ (by simp)
    rintro (h | h)
    · exact h d hdebit hdid
    · exact h c hcredit hcid
  | sameAccount =>
    simp only [Breaks, reduceCtorEq, false_and, or_false, true_and]
    exact ⟨fun h => h.1, fun h => ⟨h, d, hdebit, hdid⟩⟩
  | currencyMismatch => simp [Breaks, Account.isFirst_iff, hd, hc]
  | insufficientFunds => simp [Breaks, Account.isFirst_iff, hd, hc]
  | _ => simp [Breaks]

/-- **An instruction is refused for the rule that it breaks.** -/
theorem check_eq_error_iff {r : Reason} : check i accounts = .error r ↔ Breaks i accounts r := by
  unfold check
  rcases hd : Account.find? accounts i.debit with _ | d
  · rw [breaks_of_missing (.inl hd)]
    exact ⟨fun h => by cases h; rfl, fun h => by rw [h]; rfl⟩
  rcases hc : Account.find? accounts i.credit with _ | c
  · rw [breaks_of_missing (.inr hc)]
    exact ⟨fun h => by cases h; rfl, fun h => by rw [h]; rfl⟩
  rw [breaks_of_found hd hc]
  dsimp only
  rw [Except.ite_throw_eq_error_iff, Except.ite_throw_eq_error_iff, Except.ite_throw_eq_error_iff,
    not_or, Decidable.not_not, Decidable.not_not]
  constructor
  · rintro (⟨hsame, rfl⟩ | ⟨hne, ⟨hcurrency, rfl⟩ | ⟨⟨hdc, hcc⟩, ⟨hlt, rfl⟩ | ⟨-, hpass⟩⟩⟩)
    · exact .inl ⟨rfl, hsame⟩
    · exact .inr (.inl ⟨rfl, hne, hcurrency⟩)
    · exact .inr (.inr ⟨rfl, hne, hdc, hcc, hlt⟩)
    · cases hpass
  · rintro (⟨rfl, hsame⟩ | ⟨rfl, hne, hcurrency⟩ | ⟨rfl, hne, hdc, hcc, hlt⟩)
    · exact .inl ⟨hsame, rfl⟩
    · exact .inr ⟨hne, .inl ⟨hcurrency, rfl⟩⟩
    · exact .inr ⟨hne, .inr ⟨⟨hdc, hcc⟩, .inl ⟨hlt, rfl⟩⟩⟩

theorem check_eq_ok_of_not_breaks (h : ∀ r, ¬ Breaks i accounts r) : check i accounts = .ok () := by
  obtain ⟨⟨⟩, hok⟩ := Except.exists_ok_of_ne_error fun r hr => h r (check_eq_error_iff.mp hr)
  exact hok

/-! ### The accounts that are named -/

theorem check_filter_names (i : Instruction) (accounts : List Account) :
    check i (accounts.filter fun a => i.names a.id) = check i accounts := by
  unfold check
  rw [Account.find?_filter fun a ha => by simp [Instruction.names, ha],
    Account.find?_filter fun a ha => by simp [Instruction.names, ha]]

theorem settle_filter_names (i : Instruction) (accounts : List Account) (now : Moment) :
    settle i (accounts.filter fun a => i.names a.id) now = settle i accounts now := by
  unfold settle
  rw [check_filter_names]
  simp only [Entry.project, List.filter_filter, Bool.and_self]

/-- **A settlement depends on the accounts that are named**, and on no others. -/
theorem settle_congr {accounts' : List Account} (now : Moment)
    (h : accounts.filter (fun a => i.names a.id) = accounts'.filter (fun a => i.names a.id)) :
    settle i accounts now = settle i accounts' now := by
  rw [← settle_filter_names i accounts, h, settle_filter_names]

/-! ### Settling -/

theorem settle_eq_do : settle i accounts now = (do
    (check i accounts).mapError Fault.refused
    let scheduled ← (ExecutionDate.isFuture i.executeBy now).mapError Fault.undated
    return ⟨i, scheduled, Entry.project i (!scheduled) accounts⟩) := rfl

/-- **An instruction is settled.** -/
theorem settle_eq_ok_iff {s : Settlement} : settle i accounts now = .ok s ↔
    check i accounts = .ok () ∧ ∃ scheduled, ExecutionDate.isFuture i.executeBy now = .ok scheduled ∧
      s = ⟨i, scheduled, Entry.project i (!scheduled) accounts⟩ := by
  rw [settle_eq_do]
  simp only [Except.bind_eq_ok_iff, Except.mapError_eq_ok_iff]
  constructor
  · rintro ⟨_, hcheck, scheduled, hdate, ⟨⟩⟩; exact ⟨hcheck, scheduled, hdate, rfl⟩
  · rintro ⟨hcheck, scheduled, hdate, rfl⟩; exact ⟨(), hcheck, scheduled, hdate, rfl⟩

theorem of_settle_eq_error {f : Fault} (h : settle i accounts now = .error f) :
    (∃ r ∈ refusals, f = .refused r) ∨
      ∃ g, ExecutionDate.isFuture i.executeBy now = .error g ∧ f = .undated g := by
  rw [settle_eq_do] at h
  rcases Except.bind_eq_error_iff.mp h with hcheck | ⟨_, -, h⟩
  · obtain ⟨r, hr, rfl⟩ := Except.mapError_eq_error_iff.mp hcheck
    exact .inl ⟨r, mem_refusals_of_breaks (check_eq_error_iff.mp hr), rfl⟩
  · rcases Except.bind_eq_error_iff.mp h with hdate | ⟨_, -, h⟩
    · obtain ⟨g, hg, rfl⟩ := Except.mapError_eq_error_iff.mp hdate
      exact .inr ⟨g, hg, rfl⟩
    · cases h

/-- **An instruction is refused by a settlement** for the rule that it breaks. -/
theorem settle_eq_refused_iff {r : Reason} :
    settle i accounts now = .error (.refused r) ↔ Breaks i accounts r := by
  rw [settle_eq_do, ← check_eq_error_iff]
  constructor
  · intro h
    rcases Except.bind_eq_error_iff.mp h with hcheck | ⟨_, -, h⟩
    · obtain ⟨r', hr, hr'⟩ := Except.mapError_eq_error_iff.mp hcheck
      cases hr'; exact hr
    · rcases Except.bind_eq_error_iff.mp h with hdate | ⟨_, -, h⟩
      · obtain ⟨g, -, hg⟩ := Except.mapError_eq_error_iff.mp hdate
        cases hg
      · cases h
  · intro h
    rw [h]; rfl

theorem settle_of_not_breaks (h : ∀ r, ¬ Breaks i accounts r) :
    settle i accounts now = (do
      let scheduled ← (ExecutionDate.isFuture i.executeBy now).mapError Fault.undated
      return ⟨i, scheduled, Entry.project i (!scheduled) accounts⟩) := by
  rw [settle_eq_do, check_eq_ok_of_not_breaks h]
  rfl

/-- **A settlement is decided by the table of the rules**, and only if no rule is broken by the date
and the clock. A fault of the date surfaces only then, and no refusal depends on the date or the
clock. -/
theorem settle_eq_table (i : Instruction) (accounts : List Account) (now : Moment) :
    (Reason.accountNotFound.code = "AC03" ∧ Reason.sameAccount.code = "AC02" ∧
      Reason.currencyMismatch.code = "CU01" ∧ Reason.insufficientFunds.code = "AC01") ∧
    (∀ r, settle i accounts now = .error (.refused r) ↔ Breaks i accounts r) ∧
    (∀ f, settle i accounts now = .error (.undated f) ↔
      (∀ r, ¬ Breaks i accounts r) ∧ ExecutionDate.isFuture i.executeBy now = .error f) ∧
    (∀ future, (∀ r, ¬ Breaks i accounts r) → ExecutionDate.isFuture i.executeBy now = .ok future →
      ∃ s, settle i accounts now = .ok s ∧ s.record =
        { form := some i.form
          amount := some (i.amount.value : Int)
          currency := some i.currency
          debit := some i.debit
          credit := some i.credit
          executeBy := i.executeBy
          status := if future then .pending else .successful
          reason := if future then Reason.scheduled.notice else Reason.executed.notice
          entries := Entry.project i (!future) accounts } ∧
        s.record.reason.code = if future then "AP02" else "AP00") ∧
    ∀ date now' r, settle { i with executeBy := date } accounts now' = .error (.refused r) ↔
      settle i accounts now = .error (.refused r) := by
  refine ⟨⟨Reason.code_eq _, Reason.code_eq _, Reason.code_eq _, Reason.code_eq _⟩,
    fun r => settle_eq_refused_iff, fun f => ?_, fun future hrules hdate => ?_,
    fun date now' r => ?_⟩
  · constructor
    · intro h
      have hrules : ∀ r, ¬ Breaks i accounts r := by
        intro r hr
        rw [settle_eq_refused_iff.mpr hr] at h
        cases h
      refine ⟨hrules, ?_⟩
      rcases of_settle_eq_error h with ⟨r, -, hr⟩ | ⟨g, hg, hf⟩
      · cases hr
      · cases hf; exact hg
    · rintro ⟨hrules, hdate⟩
      rw [settle_of_not_breaks hrules, hdate]; rfl
  · refine ⟨⟨i, future, Entry.project i (!future) accounts⟩, ?_, ?_, ?_⟩
    · rw [settle_of_not_breaks hrules, hdate]; rfl
    · cases future <;> rfl
    · cases future <;> exact Reason.code_eq _
  · rw [settle_eq_refused_iff, settle_eq_refused_iff]
    cases r <;> exact Iff.rfl

end Settlement

end Remittance
