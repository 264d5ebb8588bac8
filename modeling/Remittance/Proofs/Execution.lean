import Remittance.Proofs.Handling
import Remittance.Proofs.Ledger.Entry
import Remittance.Proofs.Shape.Account

/-! # Executed transfers

A successful record is that of an instruction that passed the rules and was carried out on the whole
snapshot (`of_successful`). The rules look at the first account of each id, while the entries cover
every account with one of the ids. So the record balances, with one entry for each side, if and only
if neither id is repeated (`handleJson_balanced_iff`). -/

namespace Remittance

/-- The entries of a record balance: there is one for each side, in the order of the snapshot, what
one side gives the other gets, no balance is below zero, and all are in the record's currency. -/
structure Record.Balanced (r : Record) (accounts : List Account) : Prop where
  sides : ∃ d c, r.debit = some d ∧ r.credit = some c ∧
    (r.entries.map Entry.id = [d, c] ∨ r.entries.map Entry.id = [c, d])
  order : (r.entries.map Entry.id).Sublist (accounts.map Account.id)
  sum : (r.entries.map Entry.balance).sum = (r.entries.map Entry.balanceBefore).sum
  nonneg : ∀ e ∈ r.entries, 0 ≤ e.balance
  currency : ∀ e ∈ r.entries, r.currency = some e.currency

namespace Settlement

variable {i : Instruction} {accounts : List Account}

/-! ### The accounts that were checked -/

theorem countId_pos_of_check (hcheck : check i accounts = .ok ()) :
    0 < Account.countId accounts i.debit ∧ 0 < Account.countId accounts i.credit := by
  obtain ⟨-, d, c, hd, hc, -⟩ := check_eq_ok_iff.mp hcheck
  exact ⟨Account.countId_pos_iff.mpr
      ⟨d, Account.mem_of_find?_eq_some hd, Account.id_of_find?_eq_some hd⟩,
    Account.countId_pos_iff.mpr
      ⟨c, Account.mem_of_find?_eq_some hc, Account.id_of_find?_eq_some hc⟩⟩

theorem le_balance_of_check (hcheck : check i accounts = .ok ())
    (hcount : Account.countId accounts i.debit ≤ 1) {a : Account} (ha : a ∈ accounts)
    (hid : a.id = i.debit) : i.amount.value ≤ a.balance := by
  obtain ⟨-, d, c, hd, -, -, -, hle⟩ := check_eq_ok_iff.mp hcheck
  rw [Account.find?_eq_some_of_mem hcount ha hid] at hd
  cases hd
  exact hle

theorem currency_of_check (hcheck : check i accounts = .ok ())
    (hdebit : Account.countId accounts i.debit ≤ 1) (hcredit : Account.countId accounts i.credit ≤ 1)
    {a : Account} (ha : a ∈ accounts) (hid : a.id = i.debit ∨ a.id = i.credit) :
    a.currency = i.currency := by
  obtain ⟨-, d, c, hd, hc, hdc, hcc, -⟩ := check_eq_ok_iff.mp hcheck
  rcases hid with hid | hid
  · rw [Account.find?_eq_some_of_mem hdebit ha hid] at hd
    cases hd
    exact hdc
  · rw [Account.find?_eq_some_of_mem hcredit ha hid] at hc
    cases hc
    exact hcc

/-- **A transfer keeps the sum of each currency** if the ids are not repeated: both accounts are in
one currency, and they occur in it equally often. -/
theorem sum_delta_currency (hcheck : check i accounts = .ok ())
    (hnodup : (accounts.map Account.id).Nodup) (currency : String) :
    ((accounts.filter (·.currency = currency)).map fun a => Entry.delta i a.id).sum = 0 := by
  obtain ⟨hne, -⟩ := check_eq_ok_iff.mp hcheck
  have hle := Account.countId_le_one hnodup
  have hpos := countId_pos_of_check hcheck
  have hcurrency {a : Account} := currency_of_check (a := a) hcheck (hle _) (hle _)
  rw [Entry.sum_delta hne,
    Account.countId_filter_currency currency fun a ha hid => hcurrency ha (.inl hid),
    Account.countId_filter_currency currency fun a ha hid => hcurrency ha (.inr hid),
    Nat.le_antisymm (hle _) hpos.1, Nat.le_antisymm (hle _) hpos.2, Int.sub_self]

/-! ### Balance -/

/-- **The record of an executed instruction balances** if and only if its ids are not repeated. -/
theorem balanced_record_iff (hcheck : check i accounts = .ok ()) :
    (record ⟨i, false, Entry.project i true accounts⟩).Balanced accounts ↔
      Account.countId accounts i.debit = 1 ∧ Account.countId accounts i.credit = 1 := by
  obtain ⟨hne, -⟩ := check_eq_ok_iff.mp hcheck
  constructor
  · rintro ⟨⟨_, _, ⟨⟩, ⟨⟩, hsides⟩, -⟩
    exact (Entry.map_id_project_eq_pair_iff hne true).mp hsides
  · rintro ⟨hdebit, hcredit⟩
    exact
      { sides := ⟨i.debit, i.credit, rfl, rfl,
          (Entry.map_id_project_eq_pair_iff hne true).mpr ⟨hdebit, hcredit⟩⟩
        order := by
          show ((Entry.project i true accounts).map Entry.id).Sublist _
          rw [Entry.map_id_project]; exact List.filter_sublist
        sum := (Entry.sum_balance_project_eq_iff hne).mpr (hdebit.trans hcredit.symm)
        nonneg := Entry.balance_project_nonneg_iff.mpr fun a ha hid =>
          le_balance_of_check hcheck hdebit.le ha hid
        currency := fun e he => congrArg some
          (Entry.currency_project_iff.mpr (fun a ha hid =>
            currency_of_check hcheck hdebit.le hcredit.le ha hid) e he).symm }

end Settlement

namespace Request

theorem of_successful {r : Request} {now : Moment}
    (h : (r.handle now).record.status = .successful) :
    ∃ i, i.Sound ∧ Settlement.check i r.accounts = .ok () ∧
      (r.handle now).record =
        Settlement.record ⟨i, false, Entry.project i true r.accounts⟩ := by
  rcases record_cases r now with ⟨i, scheduled, hi, hcheck, hrecord⟩ | ⟨reason, -, hrecord⟩
  · cases scheduled
    · exact ⟨i, hi, hcheck, hrecord⟩
    · rw [hrecord] at h; cases h
  · rw [hrecord] at h; cases h

/-- **A successful record balances** if and only if its two ids are not repeated in the snapshot. It
has an entry for every account with one of the ids; these keep their sum if and only if both ids
occur equally often, stay above zero if and only if every account with the debit id holds the amount,
and are in the record's currency if and only if all those accounts are. -/
theorem handleJson_balanced_iff {payload : Json} {now : Moment} {r : Request} {handled : Handled}
    (hgood : Request.ofJson payload = .good r)
    (hhandled : Request.handleJson payload now = .good handled)
    (hstatus : handled.record.status = .successful) :
    ∃ (d c currency : String) (n : Nat), handled.record.debit = some d ∧
      handled.record.credit = some c ∧ handled.record.currency = some currency ∧
      handled.record.amount = some (n : Int) ∧ 0 < n ∧ d ≠ c ∧
      handled.record.entries.map Entry.id =
        (r.accounts.map Account.id).filter (fun id => id = d ∨ id = c) ∧
      (handled.record.Balanced r.accounts ↔
        Account.countId r.accounts d = 1 ∧ Account.countId r.accounts c = 1) ∧
      ((handled.record.entries.map Entry.balance).sum =
          (handled.record.entries.map Entry.balanceBefore).sum ↔
        Account.countId r.accounts d = Account.countId r.accounts c) ∧
      ((∀ e ∈ handled.record.entries, 0 ≤ e.balance) ↔
        ∀ a ∈ r.accounts, a.id = d → n ≤ a.balance) ∧
      ((∀ e ∈ handled.record.entries, e.currency = currency) ↔
        ∀ a ∈ r.accounts, a.id = d ∨ a.id = c → a.currency = currency) := by
  rw [handleJson_of_good now hgood] at hhandled
  cases hhandled
  obtain ⟨i, -, hcheck, hrecord⟩ := of_successful hstatus
  obtain ⟨hne, -⟩ := Settlement.check_eq_ok_iff.mp hcheck
  rw [hrecord]
  refine ⟨i.debit, i.credit, i.currency, i.amount.value, rfl, rfl, rfl, rfl, i.amount.pos, hne, ?_,
    Settlement.balanced_record_iff hcheck, Entry.sum_balance_project_eq_iff hne,
    Entry.balance_project_nonneg_iff, Entry.currency_project_iff⟩
  refine (Entry.map_id_project i true r.accounts).trans (List.filter_congr fun id _ => ?_)
  rw [Bool.eq_iff_iff, Instruction.names_iff, decide_eq_true_iff]

/-- A request whose debit id is repeated. -/
def repeatedDebit : Request where
  accounts := [⟨"A1", 500, "USD"⟩, ⟨"A1", 50, "USD"⟩, ⟨"A2", 0, "USD"⟩]
  sentence := "DEBIT 100 USD FROM ACCOUNT A1 FOR CREDIT TO ACCOUNT A2"

/-- A repeated debit id is charged twice. -/
theorem not_balanced_repeatedDebit :
    Request.ofJson repeatedDebit.toJson = .good repeatedDebit ∧
    ∃ handled, Request.handleJson repeatedDebit.toJson ⟨⟨2026, 1, 1⟩, 0, some 0⟩ = .good handled ∧
      handled.record.status = .successful ∧ ¬ handled.record.Balanced repeatedDebit.accounts := by
  have hgood : Request.ofJson repeatedDebit.toJson = .good repeatedDebit := by rfl
  have hend : (repeatedDebit.handle ⟨⟨2026, 1, 1⟩, 0, some 0⟩).record.status = .successful ∧
      (repeatedDebit.handle ⟨⟨2026, 1, 1⟩, 0, some 0⟩).record.debit = some "A1" := by
    decide +kernel
  have hhandled := handleJson_of_good ⟨⟨2026, 1, 1⟩, 0, some 0⟩ hgood
  obtain ⟨d, _, _, _, hd, -, -, -, -, -, -, hbalanced, -⟩ :=
    handleJson_balanced_iff hgood hhandled hend.1
  refine ⟨hgood, _, hhandled, hend.1, fun h => ?_⟩
  rw [hend.2] at hd
  cases hd
  have hcount : Account.countId repeatedDebit.accounts "A1" = 2 := by decide
  have := (hbalanced.mp h).1
  omega

end Request

end Remittance
