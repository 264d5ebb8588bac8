import Remittance.Proofs.Ledger.Entry
import Remittance.Proofs.Settlement

/-! # Posting entries

An instruction is executed if it passes the rules and its date does not lie ahead
(`Settlement.executes_iff`). Posting entries gives each account the balance of its entry. Where no id
is repeated, posting the entries of an executed instruction takes the amount from the debit account
and adds it to the credit account (`Account.posted_project`). What this makes of an account is told by
`Account.after`, so a snapshot after one instruction can be given to the next one: ids lead to the
same accounts as before (`Account.find?_map_after`). -/

namespace Remittance

namespace Account

variable {i : Instruction} {accounts : List Account} {a : Account}

/-- The account with the balance of the first entry that has its id, if there is one. -/
def posted (entries : List Entry) (a : Account) : Account :=
  match entries.find? (·.id == a.id) with
  | some e => { a with balance := e.balance.toNat }
  | none => a

/-- The account after an instruction is executed. -/
def after (i : Instruction) (a : Account) : Account :=
  { a with
    balance :=
      if a.id = i.debit then a.balance - i.amount.value
      else if a.id = i.credit then a.balance + i.amount.value
      else a.balance }

theorem after_debit (hd : a.id = i.debit) :
    after i a = { a with balance := a.balance - i.amount.value } := by
  rw [after, if_pos hd]

theorem after_credit (hd : a.id ≠ i.debit) (hc : a.id = i.credit) :
    after i a = { a with balance := a.balance + i.amount.value } := by
  rw [after, if_neg hd, if_pos hc]

theorem balance_after_debit (hd : a.id = i.debit) :
    (after i a).balance = a.balance - i.amount.value := by
  rw [after_debit hd]

theorem balance_after_credit (hd : a.id ≠ i.debit) (hc : a.id = i.credit) :
    (after i a).balance = a.balance + i.amount.value := by
  rw [after_credit hd hc]

theorem after_other (hd : a.id ≠ i.debit) (hc : a.id ≠ i.credit) : after i a = a := by
  rw [after, if_neg hd, if_neg hc]

theorem after_of_names (h : i.names a.id = true) :
    after i a = { a with balance := (Entry.ofAccount i true a).balance.toNat } := by
  have hbalance : (Entry.ofAccount i true a).balance = a.balance + Entry.change i a.id := rfl
  rw [hbalance, Entry.change]
  by_cases hd : a.id = i.debit
  · rw [after_debit hd, if_pos hd, ← Int.sub_eq_add_neg, Int.toNat_sub]
  · have hc : a.id = i.credit := (Instruction.names_iff.mp h).resolve_left hd
    rw [after_credit hd hc, if_neg hd, ← Int.natCast_add, Int.toNat_natCast]

theorem after_of_not_names (h : i.names a.id = false) : after i a = a := by
  rw [← Bool.not_eq_true, Instruction.names_iff, not_or] at h
  exact after_other h.1 h.2

/-- **Posting the entries of an executed instruction** makes of each account what the instruction
does, if no id is repeated. -/
theorem posted_project (hnodup : (accounts.map Account.id).Nodup) :
    accounts.map (posted (Entry.project i true accounts)) = accounts.map (after i) := by
  refine List.map_congr_left fun a ha => ?_
  have hentry : (Entry.project i true accounts).find? (·.id == a.id) =
      (find? (accounts.filter fun b => i.names b.id) a.id).map (Entry.ofAccount i true) := by
    rw [Entry.project, List.find?_map]
    rfl
  rw [posted, hentry]
  cases hnames : i.names a.id
  · have hnone : find? (accounts.filter fun b => i.names b.id) a.id = none := by
      refine find?_eq_none_iff.mpr fun b hb hid => ?_
      have hb := (List.mem_filter.mp hb).2
      rw [hid, hnames] at hb
      cases hb
    rw [hnone, after_of_not_names hnames]
    rfl
  · have hsome : find? (accounts.filter fun b => i.names b.id) a.id = some a := by
      rw [find?_filter fun b hb => by rw [hb, hnames]]
      exact find?_eq_some_of_mem (countId_le_one hnodup _) ha rfl
    rw [hsome, after_of_names hnames]
    rfl

theorem map_id_after (i : Instruction) (accounts : List Account) :
    (accounts.map (after i)).map Account.id = accounts.map Account.id := by
  rw [List.map_map]
  rfl

/-- **An id leads to the account that it led to before.** -/
theorem find?_map_after (i : Instruction) (accounts : List Account) (id : String) :
    find? (accounts.map (after i)) id = (find? accounts id).map (after i) := by
  unfold find?
  rw [List.find?_map]
  rfl

end Account

namespace Settlement

variable {i : Instruction} {accounts : List Account} {now : Moment}

/-- The instruction is settled, and does not wait for its date. -/
def Executes (i : Instruction) (accounts : List Account) (now : Moment) (s : Settlement) : Prop :=
  settle i accounts now = .ok s ∧ s.status = .successful

theorem executes_iff {s : Settlement} : Executes i accounts now s ↔
    check i accounts = .ok () ∧ ExecutionDate.isFuture i.executeBy now = .ok false ∧
      s = ⟨i, false, Entry.project i true accounts⟩ := by
  unfold Executes
  rw [settle_eq_ok_iff]
  constructor
  · rintro ⟨⟨hcheck, scheduled, hdate, rfl⟩, hstatus⟩
    cases scheduled with
    | false => exact ⟨hcheck, hdate, rfl⟩
    | true => cases hstatus
  · rintro ⟨hcheck, hdate, rfl⟩
    exact ⟨⟨hcheck, false, hdate, rfl⟩, rfl⟩

end Settlement

end Remittance
