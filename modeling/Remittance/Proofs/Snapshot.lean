import Remittance.Proofs.Ledger.Entry
import Remittance.Proofs.Settlement

/-! # What of a snapshot a settlement depends on

A settlement looks at the accounts with one of the two ids, wherever they stand among the others.
Their order counts only where an id is repeated, since then the first of them is checked: an id that
occurs at most once leads to the same account in any order (`Account.find?_perm`). So a snapshot in
another order gives the same fault or a record with the same entries in that order
(`Settlement.settle_snapshot`). -/

namespace Remittance

namespace Account

variable {accounts accounts' : List Account} {id : String}

/-- **An id that is not repeated leads to the same account in any order.** -/
theorem find?_perm (h : accounts.Perm accounts') (hcount : countId accounts id ≤ 1) :
    find? accounts id = find? accounts' id := by
  cases hfound : find? accounts' id with
  | none =>
    rw [find?_eq_none_iff] at hfound ⊢
    exact fun a ha => hfound a (h.mem_iff.mp ha)
  | some a =>
    have hmem := h.mem_iff.mpr (mem_of_find?_eq_some hfound)
    exact find?_eq_some_of_mem hcount hmem (id_of_find?_eq_some hfound)

end Account

theorem Entry.project_perm {i : Instruction} {accounts accounts' : List Account}
    (h : accounts.Perm accounts') (apply : Bool) :
    (project i apply accounts).Perm (project i apply accounts') :=
  (h.filter _).map _

namespace Settlement

variable {i : Instruction} {accounts accounts' : List Account} {now : Moment}

theorem check_perm (h : accounts.Perm accounts') (hdebit : Account.countId accounts i.debit ≤ 1)
    (hcredit : Account.countId accounts i.credit ≤ 1) : check i accounts = check i accounts' := by
  unfold check
  rw [Account.find?_perm h hdebit, Account.find?_perm h hcredit]

/-- Where an id is repeated, the order decides. -/
example :
    let i : Instruction := ⟨.debit, ⟨5, by decide⟩, "USD", "a", "b", none⟩
    check i [⟨"a", 0, "USD"⟩, ⟨"a", 9, "USD"⟩, ⟨"b", 0, "USD"⟩] = .error .insufficientFunds ∧
      check i [⟨"a", 9, "USD"⟩, ⟨"a", 0, "USD"⟩, ⟨"b", 0, "USD"⟩] = .ok () :=
  ⟨rfl, rfl⟩

/-- **A settlement fails** for a rule, or else for its date. -/
theorem settle_eq_error_iff {f : Fault} : settle i accounts now = .error f ↔
    (∃ r, check i accounts = .error r ∧ .refused r = f) ∨
      (check i accounts = .ok () ∧
        ∃ g, ExecutionDate.isFuture i.executeBy now = .error g ∧ .undated g = f) := by
  rw [settle_eq_do]
  simp only [Except.bind_eq_error_iff, Except.mapError_eq_error_iff, Except.mapError_eq_ok_iff]
  constructor
  · rintro (hrule | ⟨⟨⟩, hcheck, hdate | ⟨_, -, hreturn⟩⟩)
    · exact .inl hrule
    · exact .inr ⟨hcheck, hdate⟩
    · cases hreturn
  · rintro (hrule | ⟨hcheck, hdate⟩)
    · exact .inl hrule
    · exact .inr ⟨(), hcheck, .inl hdate⟩

/-- **What a settlement depends on.** Of a snapshot it is the accounts with one of the two ids, in
their order; the others may be any, stand anywhere and hold anything. Where neither of the two ids
is repeated, the order decides nothing: in any other order there is the same fault, or a record that
differs in the order of its entries alone, which is that of the snapshot. -/
theorem settle_snapshot (i : Instruction) (now : Moment) :
    (∀ accounts accounts' : List Account,
      (accounts.filter fun a => a.id = i.debit ∨ a.id = i.credit) =
        (accounts'.filter fun a => a.id = i.debit ∨ a.id = i.credit) →
      settle i accounts now = settle i accounts' now) ∧
    ∀ accounts accounts' : List Account, accounts.Perm accounts' →
      Account.countId accounts i.debit ≤ 1 → Account.countId accounts i.credit ≤ 1 →
      (∀ f, settle i accounts now = .error f ↔ settle i accounts' now = .error f) ∧
      ∀ s, settle i accounts now = .ok s → ∃ s', settle i accounts' now = .ok s' ∧
        s'.record = { s.record with entries := s'.record.entries } ∧
        s'.record.entries.Perm s.record.entries ∧
        s'.record.entries.map Entry.id =
          (accounts'.map Account.id).filter fun id => id = i.debit ∨ id = i.credit := by
  refine ⟨fun accounts accounts' h => ?_, fun accounts accounts' h hdebit hcredit => ?_⟩
  · simp only [← Instruction.names_eq_decide] at h
    exact settle_congr now h
  · have hcheck := check_perm h hdebit hcredit
    refine ⟨fun f => ?_, fun s hs => ?_⟩
    · rw [settle_eq_error_iff, settle_eq_error_iff, hcheck]
    · obtain ⟨hrules, scheduled, hdate, rfl⟩ := settle_eq_ok_iff.mp hs
      rw [hcheck] at hrules
      refine ⟨_, settle_eq_ok_iff.mpr ⟨hrules, scheduled, hdate, rfl⟩, rfl,
        (Entry.project_perm h (!scheduled)).symm, ?_⟩
      show (Entry.project i (!scheduled) accounts').map Entry.id = _
      simp only [← Instruction.names_eq_decide]
      exact Entry.map_id_project i (!scheduled) accounts'

end Settlement

end Remittance
