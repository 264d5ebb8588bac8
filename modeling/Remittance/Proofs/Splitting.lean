import Remittance.Proofs.Execution
import Remittance.Proofs.Ledger.Posting

/-! # Splitting a transfer

A transfer may be executed in two parts, the second one on the accounts that the first one leaves.
The rules let both parts pass if and only if they let the whole pass (`check_parts_iff`), and the
parts do to each account what the whole does (`Account.after_parts`). So a transfer that is split
cannot get past the check of the funds, and it ends with the same balances (`settle_parts`). -/

namespace Remittance

instance : Add Amount where
  add n m := ⟨n.value + m.value, Nat.add_pos_left n.pos m.value⟩

@[simp]
theorem Amount.value_add (n m : Amount) : (n + m).value = n.value + m.value := rfl

/-- The part of a transfer that has the given amount, in any form. -/
def Instruction.part (i : Instruction) (form : Form) (n : Amount) : Instruction :=
  { i with form, amount := n }

section Part

variable (i : Instruction) (f : Form) (n : Amount)

@[simp]
theorem Instruction.amount_part : (i.part f n).amount = n := rfl

@[simp]
theorem Instruction.currency_part : (i.part f n).currency = i.currency := rfl

@[simp]
theorem Instruction.debit_part : (i.part f n).debit = i.debit := rfl

@[simp]
theorem Instruction.credit_part : (i.part f n).credit = i.credit := rfl

end Part

variable {i : Instruction} {n m : Amount} {f g h : Form} {accounts : List Account} {now : Moment}

theorem Account.after_parts (a : Account) :
    after (i.part g m) (after (i.part f n) a) = after (i.part h (n + m)) a := by
  by_cases hd : a.id = i.debit
  · have hleft : (after (i.part f n) a).balance = a.balance - n.value := if_pos hd
    calc after (i.part g m) (after (i.part f n) a)
        = { a with balance := (after (i.part f n) a).balance - m.value } := after_debit hd
      _ = { a with balance := a.balance - (n.value + m.value) } := by rw [hleft, Nat.sub_sub]
      _ = after (i.part h (n + m)) a := (after_debit (i := i.part h (n + m)) hd).symm
  · by_cases hc : a.id = i.credit
    · have hgot : (after (i.part f n) a).balance = a.balance + n.value := by
        rw [after_credit (i := i.part f n) hd hc]
        rfl
      calc after (i.part g m) (after (i.part f n) a)
          = { a with balance := (after (i.part f n) a).balance + m.value } := after_credit hd hc
        _ = { a with balance := a.balance + (n.value + m.value) } := by rw [hgot, Nat.add_assoc]
        _ = after (i.part h (n + m)) a := (after_credit (i := i.part h (n + m)) hd hc).symm
    · rw [after_other (i := i.part f n) hd hc, after_other (i := i.part g m) hd hc,
        after_other (i := i.part h (n + m)) hd hc]

namespace Settlement

/-- **The rules let a transfer pass in parts** if and only if they let the whole pass. -/
theorem check_parts_iff :
    (check (i.part f n) accounts = .ok () ∧
        check (i.part g m) (accounts.map (Account.after (i.part f n))) = .ok ()) ↔
      check (i.part h (n + m)) accounts = .ok () := by
  simp only [check_eq_ok_iff, Account.find?_map_after, Option.map_eq_some_iff,
    Instruction.amount_part, Instruction.currency_part, Instruction.debit_part,
    Instruction.credit_part, Amount.value_add]
  constructor
  · rintro ⟨⟨hne, d, c, hd, hc, hdc, hcc, hn⟩, -, _, _, ⟨d', hd', rfl⟩, -, -, -, hm⟩
    obtain rfl : d = d' := Option.some.inj (hd.symm.trans hd')
    have hid : d.id = i.debit := Account.id_of_find?_eq_some hd
    -- the funds that the first part leaves are enough for the second
    have hleft : (Account.after (i.part f n) d).balance = d.balance - n.value :=
      Account.balance_after_debit hid
    exact ⟨hne, d, c, hd, hc, hdc, hcc, by omega⟩
  · rintro ⟨hne, d, c, hd, hc, hdc, hcc, hle⟩
    have hid : d.id = i.debit := Account.id_of_find?_eq_some hd
    have hleft : (Account.after (i.part f n) d).balance = d.balance - n.value :=
      Account.balance_after_debit hid
    exact ⟨⟨hne, d, c, hd, hc, hdc, hcc, by omega⟩, hne, _, _, ⟨d, hd, rfl⟩, ⟨c, hc, rfl⟩, hdc, hcc,
      by omega⟩

theorem Executes.nonneg {s : Settlement} (hs : Executes i accounts now s)
    (hnodup : (accounts.map Account.id).Nodup) : ∀ e ∈ s.entries, 0 ≤ e.balance := by
  obtain ⟨hcheck, -, rfl⟩ := executes_iff.mp hs
  have hcount : Account.countId accounts i.debit ≤ 1 := Account.countId_le_one hnodup _
  exact Entry.balance_project_nonneg_iff.mpr fun a ha hid =>
    le_balance_of_check hcheck hcount ha hid

/-- Posting the entries of an executed instruction does what the instruction does. -/
theorem Executes.posted {s : Settlement} (hs : Executes i accounts now s)
    (hnodup : (accounts.map Account.id).Nodup) :
    accounts.map (Account.posted s.entries) = accounts.map (Account.after i) := by
  obtain ⟨-, -, rfl⟩ := executes_iff.mp hs
  exact Account.posted_project hnodup

/-- Two instructions are executed one after the other, the second one on the accounts that the first
one leaves. -/
def ExecutesBoth (i j : Instruction) (accounts : List Account) (now : Moment) (s t : Settlement) :
    Prop :=
  Executes i accounts now s ∧ Executes j (accounts.map (Account.posted s.entries)) now t

theorem executesBoth_iff {j : Instruction} {s t : Settlement}
    (hnodup : (accounts.map Account.id).Nodup) : ExecutesBoth i j accounts now s t ↔
      Executes i accounts now s ∧ Executes j (accounts.map (Account.after i)) now t := by
  unfold ExecutesBoth
  refine and_congr_right fun hs => ?_
  rw [hs.posted hnodup]

/-- **A transfer that is split.** On accounts with different ids, and without a date that lies ahead,
two parts of a transfer are executed one after the other, the second one on the accounts that the
first one leaves, if and only if the whole is executed. All accounts then end with the same balances,
and none of the entries has a balance below zero, so nothing is cut off when they are posted. -/
theorem settle_parts (i : Instruction) (n m : Amount) (f g h : Form) (accounts : List Account)
    (now : Moment) (hnodup : (accounts.map Account.id).Nodup)
    (hdate : ExecutionDate.isFuture i.executeBy now = .ok false) :
    ((∃ s t, ExecutesBoth (i.part f n) (i.part g m) accounts now s t) ↔
      ∃ whole, Executes (i.part h (n + m)) accounts now whole) ∧
    ∀ s t whole, ExecutesBoth (i.part f n) (i.part g m) accounts now s t →
      Executes (i.part h (n + m)) accounts now whole →
      (accounts.map (Account.posted s.entries)).map (Account.posted t.entries) =
        accounts.map (Account.posted whole.entries) ∧
      ∀ e ∈ s.entries ++ t.entries ++ whole.entries, 0 ≤ e.balance := by
  have hnodup' : ((accounts.map (Account.after (i.part f n))).map Account.id).Nodup := by
    rw [Account.map_id_after]
    exact hnodup
  simp only [executesBoth_iff hnodup]
  refine ⟨⟨?_, ?_⟩, ?_⟩
  · rintro ⟨s, t, hs, ht⟩
    have hcheck := (check_parts_iff (h := h)).mp ⟨(executes_iff.mp hs).1, (executes_iff.mp ht).1⟩
    exact ⟨_, executes_iff.mpr ⟨hcheck, hdate, rfl⟩⟩
  · rintro ⟨whole, hwhole⟩
    obtain ⟨hfirst, hsecond⟩ := check_parts_iff.mpr (executes_iff.mp hwhole).1
    exact ⟨_, _, executes_iff.mpr ⟨hfirst, hdate, rfl⟩, executes_iff.mpr ⟨hsecond, hdate, rfl⟩⟩
  · rintro s t whole ⟨hs, ht⟩ hwhole
    constructor
    · rw [hs.posted hnodup, ht.posted hnodup', hwhole.posted hnodup, List.map_map]
      exact List.map_congr_left fun a _ => Account.after_parts a
    · intro e he
      simp only [List.mem_append] at he
      rcases he with (he | he) | he
      · exact hs.nonneg hnodup e he
      · exact ht.nonneg hnodup' e he
      · exact hwhole.nonneg hnodup e he

/-- All the funds of an account in two parts, at the midnight of a date that no calendar has. -/
theorem settle_parts_exactFunds :
    let i : Instruction := ⟨.debit, ⟨7, by decide⟩, "USD", "a", "b", some "2024-02-31"⟩
    let n : Amount := ⟨3, by decide⟩
    let m : Amount := ⟨4, by decide⟩
    let accounts : List Account := [⟨"c", 2, "GBP"⟩, ⟨"b", 0, "USD"⟩, ⟨"a", 7, "USD"⟩]
    let now : Moment := ⟨⟨2024, 3, 2⟩, 0, some 0⟩
    (accounts.map Account.id).Nodup ∧ ExecutionDate.isFuture i.executeBy now = .ok false ∧
      ∃ s t, ExecutesBoth (i.part .debit n) (i.part .credit m) accounts now s t ∧
        (accounts.map (Account.posted s.entries)).map (Account.posted t.entries) =
          [⟨"c", 2, "GBP"⟩, ⟨"b", 7, "USD"⟩, ⟨"a", 0, "USD"⟩] := by
  intro i n m accounts now
  have hnodup : (accounts.map Account.id).Nodup := by decide
  have hdate : ExecutionDate.isFuture i.executeBy now = .ok false := by decide +kernel
  have hcheck : check (i.part .debit (n + m)) accounts = .ok () := by decide +kernel
  have hwhole : Executes (i.part .debit (n + m)) accounts now
      ⟨_, false, Entry.project (i.part .debit (n + m)) true accounts⟩ :=
    executes_iff.mpr ⟨hcheck, hdate, rfl⟩
  obtain ⟨hparts, hfinal⟩ := settle_parts i n m .debit .credit .debit accounts now hnodup hdate
  obtain ⟨s, t, hboth⟩ := hparts.mpr ⟨_, hwhole⟩
  refine ⟨hnodup, hdate, s, t, hboth, ?_⟩
  rw [(hfinal s t _ hboth hwhole).1]
  decide +kernel

end Settlement

end Remittance
