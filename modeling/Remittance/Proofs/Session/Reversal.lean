import Remittance.Proofs.Ledger.Posting
import Remittance.Proofs.Session.Independence

/-! # Taking a transfer back

An instruction reverses another one if it has the same amount and currency, the two accounts the
other way round, and no date (`Instruction.Reverses`). The rules let it pass on the accounts that the
first one leaves (`check_of_reverses`), since the account that was credited holds the amount, and it
gives every account its balance back (`map_after_of_reverses`). So a step of a session that succeeds
can be taken back by the next one, in either form and at any time (`step_reversed`). -/

namespace Remittance

/-! ### Instructions -/

/-- The instruction `j` moves back what `i` moves, without a date. -/
structure Instruction.Reverses (j i : Instruction) : Prop where
  debit : j.debit = i.credit
  credit : j.credit = i.debit
  amount : j.amount = i.amount
  currency : j.currency = i.currency
  executeBy : j.executeBy = none

section Instructions

variable {i j : Instruction} {accounts : List Account} {now : Moment}

/-- What an account gets or gives, it gives or gets back, unless it did not hold the amount. -/
theorem Account.after_of_reverses {a : Account} (hback : j.Reverses i) (hne : i.debit ≠ i.credit)
    (hle : a.id = i.debit → i.amount.value ≤ a.balance) : after j (after i a) = a := by
  by_cases hd : a.id = i.debit
  · have hd' : a.id ≠ j.debit := fun h => hne (hd.symm.trans (h.trans hback.debit))
    have hc' : a.id = j.credit := hd.trans hback.credit.symm
    have hbalance := hle hd
    rw [after_credit (a := after i a) hd' hc', after_debit hd, hback.amount]
    simp only [Nat.sub_add_cancel hbalance]
  · by_cases hc : a.id = i.credit
    · have hd' : a.id = j.debit := hc.trans hback.debit.symm
      rw [after_debit (a := after i a) hd', after_credit hd hc, hback.amount]
      simp only [Nat.add_sub_cancel]
    · have hd' : a.id ≠ j.debit := fun h => hc (h.trans hback.debit)
      have hc' : a.id ≠ j.credit := fun h => hd (h.trans hback.credit)
      rw [after_other hd hc, after_other hd' hc']

/-- **All accounts get their balances back.** -/
theorem Account.map_after_of_reverses (hback : j.Reverses i)
    (hcheck : Settlement.check i accounts = .ok ()) (hnodup : (accounts.map Account.id).Nodup) :
    (accounts.map (after i)).map (after j) = accounts := by
  obtain ⟨hne, -⟩ := Settlement.check_eq_ok_iff.mp hcheck
  have hcount : countId accounts i.debit ≤ 1 := countId_le_one hnodup _
  rw [List.map_map]
  refine (List.map_congr_left fun a ha => ?_).trans (List.map_id accounts)
  exact after_of_reverses hback hne fun hid =>
    Settlement.le_balance_of_check hcheck hcount ha hid

/-- **The rules let the way back pass.** -/
theorem Settlement.check_of_reverses (hback : j.Reverses i) (hcheck : check i accounts = .ok ()) :
    check j (accounts.map (Account.after i)) = .ok () := by
  obtain ⟨hne, d, c, hd, hc, hdc, hcc, -⟩ := check_eq_ok_iff.mp hcheck
  have hdebit : c.id ≠ i.debit := fun h => hne (h.symm.trans (Account.id_of_find?_eq_some hc))
  have hcredit : c.id = i.credit := Account.id_of_find?_eq_some hc
  refine check_eq_ok_iff.mpr ⟨?_, Account.after i c, Account.after i d, ?_, ?_, ?_, ?_, ?_⟩
  · rw [hback.debit, hback.credit]
    exact Ne.symm hne
  · rw [hback.debit, Account.find?_map_after, hc, Option.map_some]
  · rw [hback.credit, Account.find?_map_after, hd, Option.map_some]
  · rw [hback.currency]
    exact hcc
  · rw [hback.currency]
    exact hdc
  · -- the account that was credited holds at least the amount
    rw [hback.amount, Account.balance_after_credit hdebit hcredit]
    exact Nat.le_add_left _ _

theorem Settlement.executes_of_reverses (hback : j.Reverses i) (hcheck : check i accounts = .ok ())
    (now : Moment) : ∃ settlement, Executes j (accounts.map (Account.after i)) now settlement := by
  refine ⟨_, executes_iff.mpr ⟨check_of_reverses hback hcheck, ?_, rfl⟩⟩
  rw [hback.executeBy]
  rfl

end Instructions

/-- **The way back can be told** in either form. -/
theorem Terms.exists_reverses {text : String} {i : Instruction} (h : Sentence.read text = .ok i)
    (form : Form) : ∃ v : Terms, (v.instruction form).Reverses i := by
  obtain ⟨v, hv⟩ := exists_of_read h
  refine ⟨{ v with debit := v.credit, credit := v.debit, date := none }, ?_⟩
  rw [← hv]
  exact ⟨rfl, rfl, rfl, rfl, rfl⟩

namespace Session

/-! ### Steps -/

section Steps

variable {holdings : List Holding} {s : Step} {i : Instruction}

theorem Holding.account_after_true (h : Holding) :
    (after i true h).account = Account.after i h.account := by
  unfold after
  cases hnames : i.names h.account.id
  · rw [if_neg Bool.false_ne_true, Account.after_of_not_names hnames]
  · rw [if_pos rfl, Account.after_of_names hnames]
    rfl

theorem accounts_after (i : Instruction) (holdings : List Holding) :
    accounts (holdings.map (Holding.after i true)) = (accounts holdings).map (Account.after i) := by
  simp only [accounts, List.map_map, Function.comp_def, Holding.account_after_true]

theorem list_ofJson_values (holdings : List Holding) :
    Shape.list Account.ofJson (.array (values holdings)) = .good (accounts holdings) :=
  Shape.list_eq_good_iff.mpr ⟨_, rfl, forall₂_holdings holdings⟩

theorem map_balance?_values (holdings : List Holding) :
    (values holdings).map balance? =
      (accounts holdings).map fun a => some (a.balance : Int) := by
  simp only [values, accounts, List.map_map, Function.comp_def, Holding.balance?_value]

/-- **A step that executes its instruction** succeeds, and each account is what the instruction makes
of it. -/
theorem step_of_executes {sentence : String} {settlement : Settlement}
    (hs : s.sentence = .string sentence) (hread : Sentence.read sentence = .ok i)
    (hexecutes : Settlement.Executes i (accounts holdings) s.now.placed settlement)
    (hnodup : ((accounts holdings).map Account.id).Nodup) :
    let next := values (holdings.map (Holding.after i true))
    step (values holdings) s =
      (.good ⟨.successful, Reason.executed.code, balances next⟩, next) := by
  have hstep := step_of_settlement hs hread hexecutes.1 hnodup
  obtain ⟨-, -, rfl⟩ := Settlement.executes_iff.mp hexecutes
  exact hstep

/-- **A step that succeeds** has executed the instruction of its sentence. -/
theorem executes_of_step {answer : Answer} (hanswer : (step (values holdings) s).1 = .good answer)
    (hstatus : answer.status = .successful) :
    ∃ sentence i settlement, s.sentence = .string sentence ∧ Sentence.read sentence = .ok i ∧
      Settlement.Executes i (accounts holdings) s.now.placed settlement ∧
      (Request.handle ⟨accounts holdings, sentence⟩ s.now).record = settlement.record := by
  by_cases hs : ∃ sentence, s.sentence = .string sentence
  · obtain ⟨sentence, hs⟩ := hs
    rw [step_of_string hs] at hanswer
    cases hanswer
    rcases Request.handle_cases ⟨accounts holdings, sentence⟩ s.now with
      ⟨i, settlement, hread, hsettle, hend⟩ | ⟨reason, -, hend⟩
    · rw [Sentence.read_trim] at hread
      rw [hend] at hstatus
      exact ⟨sentence, i, settlement, hs, hread, ⟨hsettle, hstatus⟩, by rw [hend]⟩
    · rw [hend] at hstatus
      cases hstatus
  · obtain ⟨issues, hissues⟩ := exists_issues_of_ne_string fun sentence h => hs ⟨sentence, h⟩
    rw [step, Request.handleJson, hissues] at hanswer
    cases hanswer

end Steps

/-- A step of a session on the way back: it succeeds, the snapshot stands for the given accounts once
more, and all balances are those of the snapshot `kept`. -/
structure GivesBack (kept : Snapshot) (accounts : List Account)
    (result : Shape.Checked Answer × Snapshot) : Prop where
  successful : ∃ answer, result.1 = .good answer ∧ answer.status = .successful
  reads : Shape.list Account.ofJson (.array result.2) = .good accounts
  balances : result.2.map balance? = kept.map balance?

/-- **A step that succeeds can be taken back.** In a session on accounts with different ids, a step
succeeds by executing the instruction of its sentence. The next step, at any time, gives every
account its balance back if its sentence is read as an instruction that reverses this one. There are
such terms in either form; they can be put into words, and every wording of them is read so. -/
theorem step_reversed {kept : Snapshot} {accounts : List Account} {s : Step} {answer : Answer}
    (hreads : Shape.list Account.ofJson (.array kept) = .good accounts)
    (hnodup : (accounts.map Account.id).Nodup) (hanswer : (step kept s).1 = .good answer)
    (hstatus : answer.status = .successful) :
    ∃ i handled, s.instruction? = some i ∧
      Request.handleJson (payload kept s.sentence) s.now = .good handled ∧
      handled.record = Settlement.record ⟨i, false, Entry.project i true accounts⟩ ∧
      (∀ text j now, Sentence.read text = .ok j → j.Reverses i →
        GivesBack kept accounts (step (step kept s).2 ⟨.string text, now⟩)) ∧
      (∀ form, ∃ v : Terms, (v.instruction form).Reverses i) ∧
      ∀ (v : Terms) form, (v.instruction form).Reverses i → (∃ text, v.IsWritten form text) ∧
        ∀ text, v.IsWritten form text → Sentence.read text = .ok (v.instruction form) := by
  obtain ⟨holdings, rfl, rfl⟩ := exists_holdings hreads
  obtain ⟨sentence, i, settlement, hs, hread, hexecutes, hrecord⟩ := executes_of_step hanswer hstatus
  have hstep := step_of_executes hs hread hexecutes hnodup
  obtain ⟨hcheck, -, rfl⟩ := Settlement.executes_iff.mp hexecutes
  refine ⟨i, Request.handle ⟨_, sentence⟩ s.now, ?_, ?_, hrecord, fun text j now htext hback => ?_,
    Terms.exists_reverses hread, fun v form _ => ⟨v.exists_isWritten form, fun text h =>
      Terms.read_of_isWritten h⟩⟩
  · rw [Step.instruction?, hs]
    dsimp only
    rw [hread]
    rfl
  · rw [hs]
    exact Request.handleJson_of_good s.now (ofJson_payload holdings sentence)
  · have hnodup' :
        ((Session.accounts (holdings.map (Holding.after i true))).map Account.id).Nodup := by
      rw [map_id_after]
      exact hnodup
    obtain ⟨settlement, hexecutes'⟩ := Settlement.executes_of_reverses hback hcheck now.placed
    rw [← accounts_after] at hexecutes'
    have hstep' := step_of_executes (s := ⟨.string text, now⟩) rfl htext hexecutes' hnodup'
    have haccounts : Session.accounts
        ((holdings.map (Holding.after i true)).map (Holding.after j true)) =
          Session.accounts holdings := by
      rw [accounts_after, accounts_after]
      exact Account.map_after_of_reverses hback hcheck hnodup
    rw [hstep, hstep']
    refine ⟨⟨_, rfl, rfl⟩, ?_, ?_⟩
    · exact (list_ofJson_values _).trans (congrArg _ haccounts)
    · rw [map_balance?_values, map_balance?_values, haccounts]

/-- All the funds of an account, and back in the other form, on balances that are written in different
ways. -/
theorem step_reversed_lenient :
    let kept : Snapshot := [
      .object [("id", .string "a"), ("balance", .string "50"), ("currency", .string "usd")],
      .object [("currency", .string "USD"), ("balance", .bool true), ("id", .string "b")]]
    let s : Step := ⟨.string "DEBIT +050 usd FROM ACCOUNT a FOR CREDIT TO ACCOUNT b on 2024-02-31",
      ⟨⟨2026, 1, 1⟩, 0, none⟩⟩
    let back : Step := ⟨.string "credit 50 USD to account a for debit from account b on",
      ⟨⟨1, 1, 1⟩, 0, none⟩⟩
    let accounts : List Account := [⟨"a", 50, "USD"⟩, ⟨"b", 1, "USD"⟩]
    Shape.list Account.ofJson (.array kept) = .good accounts ∧ (accounts.map Account.id).Nodup ∧
      (∃ answer, (step kept s).1 = .good answer ∧ answer.status = .successful) ∧
      GivesBack kept accounts (step (step kept s).2 back) := by
  intro kept s back accounts
  have hreads : Shape.list Account.ofJson (.array kept) = .good accounts := by rfl
  have hnodup : (accounts.map Account.id).Nodup := by decide
  obtain ⟨answer, hanswer, hstatus⟩ : ∃ answer, (step kept s).1 = .good answer ∧
      answer.status = .successful := by
    have hvalue : (step kept s).1.value?.map Answer.status = some .successful := by decide +kernel
    cases hanswer : (step kept s).1 with
    | good answer =>
      rw [hanswer] at hvalue
      exact ⟨answer, rfl, Option.some.inj hvalue⟩
    | bad issues =>
      rw [hanswer] at hvalue
      cases hvalue
  have hread : s.instruction? =
      some ⟨.debit, ⟨50, by decide⟩, "USD", "a", "b", some "2024-02-31"⟩ := by
    decide +kernel
  have hback : Sentence.read "credit 50 USD to account a for debit from account b on" =
      .ok ⟨.credit, ⟨50, by decide⟩, "USD", "b", "a", none⟩ := by
    decide +kernel
  obtain ⟨i, -, hi, -, -, hgives, -⟩ := step_reversed hreads hnodup hanswer hstatus
  rw [hread] at hi
  cases hi
  exact ⟨hreads, hnodup, ⟨answer, hanswer, hstatus⟩, hgives _ _ _ hback ⟨rfl, rfl, rfl, rfl, rfl⟩⟩

end Session

end Remittance
