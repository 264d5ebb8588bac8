import Mathlib.Data.List.Count
import Remittance.Proofs.Execution
import Remittance.Proofs.Session.Holding

/-! # What a session conserves

A session that begins with accounts of different ids never gets stuck, and each of its steps is
accounted for (`Accounted`): an executed transfer moves its amount from one account to another of
the same currency, and any other step moves nothing. A single step is looked at in `step_holdings`,
a run of steps in `run_holdings`, and `run_accounted` puts both together. -/

namespace Remittance.Session

/-- The sum of the kept balances in a currency. -/
def total (currency : String) (kept : Snapshot) : Int :=
  ((kept.filter fun v => currency? v = some currency).map fun v => (balance? v).getD 0).sum

/-- What a transfer of `n` from the account `d` to the account `c` makes of a kept account. -/
structure Moved (d c : String) (n : Int) (v v' : Json) : Prop where
  debit : id? v = some d → ∃ b, balance? v = some b ∧ balance? v' = some (b - n)
  credit : id? v = some c → ∃ b, balance? v = some b ∧ balance? v' = some (b + n)
  other : id? v ≠ some d → id? v ≠ some c → v' = v
  field : ∀ name, name ≠ "balance" → field? name v' = field? name v

/-- A step with the given record is accounted for. -/
structure Accounted (r : Record) (kept kept' : Snapshot) : Prop where
  conserved : ∀ currency, total currency kept' = total currency kept
  nonneg : ∀ v ∈ kept', ∃ b, balance? v = some b ∧ 0 ≤ b
  failed : r.status = .failed → kept' = kept
  unmoved : r.status ≠ .successful → kept'.map balance? = kept.map balance?
  moved : r.status = .successful → ∃ d c n, r.debit = some d ∧ r.credit = some c ∧
    r.amount = some n ∧ 0 < n ∧ d ≠ c ∧ (kept.map id?).count (some d) = 1 ∧
    (kept.map id?).count (some c) = 1 ∧ List.Forall₂ (Moved d c n) kept kept'

/-! ### Holdings -/

section Holdings

variable {holdings : List Holding} {i : Instruction} {apply : Bool}

/-- The accounts of a list of holdings. -/
abbrev accounts (holdings : List Holding) : List Account := holdings.map Holding.account

/-- The kept values of a list of holdings. -/
abbrev values (holdings : List Holding) : Snapshot := holdings.map Holding.value

theorem total_values (currency : String) (holdings : List Holding) :
    total currency (values holdings) =
      ((holdings.filter (·.account.currency = currency)).map
        fun h => (h.account.balance : Int)).sum := by
  simp only [total, values, List.filter_map, List.map_map, Function.comp_def,
    Holding.currency?_value, Holding.balance?_value, Option.some.injEq, Option.getD_some]

theorem nonneg_values (holdings : List Holding) :
    ∀ v ∈ values holdings, ∃ b, balance? v = some b ∧ 0 ≤ b := by
  intro v hv
  obtain ⟨h, -, rfl⟩ := List.mem_map.mp hv
  exact ⟨_, h.balance?_value, Int.natCast_nonneg _⟩

theorem count_id?_values (id : String) :
    ((values holdings).map id?).count (some id) = Account.countId (accounts holdings) id := by
  rw [Account.countId, ← List.count_map_of_injective _ _ (Option.some_injective String)]
  simp only [values, accounts, List.map_map, Function.comp_def, Holding.id?_value]

theorem le_balance_of_mem (hcheck : Settlement.check i (accounts holdings) = .ok ())
    (hnodup : ((accounts holdings).map Account.id).Nodup) :
    ∀ h ∈ holdings, h.account.id = i.debit → i.amount.value ≤ h.account.balance := fun _ hh =>
  Settlement.le_balance_of_check hcheck (Account.countId_le_one hnodup _) (List.mem_map_of_mem hh)

theorem map_id_after : (accounts (holdings.map (Holding.after i apply))).map Account.id =
    (accounts holdings).map Account.id := by
  simp only [accounts, List.map_map, Function.comp_def, Holding.id_after]

theorem total_after (currency : String)
    (hle : ∀ h ∈ holdings, h.account.id = i.debit → i.amount.value ≤ h.account.balance) :
    total currency (values (holdings.map (Holding.after i true))) =
      total currency (values holdings) +
        (((accounts holdings).filter (·.currency = currency)).map
          fun a => Entry.delta i a.id).sum := by
  have hfilter : (fun h : Holding => decide (h.account.currency = currency)) ∘
      Holding.after i true = fun h => decide (h.account.currency = currency) := by
    funext h; rw [Function.comp_apply, Holding.currency_after]
  rw [total_values, total_values, List.filter_map, hfilter, List.map_map]
  calc _ = ((holdings.filter (·.account.currency = currency)).map fun h =>
          (h.account.balance : Int) + Entry.delta i h.account.id).sum :=
        congrArg List.sum (List.map_congr_left fun h hh =>
          Holding.balance_after_true (hle h (List.mem_filter.mp hh).1))
    _ = _ := by
        rw [List.sum_map_add, accounts, List.filter_map, List.map_map]; rfl

theorem total_after_false (currency : String) :
    total currency (values (holdings.map (Holding.after i false))) =
      total currency (values holdings) := by
  rw [total_values, total_values]
  simp only [List.filter_map, List.map_map, Function.comp_def, Holding.account_after_false]

theorem map_balance?_after_false :
    (values (holdings.map (Holding.after i false))).map balance? =
      (values holdings).map balance? := by
  simp only [values, List.map_map, Function.comp_def, Holding.balance?_value,
    Holding.account_after_false]

theorem moved_after (hne : i.debit ≠ i.credit) {h : Holding}
    (hle : h.account.id = i.debit → i.amount.value ≤ h.account.balance) :
    Moved i.debit i.credit i.amount.value h.value (Holding.after i true h).value := by
  have hbalance : balance? (Holding.after i true h).value =
      some (h.account.balance + Entry.delta i h.account.id) := by
    rw [Holding.balance?_value, Holding.balance_after_true hle]
  refine ⟨fun hid => ?_, fun hid => ?_, fun hd hc => ?_, fun name hname =>
    Holding.field?_value_after hname⟩
  · rw [h.id?_value, Option.some.injEq] at hid
    rw [hid, Entry.delta_debit] at hbalance
    exact ⟨_, h.balance?_value, hbalance⟩
  · rw [h.id?_value, Option.some.injEq] at hid
    rw [hid, Entry.delta_credit hne] at hbalance
    exact ⟨_, h.balance?_value, hbalance⟩
  · rw [h.id?_value, ne_eq, Option.some.injEq] at hd hc
    have hn : i.names h.account.id = false := by
      rw [← Bool.not_eq_true, Instruction.names_iff, not_or]; exact ⟨hd, hc⟩
    rw [Holding.after_of_not_names hn]

/-! ### Steps -/

/-- A step that changes nothing is accounted for, unless its record is that of a transfer. -/
theorem accounted_failure (holdings : List Holding) (reason : Notice) :
    Accounted (.failure reason) (values holdings) (values holdings) where
  conserved _ := rfl
  nonneg := nonneg_values holdings
  failed _ := rfl
  unmoved _ := rfl
  moved := by rintro ⟨⟩

/-- **A settled instruction is accounted for.** -/
theorem accounted_record {scheduled : Bool} {entries : List Entry}
    (hcheck : Settlement.check i (accounts holdings) = .ok ())
    (hnodup : ((accounts holdings).map Account.id).Nodup) :
    Accounted (Settlement.record ⟨i, scheduled, entries⟩) (values holdings)
      (values (holdings.map (Holding.after i (!scheduled)))) := by
  obtain ⟨hne, -⟩ := Settlement.check_eq_ok_iff.mp hcheck
  have hcount := Account.countId_le_one hnodup
  have hpos := Settlement.countId_pos_of_check hcheck
  have hle := le_balance_of_mem hcheck hnodup
  cases scheduled with
  | false =>
    exact
      { conserved := fun currency => by
          rw [Bool.not_false, total_after currency hle,
            Settlement.sum_delta_currency hcheck hnodup, Int.add_zero]
        nonneg := nonneg_values _
        failed := by rintro ⟨⟩
        unmoved := fun h => absurd rfl h
        moved := fun _ => by
          refine ⟨i.debit, i.credit, i.amount.value, rfl, rfl, rfl,
            Int.natCast_pos.mpr i.amount.pos, hne, ?_, ?_, ?_⟩
          · rw [count_id?_values]; exact Nat.le_antisymm (hcount _) hpos.1
          · rw [count_id?_values]; exact Nat.le_antisymm (hcount _) hpos.2
          · rw [values, values, List.map_map, List.forall₂_map_left_iff,
              List.forall₂_map_right_iff, List.forall₂_same]
            exact fun h hh => moved_after hne (hle h hh) }
  | true =>
    exact
      { conserved := total_after_false
        nonneg := nonneg_values _
        failed := by rintro ⟨⟩
        unmoved := fun _ => map_balance?_after_false
        moved := by rintro ⟨⟩ }

theorem writeBack_handle (sentence : String) (now : Moment)
    (hnodup : ((accounts holdings).map Account.id).Nodup) :
    let record := (Request.handle ⟨accounts holdings, sentence⟩ now).record
    ∃ holdings', writeBack record (values holdings) record.entries = values holdings' ∧
      (accounts holdings').map Account.id = (accounts holdings).map Account.id ∧
      Accounted record (values holdings) (values holdings') := by
  rcases Request.record_cases ⟨accounts holdings, sentence⟩ now with
    ⟨i, scheduled, -, hcheck, hrecord⟩ | ⟨reason, -, hrecord⟩
  · rw [hrecord]
    exact ⟨_, writeBack_values ⟨i, scheduled, _⟩ (!scheduled) (le_balance_of_mem hcheck hnodup),
      map_id_after, accounted_record hcheck hnodup⟩
  · rw [hrecord]
    exact ⟨holdings, writeBack_nil_right _ _, rfl, accounted_failure holdings _⟩

/-- **A step succeeds and is accounted for.** It leaves holdings with the same ids. -/
theorem step_holdings {s : Step} {sentence : String} (hs : s.sentence = .string sentence)
    (hnodup : ((accounts holdings).map Account.id).Nodup) :
    ∃ handled, Request.handleJson (payload (values holdings) s.sentence) s.now = .good handled ∧
      ∃ holdings', step (values holdings) s =
          (.good ⟨handled.record.status, handled.record.reason.code,
            balances (values holdings')⟩, values holdings') ∧
        (accounts holdings').map Account.id = (accounts holdings).map Account.id ∧
        Accounted handled.record (values holdings) (values holdings') := by
  have hhandled := Request.handleJson_of_good s.now (ofJson_payload holdings sentence)
  rw [← hs] at hhandled
  obtain ⟨holdings', hkept, hids, haccounted⟩ := writeBack_handle sentence s.now hnodup
  refine ⟨_, hhandled, holdings', ?_, hids, haccounted⟩
  rw [step, hhandled, ← hkept]

/-! ### Runs -/

theorem run_cons (kept : Snapshot) (s : Step) (steps : List Step) :
    run kept (s :: steps) =
      ((step kept s).1 :: (run (step kept s).2 steps).1, (run (step kept s).2 steps).2) := rfl

theorem run_append (kept : Snapshot) (before after : List Step) :
    run kept (before ++ after) =
      ((run kept before).1 ++ (run (run kept before).2 after).1,
        (run (run kept before).2 after).2) := by
  induction before generalizing kept with
  | nil => rfl
  | cons s before ih => rw [List.cons_append, run_cons, run_cons, ih, List.cons_append]

theorem length_run (kept : Snapshot) (steps : List Step) :
    (run kept steps).1.length = steps.length := by
  induction steps generalizing kept with
  | nil => rfl
  | cons s steps ih => rw [run_cons, List.length_cons, List.length_cons, ih]

/-- **A run never fails and keeps all sums.** It leaves holdings with the same ids. -/
theorem run_holdings {steps : List Step}
    (hsentence : ∀ s ∈ steps, ∃ sentence, s.sentence = .string sentence)
    (hnodup : ((accounts holdings).map Account.id).Nodup) :
    ∃ holdings', (run (values holdings) steps).2 = values holdings' ∧
      ((accounts holdings').map Account.id).Nodup ∧
      (∀ currency, total currency (values holdings') = total currency (values holdings)) ∧
      ∀ answer ∈ (run (values holdings) steps).1, ∃ a, answer = .good a := by
  induction steps generalizing holdings with
  | nil => exact ⟨holdings, rfl, hnodup, fun _ => rfl, fun _ h => absurd h List.not_mem_nil⟩
  | cons s steps ih =>
    obtain ⟨sentence, hs⟩ := hsentence s List.mem_cons_self
    obtain ⟨handled, -, holdings₁, hstep, hids, haccounted⟩ := step_holdings hs hnodup
    obtain ⟨holdings₂, hlast, hnodup₂, htotal, hanswers⟩ :=
      ih (fun s' hs' => hsentence s' (List.mem_cons_of_mem _ hs')) (hids ▸ hnodup)
    rw [run_cons, hstep]
    refine ⟨holdings₂, hlast, hnodup₂, fun currency => ?_, fun answer hanswer => ?_⟩
    · rw [htotal, haccounted.conserved]
    · rcases List.mem_cons.mp hanswer with rfl | hanswer
      · exact ⟨_, rfl⟩
      · exact hanswers answer hanswer

end Holdings

/-- **A session that begins with accounts of different ids is accounted for.** None of its steps
fails. After each of them the balances in every currency have the sum that they began with, and the
step is accounted for by the record of its request. -/
theorem run_accounted {kept : Snapshot} {accounts : List Account} {steps : List Step}
    (hreads : Shape.list Account.ofJson (.array kept) = .good accounts)
    (hnodup : (accounts.map Account.id).Nodup)
    (hsentence : ∀ s ∈ steps, ∃ sentence, s.sentence = .string sentence) :
    (run kept steps).1.length = steps.length ∧
    (∀ answer ∈ (run kept steps).1, ∃ a, answer = .good a) ∧
    ∀ before s after, steps = before ++ s :: after →
      let last := (run kept before).2
      let next := (run kept (before ++ [s])).2
      ∃ handled, Request.handleJson (payload last s.sentence) s.now = .good handled ∧
        (run kept steps).1[before.length]? = some (.good
          ⟨handled.record.status, handled.record.reason.code, balances next⟩) ∧
        (∀ currency, total currency next = total currency kept) ∧
        Accounted handled.record last next := by
  obtain ⟨holdings, rfl, rfl⟩ := exists_holdings hreads
  obtain ⟨-, -, -, -, hanswers⟩ := run_holdings hsentence hnodup
  refine ⟨length_run _ steps, hanswers, ?_⟩
  rintro before s after rfl
  have hbefore : ∀ s' ∈ before, ∃ sentence, s'.sentence = .string sentence :=
    fun s' hs' => hsentence s' (List.mem_append_left _ hs')
  obtain ⟨sentence, hs⟩ := hsentence s (List.mem_append_right _ List.mem_cons_self)
  obtain ⟨holdings₁, hlast, hnodup₁, htotal, -⟩ := run_holdings hbefore hnodup
  obtain ⟨handled, hhandled, holdings₂, hstep, -, haccounted⟩ := step_holdings hs hnodup₁
  have hnext : (run (values holdings) (before ++ [s])).2 = values holdings₂ := by
    rw [run_append, hlast, run_cons, hstep]; rfl
  rw [hlast, hnext]
  refine ⟨handled, hhandled, ?_, fun currency => ?_, haccounted⟩
  · rw [run_append, List.getElem?_append_right (length_run _ before).le, length_run, Nat.sub_self,
      hlast, run_cons, hstep]
    rfl
  · rw [haccounted.conserved, htotal]

/-- A transfer on balances that are written in different ways, and a sentence that says nothing. The
transfer moves what it names, and the other step moves nothing. -/
theorem total_run_lenient :
    let kept : Snapshot := [
      .object [("id", .string "a"), ("balance", .string "50"), ("currency", .string "usd")],
      .object [("currency", .string "USD"), ("balance", .bool true), ("id", .string "b")]]
    let now : Moment := ⟨⟨2026, 1, 1⟩, 0, none⟩
    let steps : List Step := [
      ⟨.string "DEBIT 20 USD FROM ACCOUNT a FOR CREDIT TO ACCOUNT b", now⟩, ⟨.string "", now⟩]
    let accounts : List Account := [⟨"a", 50, "USD"⟩, ⟨"b", 1, "USD"⟩]
    Shape.list Account.ofJson (.array kept) = .good accounts ∧
      (accounts.map Account.id).Nodup ∧
      (∀ s ∈ steps, ∃ sentence, s.sentence = .string sentence) ∧
      (run kept steps).1.map (fun answer => answer.value?.map fun a => (a.status, a.code)) =
        [some (.successful, "AP00"), some (.failed, "SY01")] ∧
      (∀ n ∈ [1, 2], (Shape.list Account.ofJson (.array (run kept (steps.take n)).2)).value? =
        some [⟨"a", 30, "USD"⟩, ⟨"b", 21, "USD"⟩]) ∧
      ∀ currency, total currency (run kept steps).2 = total currency kept := by
  intro kept now steps accounts
  have hreads : Shape.list Account.ofJson (.array kept) = .good accounts := by rfl
  have hnodup : (accounts.map Account.id).Nodup := by decide
  have hsentence : ∀ s ∈ steps, ∃ sentence, s.sentence = .string sentence := by simp [steps]
  have hanswers : (run kept steps).1.map (fun answer => answer.value?.map fun a =>
      (a.status, a.code)) = [some (.successful, "AP00"), some (.failed, "SY01")] := by
    decide +kernel
  have hbalances : ∀ n ∈ [1, 2], (Shape.list Account.ofJson
      (.array (run kept (steps.take n)).2)).value? =
        some [⟨"a", 30, "USD"⟩, ⟨"b", 21, "USD"⟩] := by
    decide +kernel
  obtain ⟨-, -, hsteps⟩ := run_accounted hreads hnodup hsentence
  obtain ⟨_, -, -, htotal, -⟩ := hsteps [_] _ [] rfl
  exact ⟨hreads, hnodup, hsentence, hanswers, hbalances, htotal⟩

end Remittance.Session
