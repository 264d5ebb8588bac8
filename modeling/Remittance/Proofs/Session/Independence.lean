import Mathlib.Data.List.Basic
import Remittance.Proofs.Session.Conservation
import Remittance.Proofs.Wording

/-! # Sessions that share a snapshot

The accounts of a snapshot and the steps of a session have owners. A list with owners is an
interleaving of what each of them owns, in its order (`share`). If no step names an account of
another owner (`Independent`), the session goes for each owner as it would with that owner's
accounts and steps alone (`run_share`).

What a step does is told by its `Effect`: how it ends, and what becomes of each account. The effect
depends on the accounts that the step names and on no others (`exists_effect`), and it leaves all
others as they are. -/

namespace Remittance.Session

variable {γ α β : Type}

/-! ### Shares -/

section Shares

variable [DecidableEq γ]

/-- What `g` owns, in order. -/
def share (g : γ) (l : List (γ × α)) : List α :=
  (l.filter (·.1 = g)).map Prod.snd

theorem share_cons_self (g : γ) (a : α) (l : List (γ × α)) :
    share g ((g, a) :: l) = a :: share g l := by
  rw [share, List.filter_cons_of_pos (by simp), List.map_cons, share]

theorem share_cons_of_ne {g g' : γ} (h : g' ≠ g) (a : α) (l : List (γ × α)) :
    share g ((g', a) :: l) = share g l := by
  rw [share, List.filter_cons_of_neg (by simpa using h), share]

theorem mem_share_iff {g : γ} {a : α} {l : List (γ × α)} : a ∈ share g l ↔ (g, a) ∈ l := by
  simp [share]

theorem share_sublist (g : γ) (l : List (γ × α)) : (share g l).Sublist (l.map Prod.snd) :=
  List.filter_sublist.map _

theorem share_map (g : γ) (f : α → β) (l : List (γ × α)) :
    share g (l.map (Prod.map id f)) = (share g l).map f := by
  simp [share, List.filter_map, Function.comp_def]

theorem eq_of_share_eq {l l' : List (γ × α)} (howners : l.map Prod.fst = l'.map Prod.fst)
    (h : ∀ g, share g l = share g l') : l = l' := by
  induction l generalizing l' with
  | nil => exact (List.map_eq_nil_iff.mp howners.symm).symm
  | cons x l ih =>
    obtain ⟨g, a⟩ := x
    obtain ⟨⟨g', a'⟩, l', rfl, hg, htail⟩ := List.map_eq_cons_iff.mp howners.symm
    cases hg
    have hhead := h g
    rw [share_cons_self, share_cons_self, List.cons.injEq] at hhead
    rw [hhead.1, ih htail.symm fun k => ?_]
    by_cases hk : g = k
    · exact hk ▸ hhead.2
    · have hrest := h k
      rwa [share_cons_of_ne hk, share_cons_of_ne hk] at hrest

theorem eq_of_share_zip_eq {owners : List γ} {as bs : List α} (has : as.length = owners.length)
    (hbs : bs.length = owners.length) (h : ∀ g, share g (owners.zip as) = share g (owners.zip bs)) :
    as = bs := by
  have hzip : owners.zip as = owners.zip bs := by
    refine eq_of_share_eq ?_ h
    rw [List.map_fst_zip has.ge, List.map_fst_zip hbs.ge]
  rw [← List.map_snd_zip has.le, hzip, List.map_snd_zip hbs.le]

/-- The answer of a step with the balances of the accounts that `g` owns. -/
def Answer.ofShare (owners : List γ) (g : γ) (a : Answer) : Answer :=
  { a with balances := share g (owners.zip a.balances) }

end Shares

/-! ### Effects -/

/-- The instruction that a step asks for, if it can be read. -/
def Step.instruction? (s : Step) : Option Instruction :=
  match s.sentence with
  | .string sentence => (Sentence.read sentence).toOption
  | _ => none

/-- What a step does: how it ends, and what becomes of each account. -/
structure Effect where
  verdict : Shape.Checked (Status × String)
  update : Holding → Holding

namespace Effect

/-- The answer of a step with this effect that leaves the given snapshot. -/
def answer (e : Effect) (kept : Snapshot) : Shape.Checked Answer :=
  e.verdict.map fun v => ⟨v.1, v.2, balances kept⟩

/-- The effect of a step that fails. -/
def failing (reason : Notice) : Effect where
  verdict := .good (.failed, reason.code)
  update := id

/-- The effect of a step that is settled. -/
def settling (s : Settlement) : Effect where
  verdict := .good (s.status, s.reason.code)
  update := Holding.after s.instruction (!s.scheduled)

/-- The effect leaves all ids, and all accounts but those that an instruction names, if there is
one. -/
structure Within (e : Effect) (i : Option Instruction) : Prop where
  id_update : ∀ h, (e.update h).account.id = h.account.id
  update_eq : ∀ h, (∀ j ∈ i, j.names h.account.id = false) → e.update h = h

theorem within_of_update_eq_id {e : Effect} (h : e.update = id) (i : Option Instruction) :
    e.Within i where
  id_update _ := by rw [h]; rfl
  update_eq _ _ := by rw [h]; rfl

theorem within_settling (s : Settlement) : (settling s).Within (some s.instruction) where
  id_update _ := Holding.id_after
  update_eq _ h := Holding.after_of_not_names (h s.instruction rfl)

end Effect

theorem exists_issues_of_ne_string {v : Json} (h : ∀ sentence, v ≠ .string sentence) :
    ∃ issues, ∀ holdings, Request.ofJson (payload (values holdings) v) = .bad issues := by
  have hv : Shape.text v = .bad [⟨[], .notText, v⟩] := by
    cases v with
    | string sentence => exact absurd rfl (h sentence)
    | _ => rfl
  refine ⟨[⟨[.field "instruction"], .notText, v⟩], fun holdings => ?_⟩
  have haccounts : Shape.elements Account.ofJson 0 (values holdings) = .good (accounts holdings) :=
    (Shape.elements_eq_good_iff 0).mpr (forall₂_holdings holdings)
  show Shape.Checked.app (Shape.Checked.map Request.mk
    ((Shape.elements Account.ofJson 0 (values holdings)).under (.field "accounts")))
    ((Shape.text v).under (.field "instruction")) = _
  rw [haccounts, hv]
  rfl

section Steps

variable {s : Step} {sentence : String} {holdings : List Holding}

theorem step_of_string (hs : s.sentence = .string sentence) (holdings : List Holding) :
    let record := (Request.handle ⟨accounts holdings, sentence⟩ s.now).record
    let kept := writeBack record (values holdings) record.entries
    step (values holdings) s =
      (.good ⟨record.status, record.reason.code, balances kept⟩, kept) := by
  intro record kept
  have hhandled := Request.handleJson_of_good s.now (ofJson_payload holdings sentence)
  rw [step, hs, hhandled]

theorem step_of_failure (hs : s.sentence = .string sentence) {reason : Notice}
    (h : (Request.handle ⟨accounts holdings, sentence⟩ s.now).record = .failure reason) :
    step (values holdings) s =
      ((Effect.failing reason).answer (values holdings), values holdings) := by
  rw [step_of_string hs, h, Record.failure, writeBack_nil_right]
  rfl

theorem step_of_settlement (hs : s.sentence = .string sentence) {i : Instruction}
    {settlement : Settlement} (hread : Sentence.read sentence = .ok i)
    (hsettle : Settlement.settle i (accounts holdings) s.now.placed = .ok settlement)
    (hnodup : ((accounts holdings).map Account.id).Nodup) :
    let next := values (holdings.map (Effect.settling settlement).update)
    step (values holdings) s = ((Effect.settling settlement).answer next, next) := by
  intro next
  have hrecord : (Request.handle ⟨accounts holdings, sentence⟩ s.now).record =
      settlement.record := by
    rw [Request.record_of_read (r := ⟨accounts holdings, sentence⟩) s.now
      ((Sentence.read_trim sentence).trans hread), hsettle]
    rfl
  have hkept : writeBack settlement.record (values holdings) settlement.record.entries = next := by
    obtain ⟨hcheck, scheduled, -, rfl⟩ := Settlement.settle_eq_ok_iff.mp hsettle
    exact writeBack_values ⟨i, scheduled, _⟩ (!scheduled) (le_balance_of_mem hcheck hnodup)
  rw [step_of_string hs, hrecord, hkept]
  rfl

end Steps

/-- **The effect of a step** is the same on all snapshots in which it finds the same accounts. -/
theorem exists_effect (s : Step) (found : List Account) :
    ∃ e : Effect, e.Within s.instruction? ∧ ∀ holdings : List Holding,
      ((accounts holdings).map Account.id).Nodup →
      (∀ i ∈ s.instruction?, (accounts holdings).filter (fun a => i.names a.id) =
        found.filter fun a => i.names a.id) →
      step (values holdings) s =
        (e.answer (values (holdings.map e.update)), values (holdings.map e.update)) := by
  by_cases hs : ∃ sentence, s.sentence = .string sentence
  · obtain ⟨sentence, hs⟩ := hs
    have hinstruction : s.instruction? = (Sentence.read sentence).toOption := by
      rw [Step.instruction?, hs]
    cases hread : Sentence.read sentence with
    | error m =>
      refine ⟨.failing (Failure.ofMishap m).notice, Effect.within_of_update_eq_id rfl _,
        fun holdings _ _ => ?_⟩
      rw [Effect.failing, List.map_id]
      exact step_of_failure hs (Request.record_of_read_error s.now
        ((Sentence.read_trim sentence).trans hread))
    | ok i =>
      rw [hread] at hinstruction
      cases hsettle : Settlement.settle i found s.now.placed with
      | error f =>
        refine ⟨.failing (Failure.ofFault f).notice, Effect.within_of_update_eq_id rfl _,
          fun holdings _ hfound => ?_⟩
        have hsettle' := (Settlement.settle_congr s.now.placed
          (hfound i (by rw [hinstruction]; rfl))).trans hsettle
        have hrecord := Request.record_of_read (r := ⟨accounts holdings, sentence⟩) s.now
          ((Sentence.read_trim sentence).trans hread)
        rw [hsettle'] at hrecord
        rw [Effect.failing, List.map_id]
        exact step_of_failure hs hrecord
      | ok settlement =>
        have hi : settlement.instruction = i := by
          obtain ⟨-, _, -, rfl⟩ := Settlement.settle_eq_ok_iff.mp hsettle
          rfl
        refine ⟨.settling settlement, ?_, fun holdings hnodup hfound => ?_⟩
        · rw [hinstruction, ← hi]
          exact Effect.within_settling settlement
        · have hsettle' := (Settlement.settle_congr s.now.placed
            (hfound i (by rw [hinstruction]; rfl))).trans hsettle
          exact step_of_settlement hs hread hsettle' hnodup
  · obtain ⟨issues, hissues⟩ := exists_issues_of_ne_string fun sentence h => hs ⟨sentence, h⟩
    refine ⟨⟨.bad issues, id⟩, Effect.within_of_update_eq_id rfl _, fun holdings _ _ => ?_⟩
    rw [List.map_id, step, Request.handleJson, hissues]
    rfl

/-! ### Runs -/

/-- No step names an account of another owner. -/
def Independent (kept : List (γ × Json)) (steps : List (γ × Step)) : Prop :=
  ∀ x ∈ steps, ∀ i ∈ x.2.instruction?, ∀ y ∈ kept, y.1 ≠ x.1 →
    id? y.2 ≠ some i.debit ∧ id? y.2 ≠ some i.credit

instance [DecidableEq γ] (kept : List (γ × Json)) (steps : List (γ × Step)) :
    Decidable (Independent kept steps) :=
  inferInstanceAs (Decidable (∀ x ∈ steps, ∀ i ∈ x.2.instruction?, ∀ y ∈ kept, y.1 ≠ x.1 →
    id? y.2 ≠ some i.debit ∧ id? y.2 ≠ some i.credit))

section Runs

variable {owned : List (γ × Holding)} {steps : List (γ × Step)}

/-- The kept values of holdings with owners. -/
abbrev ownedValues (owned : List (γ × Holding)) : List (γ × Json) :=
  owned.map (Prod.map id Holding.value)

theorem exists_owned {kept : List (γ × Json)} {holdings : List Holding}
    (h : kept.map Prod.snd = values holdings) :
    ∃ owned : List (γ × Holding), kept = ownedValues owned ∧ holdings = owned.map Prod.snd := by
  have hlen : holdings.length = (kept.map Prod.fst).length := by
    simpa using (congrArg List.length h).symm
  refine ⟨(kept.map Prod.fst).zip holdings, ?_, (List.map_snd_zip hlen.le).symm⟩
  rw [ownedValues, ← List.zip_map_right]
  exact List.zip_of_prod rfl h

/-- The accounts with owners, after a step with the given effect. -/
def Effect.apply (e : Effect) (owned : List (γ × Holding)) : List (γ × Holding) :=
  owned.map (Prod.map id e.update)

theorem map_fst_ownedValues (owned : List (γ × Holding)) :
    (ownedValues owned).map Prod.fst = owned.map Prod.fst := by
  simp [Function.comp_def]

theorem map_snd_ownedValues (owned : List (γ × Holding)) :
    (ownedValues owned).map Prod.snd = values (owned.map Prod.snd) := by
  simp [Function.comp_def]

theorem map_fst_apply (e : Effect) (owned : List (γ × Holding)) :
    (e.apply owned).map Prod.fst = owned.map Prod.fst := by
  simp [Effect.apply, Function.comp_def]

theorem map_snd_apply (e : Effect) (owned : List (γ × Holding)) :
    (e.apply owned).map Prod.snd = (owned.map Prod.snd).map e.update := by
  simp [Effect.apply, Function.comp_def]

theorem ids_apply {e : Effect} {i : Option Instruction} (he : e.Within i)
    (owned : List (γ × Holding)) :
    (accounts ((e.apply owned).map Prod.snd)).map Account.id =
      (accounts (owned.map Prod.snd)).map Account.id := by
  simp only [map_snd_apply, accounts, List.map_map, Function.comp_def, he.id_update]

theorem names_eq_false_of_independent (h : Independent (ownedValues owned) steps) {x : γ × Step}
    (hx : x ∈ steps) {i : Instruction} (hi : i ∈ x.2.instruction?) {y : γ × Holding}
    (hy : y ∈ owned) (hne : y.1 ≠ x.1) : i.names y.2.account.id = false := by
  obtain ⟨hd, hc⟩ := h x hx i hi _ (List.mem_map_of_mem hy) hne
  rw [Prod.map_snd, Holding.id?_value, ne_eq, Option.some.injEq] at hd hc
  rw [← Bool.not_eq_true, Instruction.names_iff, not_or]
  exact ⟨hd, hc⟩

/-- An effect that leaves the ids leaves the steps independent. -/
theorem independent_apply {e : Effect} {i : Option Instruction} (he : e.Within i)
    (h : Independent (ownedValues owned) steps) :
    Independent (ownedValues (e.apply owned)) steps := by
  intro x hx i hi y hy hne
  obtain ⟨y', hy', rfl⟩ := List.mem_map.mp hy
  obtain ⟨⟨k, held⟩, hheld, rfl⟩ := List.mem_map.mp hy'
  have hnames := h x hx i hi _ (List.mem_map_of_mem hheld) hne
  rw [Prod.map_snd, Holding.id?_value] at hnames
  rw [Prod.map_snd, Prod.map_snd, Holding.id?_value, he.id_update]
  exact hnames

variable [DecidableEq γ]

theorem share_apply (e : Effect) (g : γ) (owned : List (γ × Holding)) :
    share g (e.apply owned) = (share g owned).map e.update :=
  share_map g e.update owned

theorem filter_names_share {g : γ} {i : Instruction}
    (h : ∀ y ∈ owned, y.1 ≠ g → i.names y.2.account.id = false) :
    (accounts (share g owned)).filter (fun a => i.names a.id) =
      (accounts (owned.map Prod.snd)).filter fun a => i.names a.id := by
  induction owned with
  | nil => rfl
  | cons y owned ih =>
    obtain ⟨k, held⟩ := y
    have ih := ih fun y hy => h y (List.mem_cons_of_mem _ hy)
    by_cases hk : k = g
    · subst hk
      rw [share_cons_self, List.map_cons, accounts, accounts, List.map_cons, List.map_cons,
        List.filter_cons, List.filter_cons, ih]
    · have hheld : i.names held.account.id = false := h _ List.mem_cons_self hk
      rw [share_cons_of_ne hk, ih]
      exact (List.filter_cons_of_neg (by simp [hheld])).symm

theorem share_zip_map (owners : List γ) (g : γ) (f : α → β) (l : List α) :
    share g (owners.zip (l.map f)) = (share g (owners.zip l)).map f := by
  rw [List.zip_map_right, share_map]

theorem share_zip_values (g : γ) (owned : List (γ × Holding)) :
    share g ((owned.map Prod.fst).zip (values (owned.map Prod.snd))) = values (share g owned) := by
  rw [share_zip_map, ← List.zip_of_prod rfl rfl]

/-- The part of an answer that `g` gets is the answer from the share of `g`. -/
theorem map_ofShare_answer (e : Effect) (owned : List (γ × Holding)) (g : γ) :
    (e.answer (values (owned.map Prod.snd))).map (Answer.ofShare (owned.map Prod.fst) g) =
      e.answer (values (share g owned)) := by
  have hbalances : share g ((owned.map Prod.fst).zip (balances (values (owned.map Prod.snd)))) =
      balances (values (share g owned)) := by
    rw [balances, share_zip_map, share_zip_values, balances]
  unfold Effect.answer
  cases e.verdict with
  | good v => exact congrArg (fun b => Shape.Checked.good (Answer.mk v.1 v.2 b)) hbalances
  | bad issues => rfl

/-- **A step on a snapshot with owners**: it has the same effect on the whole and on the share of
its owner, and none on the other shares. -/
theorem step_share {k : γ} {s : Step} (hx : (k, s) ∈ steps)
    (hnodup : ((accounts (owned.map Prod.snd)).map Account.id).Nodup)
    (h : Independent (ownedValues owned) steps) :
    ∃ e : Effect, e.Within s.instruction? ∧
      step (values (owned.map Prod.snd)) s =
        (e.answer (values ((e.apply owned).map Prod.snd)),
          values ((e.apply owned).map Prod.snd)) ∧
      step (values (share k owned)) s =
        (e.answer (values (share k (e.apply owned))), values (share k (e.apply owned))) ∧
      ∀ g, g ≠ k → share g (e.apply owned) = share g owned := by
  have hapart {i} (hi : i ∈ s.instruction?) {y} (hy : y ∈ owned) (hne : y.1 ≠ k) :
      i.names y.2.account.id = false := names_eq_false_of_independent h hx hi hy hne
  obtain ⟨e, hwithin, hstep⟩ := exists_effect s (accounts (owned.map Prod.snd))
  refine ⟨e, hwithin, ?_, ?_, fun g hg => ?_⟩
  · rw [map_snd_apply]
    exact hstep _ hnodup fun i _ => rfl
  · rw [share_apply]
    refine hstep _ (hnodup.sublist ?_) fun i hi => filter_names_share fun y => hapart hi
    exact ((share_sublist k owned).map _).map _
  · rw [share_apply]
    refine (List.map_congr_left fun held hheld => ?_).trans (List.map_id _)
    exact hwithin.update_eq held fun i hi => hapart hi (mem_share_iff.mp hheld) hg

/-- **A session goes for each owner as it would alone.** -/
theorem run_values_share (g : γ)
    (hnodup : ((accounts (owned.map Prod.snd)).map Account.id).Nodup)
    (h : Independent (ownedValues owned) steps) :
    let whole := run (values (owned.map Prod.snd)) (steps.map Prod.snd)
    run (values (share g owned)) (share g steps) =
      ((share g ((steps.map Prod.fst).zip whole.1)).map
          (Shape.Checked.map (Answer.ofShare (owned.map Prod.fst) g)),
        share g ((owned.map Prod.fst).zip whole.2)) := by
  induction steps generalizing owned with
  | nil => exact congrArg (Prod.mk []) (share_zip_values g owned).symm
  | cons x steps ih =>
    obtain ⟨k, s⟩ := x
    obtain ⟨e, hwithin, hwhole, hown, hother⟩ := step_share List.mem_cons_self hnodup h
    have ih := ih (ids_apply hwithin owned ▸ hnodup)
      (independent_apply hwithin fun x hx => h x (List.mem_cons_of_mem _ hx))
    rw [map_fst_apply] at ih
    dsimp only at ih ⊢
    rw [List.map_cons, List.map_cons, run_cons, hwhole, List.zip_cons_cons]
    by_cases hk : k = g
    · subst hk
      rw [share_cons_self, share_cons_self, run_cons, hown, List.map_cons, ih,
        ← map_fst_apply e owned, map_ofShare_answer]
    · rw [share_cons_of_ne hk, share_cons_of_ne hk, ← hother g (Ne.symm hk), ih]

end Runs

/-! ### The order of steps -/

theorem length_writeBack (r : Record) (kept : Snapshot) (entries : List Entry) :
    (writeBack r kept entries).length = kept.length := by
  fun_induction writeBack r kept entries with
  | case1 => rfl
  | case2 => rfl
  | case3 account accounts e entries _ ih => rw [List.length_cons, List.length_cons, ih]
  | case4 account accounts e entries _ ih => rw [List.length_cons, List.length_cons, ih]

theorem length_step (kept : Snapshot) (s : Step) : (step kept s).2.length = kept.length := by
  unfold step
  split
  · exact length_writeBack _ _ _
  · rfl

theorem length_run_kept (kept : Snapshot) (steps : List Step) :
    (run kept steps).2.length = kept.length := by
  induction steps generalizing kept with
  | nil => rfl
  | cons s steps ih => rw [run_cons, ih, length_step]

variable [DecidableEq γ]

/-- The answers to the steps of `g`, each with the balances of the accounts that `g` owns. -/
def answersOf (owners : List γ) (g : γ) (steps : List (γ × Step))
    (answers : List (Shape.Checked Answer)) : List (Shape.Checked Answer) :=
  (share g ((steps.map Prod.fst).zip answers)).map
    (Shape.Checked.map (Answer.ofShare owners g))

theorem mem_of_share_eq {l l' : List (γ × α)} (h : ∀ g, share g l' = share g l) {x : γ × α}
    (hx : x ∈ l') : x ∈ l := by
  rw [← mem_share_iff (g := x.1) (a := x.2)] at hx ⊢
  rwa [← h]

/-- **Sessions that share a snapshot do not disturb each other.** The accounts have different ids
and no step names an account of another owner. Then for each owner the steps are answered, with what
is kept of the owner's accounts after each of them, as in the session of the owner's accounts and
steps alone, and the owner's accounts end as there. None of the steps fails to be answered. So any
other interleaving of the same steps ends with the same accounts and gives the same answers. -/
theorem run_share {kept : List (γ × Json)} {accounts : List Account} {steps : List (γ × Step)}
    (hreads : Shape.list Account.ofJson (.array (kept.map Prod.snd)) = .good accounts)
    (hnodup : (accounts.map Account.id).Nodup) (h : Independent kept steps) :
    let whole := run (kept.map Prod.snd) (steps.map Prod.snd)
    (∀ g, (answersOf (kept.map Prod.fst) g steps whole.1,
      share g ((kept.map Prod.fst).zip whole.2)) = run (share g kept) (share g steps)) ∧
    ((∀ x ∈ steps, ∃ sentence, x.2.sentence = .string sentence) →
      ∀ answer ∈ whole.1, ∃ a, answer = .good a) ∧
    ∀ steps' : List (γ × Step), (∀ g, share g steps' = share g steps) →
      let other := run (kept.map Prod.snd) (steps'.map Prod.snd)
      other.2 = whole.2 ∧ ∀ g, answersOf (kept.map Prod.fst) g steps' other.1 =
        answersOf (kept.map Prod.fst) g steps whole.1 := by
  obtain ⟨holdings, hkept, rfl⟩ := exists_holdings hreads
  obtain ⟨owned, rfl, rfl⟩ := exists_owned hkept
  rw [map_fst_ownedValues, map_snd_ownedValues]
  have hshare {steps : List (γ × Step)} (h : Independent (ownedValues owned) steps) (g : γ) :
      (answersOf (owned.map Prod.fst) g steps
          (run (values (owned.map Prod.snd)) (steps.map Prod.snd)).1,
        share g ((owned.map Prod.fst).zip
          (run (values (owned.map Prod.snd)) (steps.map Prod.snd)).2)) =
      run (share g (ownedValues owned)) (share g steps) := by
    rw [share_map, run_values_share g hnodup h]
    rfl
  refine ⟨hshare h, fun hsentence => ?_, fun steps' hsteps => ?_⟩
  · have htexts : ∀ s ∈ steps.map Prod.snd, ∃ sentence, s.sentence = .string sentence := by
      intro s hs
      obtain ⟨x, hx, rfl⟩ := List.mem_map.mp hs
      exact hsentence x hx
    obtain ⟨-, -, -, -, hanswers⟩ := run_holdings htexts hnodup
    exact hanswers
  · have h' : Independent (ownedValues owned) steps' := fun x hx =>
      h x (mem_of_share_eq hsteps hx)
    have hsame (g : γ) := (hshare h' g).trans ((hsteps g ▸ hshare h g).symm)
    refine ⟨eq_of_share_zip_eq ?_ ?_ fun g => (Prod.mk.inj (hsame g)).2, fun g =>
      (Prod.mk.inj (hsame g)).1⟩ <;>
    · rw [length_run_kept]; simp

/-- Two owners, whose steps are executed, wait for a date, and fail for want of funds and of an
account. -/
theorem run_share_twoOwners :
    let kept : List (Bool × Json) := [
      (false, .object [("id", .string "a"), ("balance", .string "50"),
        ("currency", .string "usd")]),
      (true, .object [("id", .string "c"), ("balance", .int 7), ("currency", .string "GBP")]),
      (false, .object [("id", .string "b"), ("balance", .bool true), ("currency", .string "USD")]),
      (true, .object [("id", .string "d"), ("balance", .int 0), ("currency", .string "GBP")])]
    let now : Moment := ⟨⟨2026, 1, 1⟩, 0, none⟩
    let steps : List (Bool × Step) := [
      (false, ⟨.string "DEBIT 20 USD FROM ACCOUNT a FOR CREDIT TO ACCOUNT b", now⟩),
      (true, ⟨.string "CREDIT 5 GBP TO ACCOUNT d FOR DEBIT FROM ACCOUNT c ON 2999-01-01", now⟩),
      (true, ⟨.string "DEBIT 9 GBP FROM ACCOUNT c FOR CREDIT TO ACCOUNT d", now⟩),
      (false, ⟨.string "DEBIT 1 USD FROM ACCOUNT a FOR CREDIT TO ACCOUNT x", now⟩)]
    let accounts : List Account :=
      [⟨"a", 50, "USD"⟩, ⟨"c", 7, "GBP"⟩, ⟨"b", 1, "USD"⟩, ⟨"d", 0, "GBP"⟩]
    let whole := run (kept.map Prod.snd) (steps.map Prod.snd)
    Shape.list Account.ofJson (.array (kept.map Prod.snd)) = .good accounts ∧
      (accounts.map Account.id).Nodup ∧ Independent kept steps ∧
      ∀ g, (answersOf (kept.map Prod.fst) g steps whole.1,
        share g ((kept.map Prod.fst).zip whole.2)) = run (share g kept) (share g steps) := by
  intro kept now steps accounts whole
  have hreads : Shape.list Account.ofJson (.array (kept.map Prod.snd)) = .good accounts := by rfl
  have hnodup : (accounts.map Account.id).Nodup := by decide
  have hindependent : Independent kept steps := by decide +kernel
  exact ⟨hreads, hnodup, hindependent, (run_share hreads hnodup hindependent).1⟩

end Remittance.Session
