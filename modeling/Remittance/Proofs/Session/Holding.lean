import Remittance.Proofs.Ledger.Entry
import Remittance.Proofs.Shape.Account
import Remittance.Session

/-! # What a session holds

A session keeps accounts as JSON values. A `Holding` is such a value together with the account that
it stands for; a snapshot that has the shape of accounts is a list of holdings (`exists_holdings`).
Writing the entries of an instruction back changes each holding on its own (`writeBack_values`): one
with an id of the instruction gets the balance of its entry, and every other stays as it is. -/

namespace Remittance.Session

/-! ### The fields of a kept account -/

/-- The id of a kept account. -/
def id? (v : Json) : Option String :=
  match field? "id" v with
  | some (.string id) => some id
  | _ => none

/-- The balance of a kept account, however it is written. -/
def balance? (v : Json) : Option Int :=
  (field? "balance" v).bind fun b => (Shape.integer b).value?

/-- The currency of a kept account, in upper case. -/
def currency? (v : Json) : Option String :=
  match field? "currency" v with
  | some (.string currency) => some (Text.upper currency)
  | _ => none

theorem field?_setBalance_of_ne {name : String} (hne : name ≠ "balance") (v : Json) (n : Int) :
    field? name (setBalance v n) = field? name v := by
  cases v with
  | object fields => exact Json.field?_putField_of_ne hne _ fields
  | _ => rfl

/-! ### Holdings -/

/-- A kept value with the account that it stands for. -/
structure Holding where
  value : Json
  account : Account
  reads : Account.ofJson value = .good account

namespace Holding

variable {h : Holding} {i : Instruction} {apply : Bool}

theorem id?_value (h : Holding) : id? h.value = some h.account.id := by
  obtain ⟨fields, b, currency, hv, hid, -⟩ := Account.ofJson_eq_good_iff.mp h.reads
  rw [hv, id?, field?, hid]

theorem balance?_value (h : Holding) : balance? h.value = some (h.account.balance : Int) := by
  obtain ⟨fields, b, currency, hv, -, hb, hint, -⟩ := Account.ofJson_eq_good_iff.mp h.reads
  rw [hv, balance?, field?, hb, Option.bind_some, hint, Shape.Checked.value?]

theorem currency?_value (h : Holding) : currency? h.value = some h.account.currency := by
  obtain ⟨fields, b, currency, hv, -, -, -, hc, hcur⟩ := Account.ofJson_eq_good_iff.mp h.reads
  rw [hv, currency?, field?, hc, hcur]

theorem isNamed_value (h : Holding) (s : Settlement) :
    isNamed s.record h.value = s.instruction.names h.account.id := by
  obtain ⟨fields, b, currency, hv, hid, -⟩ := Account.ofJson_eq_good_iff.mp h.reads
  rw [hv, isNamed, field?, hid]
  rfl

/-- The holding with another balance. -/
def put (h : Holding) (n : Nat) : Holding where
  value := setBalance h.value n
  account := { h.account with balance := n }
  reads := by
    obtain ⟨fields, b, currency, hv, hid, -, -, hc, hcur⟩ := Account.ofJson_eq_good_iff.mp h.reads
    rw [Account.ofJson_eq_good_iff, hv]
    exact ⟨_, .int n, currency, rfl, (Json.field?_putField_of_ne (by decide) _ _).trans hid,
      Json.field?_putField_self _ _ _, rfl,
      (Json.field?_putField_of_ne (by decide) _ _).trans hc, hcur⟩

/-- The holding after the entries of an instruction are written back. -/
def after (i : Instruction) (apply : Bool) (h : Holding) : Holding :=
  if i.names h.account.id then h.put (Entry.ofAccount i apply h.account).balance.toNat else h

theorem after_of_not_names (hn : i.names h.account.id = false) : after i apply h = h := by
  rw [after, hn, if_neg Bool.false_ne_true]

theorem id_after : (after i apply h).account.id = h.account.id := by
  unfold after; split <;> rfl

theorem currency_after : (after i apply h).account.currency = h.account.currency := by
  unfold after; split <;> rfl

theorem account_after_false : (after i false h).account = h.account := by
  unfold after; split <;> rfl

theorem balance_after_true (hle : h.account.id = i.debit → i.amount.value ≤ h.account.balance) :
    ((after i true h).account.balance : Int) = h.account.balance + Entry.delta i h.account.id := by
  cases hn : i.names h.account.id
  · rw [after_of_not_names hn, Entry.delta_of_not_names hn, Int.add_zero]
  · rw [after, if_pos hn, Entry.delta, if_pos hn]
    exact Int.toNat_of_nonneg (Entry.ofAccount_nonneg hle)

theorem value_after (hle : h.account.id = i.debit → i.amount.value ≤ h.account.balance)
    (hn : i.names h.account.id = true) :
    (after i apply h).value = setBalance h.value (Entry.ofAccount i apply h.account).balance := by
  rw [after, if_pos hn]
  exact congrArg (setBalance h.value) (Int.toNat_of_nonneg (Entry.ofAccount_nonneg hle))

theorem field?_value_after {name : String} (hne : name ≠ "balance") :
    field? name (after i apply h).value = field? name h.value := by
  unfold after
  split
  · exact field?_setBalance_of_ne hne _ _
  · rfl

end Holding

/-! ### Snapshots -/

theorem forall₂_holdings (holdings : List Holding) :
    List.Forall₂ (fun v a => Account.ofJson v = .good a) (holdings.map Holding.value)
      (holdings.map Holding.account) := by
  rw [List.forall₂_map_left_iff, List.forall₂_map_right_iff, List.forall₂_same]
  exact fun h _ => h.reads

/-- **A snapshot with the shape of accounts is a list of holdings.** -/
theorem exists_holdings {kept : Snapshot} {accounts : List Account}
    (h : Shape.list Account.ofJson (.array kept) = .good accounts) :
    ∃ holdings : List Holding,
      kept = holdings.map Holding.value ∧ accounts = holdings.map Holding.account := by
  have hreads := (Shape.elements_eq_good_iff 0).mp h
  clear h
  induction hreads with
  | nil => exact ⟨[], rfl, rfl⟩
  | @cons v a _ _ hread _ ih =>
    obtain ⟨holdings, rfl, rfl⟩ := ih
    exact ⟨⟨v, a, hread⟩ :: holdings, rfl, rfl⟩

theorem ofJson_payload (holdings : List Holding) (sentence : String) :
    Request.ofJson (payload (holdings.map Holding.value) (.string sentence)) =
      .good ⟨holdings.map Holding.account, sentence⟩ := by
  rw [Request.ofJson_eq_good_iff]
  exact ⟨_, _, rfl, rfl, forall₂_holdings holdings, rfl⟩

theorem writeBack_nil_right (r : Record) (kept : Snapshot) : writeBack r kept [] = kept := by
  cases kept <;> rfl

/-- **Writing back changes each holding on its own.** -/
theorem writeBack_values (s : Settlement) (apply : Bool) {holdings : List Holding}
    (hle : ∀ h ∈ holdings, h.account.id = s.instruction.debit →
      s.instruction.amount.value ≤ h.account.balance) :
    writeBack s.record (holdings.map Holding.value)
        (Entry.project s.instruction apply (holdings.map Holding.account)) =
      (holdings.map (Holding.after s.instruction apply)).map Holding.value := by
  induction holdings with
  | nil => rfl
  | cons h holdings ih =>
    have ih := ih fun h' hh' => hle h' (List.mem_cons_of_mem _ hh')
    simp only [List.map_cons]
    rw [Entry.project_cons]
    cases hn : s.instruction.names h.account.id
    · -- the entries are those of the other holdings
      rw [if_neg Bool.false_ne_true, Holding.after_of_not_names hn, ← ih]
      cases Entry.project s.instruction apply (holdings.map Holding.account) with
      | nil => rw [writeBack_nil_right, writeBack_nil_right]
      | cons e entries => rw [writeBack, h.isNamed_value, hn, if_neg Bool.false_ne_true]
    · rw [if_pos rfl, writeBack, h.isNamed_value, hn, if_pos rfl, ih,
        Holding.value_after (hle h List.mem_cons_self) hn]

end Remittance.Session
