import Remittance.Proofs.Execution
import Remittance.Proofs.Text.StandIn
import Remittance.Service.Http

/-! # Writing the record of an outcome

On a framework that writes integers of any size, a record is answered if and only if all of its texts
have an encoding (`recordAnswer_eq_ok_iff`). The record of a request has texts of the library and
texts from a sentence that was read, which are ASCII (`isAscii_texts_handle`). So it is answered if
and only if the currencies of its entries have an encoding (`recordAnswer_handle_eq_ok_iff`): these
come from the snapshot, and all of them are checked only where no id is repeated
(`currency_handle_mem`). -/

namespace Remittance

/-! ### The leaves of a record -/

namespace Json

theorem itemsLeaves_map {α : Type} (f : α → Json) (l : List α) :
    itemsLeaves (l.map f) = l.flatMap fun a => leaves (f a) := by
  induction l with
  | nil => rfl
  | cons a l ih => rw [List.map_cons, itemsLeaves, List.flatMap_cons, ih]

@[simp]
theorem leaves_ofString? (s : Option String) : leaves (ofString? s) = [ofString? s] := by
  cases s <;> rfl

@[simp]
theorem leaves_ofInt? (n : Option Int) : leaves (ofInt? n) = [ofInt? n] := by
  cases n <;> rfl

end Json

/-- The texts of a record, apart from the currencies of its entries. -/
def Record.texts (r : Record) : List String :=
  (r.form.map Form.text).toList ++ r.currency.toList ++ r.debit.toList ++ r.credit.toList ++
    r.executeBy.toList ++ [r.status.text, r.reason.message, r.reason.code] ++ r.entries.map Entry.id

namespace Http

open Text (StandIns)

/-- The framework writes integers of any size. -/
def Framework.WritesIntegers (framework : Framework) : Prop :=
  ∀ n, framework.refusal? n = none

/-- The text has an encoding: it holds no unpaired surrogate. -/
def IsEncodable (standIns : StandIns) (text : String) : Prop :=
  ∀ c ∈ text.toList, standIns.holds c = false

/-- The answer that carries a record. -/
def Answer.ofRecord (r : Record) : Answer :=
  ⟨200, .object [("message", .string "Instruction processed successfully"), ("data", r.toJson)]⟩

/-! ### Leaves that can be written -/

section

variable {framework : Framework} {standIns : StandIns}

theorem leafFault?_string {text : String} :
    leafFault? framework standIns (.string text) = none ↔ IsEncodable standIns text := by
  rw [leafFault?, Option.map_eq_none_iff, StandIns.firstRun?_eq_none_iff]
  rfl

theorem leafFault?_ofString? {text : Option String} :
    leafFault? framework standIns (.ofString? text) = none ↔
      ∀ t ∈ text.toList, IsEncodable standIns t := by
  cases text with
  | none => simp [leafFault?, Json.ofString?]
  | some t => simpa [Json.ofString?] using leafFault?_string

theorem leafFault?_int (hwrites : framework.WritesIntegers) (n : Int) :
    leafFault? framework standIns (.int n) = none := by
  rw [leafFault?, hwrites]
  rfl

theorem leafFault?_ofInt? (hwrites : framework.WritesIntegers) (n : Option Int) :
    leafFault? framework standIns (.ofInt? n) = none := by
  cases n with
  | none => rfl
  | some n => exact leafFault?_int hwrites n

theorem leaves_ofRecord (r : Record) : (Answer.ofRecord r).body.leaves =
    [.string "message", .string "Instruction processed successfully", .string "data",
      .string "type", .ofString? (r.form.map Form.text), .string "amount", .ofInt? r.amount,
      .string "currency", .ofString? r.currency, .string "debit_account", .ofString? r.debit,
      .string "credit_account", .ofString? r.credit, .string "execute_by", .ofString? r.executeBy,
      .string "status", .string r.status.text, .string "status_reason", .string r.reason.message,
      .string "status_code", .string r.reason.code, .string "accounts"] ++
    r.entries.flatMap fun e => [.string "id", .string e.id, .string "balance", .int e.balance,
      .string "balance_before", .int e.balanceBefore, .string "currency", .string e.currency] := by
  have hentries : Json.itemsLeaves (r.entries.map Entry.toJson) = r.entries.flatMap fun e =>
      [.string "id", .string e.id, .string "balance", .int e.balance,
        .string "balance_before", .int e.balanceBefore, .string "currency", .string e.currency] :=
    Json.itemsLeaves_map Entry.toJson r.entries
  simp [Answer.ofRecord, Record.toJson, Json.leaves, Json.fieldsLeaves, hentries]

/-! ### Texts that have an encoding -/

/-- The text is ASCII. -/
def IsAscii (text : String) : Prop :=
  ∀ c ∈ text.toList, c.toNat < 0x80

instance (text : String) : Decidable (IsAscii text) :=
  List.decidableBAll (fun c : Char => c.toNat < 0x80) text.toList

theorem isEncodable_of_isAscii {text : String}
    (hpool : ∀ c, standIns.holds c = true → StandIns.poolStart ≤ c.toNat) (h : IsAscii text) :
    IsEncodable standIns text := by
  intro c hc
  have hlt := h c hc
  rw [← Bool.not_eq_true]
  intro hholds
  have hle := hpool c hholds
  unfold StandIns.poolStart at hle
  omega

theorem recordAnswer_eq (framework : Framework) (standIns : StandIns) (r : Record) :
    recordAnswer framework standIns r =
      match (Answer.ofRecord r).body.leaves.findSome? (leafFault? framework standIns) with
      | some fault => .error fault
      | none => .ok (.ofRecord r) := rfl

/-- **A record is answered** if and only if all its texts have an encoding. -/
theorem recordAnswer_eq_ok_iff (hwrites : framework.WritesIntegers)
    (hpool : ∀ c, standIns.holds c = true → StandIns.poolStart ≤ c.toNat) {r : Record} :
    recordAnswer framework standIns r = .ok (.ofRecord r) ↔
      (∀ text ∈ r.texts, IsEncodable standIns text) ∧
        ∀ e ∈ r.entries, IsEncodable standIns e.currency := by
  -- what stands in every record: the names of the fields, and the message
  have hnames : ∀ name ∈ ["message", "Instruction processed successfully", "data", "type",
      "amount", "currency", "debit_account", "credit_account", "execute_by", "status",
      "status_reason", "status_code", "accounts", "id", "balance", "balance_before"],
      IsEncodable standIns name := by
    intro name hname
    refine isEncodable_of_isAscii hpool ?_
    revert name
    decide +kernel
  have hnone : (Answer.ofRecord r).body.leaves.findSome? (leafFault? framework standIns) = none ↔
      (∀ text ∈ r.texts, IsEncodable standIns text) ∧
        ∀ e ∈ r.entries, IsEncodable standIns e.currency := by
    rw [List.findSome?_eq_none_iff, leaves_ofRecord]
    simp only [List.forall_mem_cons] at hnames
    simp only [List.forall_mem_append, List.forall_mem_cons, List.forall_mem_flatMap, hnames,
      leafFault?_string, leafFault?_ofString?, leafFault?_ofInt? hwrites, leafFault?_int hwrites,
      Record.texts, List.forall_mem_map, List.not_mem_nil, IsEmpty.forall_iff, implies_true,
      true_and, and_true, forall_and, and_assoc]
  rw [← hnone, recordAnswer_eq]
  split
  · next fault hfault =>
    rw [hfault]
    exact iff_of_false (by rintro ⟨⟩) (by rintro ⟨⟩)
  · next hclean =>
    rw [hclean]
    exact iff_of_true rfl rfl

theorem eq_ofRecord_of_recordAnswer {r : Record} {a : Answer}
    (h : recordAnswer framework standIns r = .ok a) : a = .ofRecord r := by
  rw [recordAnswer_eq] at h
  split at h <;> cases h
  rfl

end

/-! ### The record of a request -/

theorem isAscii_of_visible {text : String}
    (h : ∀ c ∈ text.toList, 0x21 ≤ c.toNat ∧ c.toNat ≤ 0x7E) : IsAscii text :=
  fun c hc => by have := (h c hc).2; omega

theorem isAscii_of_accountId {token id : String} (h : Field.accountId token = .ok id) :
    IsAscii token :=
  isAscii_of_visible (Field.visible_of_accountId h)

theorem isAscii_of_date {token d : String} (h : Field.date token = .ok d) : IsAscii token := by
  obtain ⟨-, _, _, _, hparts, -⟩ := Field.date_eq_ok_iff.mp h
  exact isAscii_of_visible (ExecutionDate.visible_of_dateParts? hparts)

theorem isAscii_of_mem_currencies {currency : String} (h : currency ∈ Field.currencies) :
    IsAscii currency := by
  revert currency
  decide +kernel

theorem isAscii_notice (reason : Reason) :
    IsAscii reason.notice.message ∧ IsAscii reason.notice.code := by
  cases reason <;> decide +kernel

/-- The words of a sentence that was read, and those of the library, are ASCII. -/
theorem isAscii_texts_transfer {i : Instruction} (hi : i.Sound) (status : Status) (reason : Reason)
    {entries : List Entry} (hids : ∀ e ∈ entries, e.id = i.debit ∨ e.id = i.credit) :
    ∀ text ∈ (Record.transfer i status reason entries).texts, IsAscii text := by
  have hform : IsAscii i.form.text := by cases i.form <;> decide +kernel
  have hstatus : IsAscii status.text := by cases status <;> decide +kernel
  have hcurrency : IsAscii i.currency := isAscii_of_mem_currencies hi.currency
  have hdebit := isAscii_of_accountId hi.debit
  have hcredit := isAscii_of_accountId hi.credit
  have hdate : ∀ d, i.executeBy = some d → IsAscii d := fun d hd =>
    isAscii_of_date (hi.executeBy d hd)
  have hentries : ∀ e ∈ entries, IsAscii e.id := by
    intro e he
    rcases hids e he with hid | hid <;> rw [hid] <;> assumption
  obtain ⟨hmessage, hcode⟩ := isAscii_notice reason
  simp only [Record.texts, Record.transfer, Option.map_some, Option.toList_some,
    List.forall_mem_append, List.forall_mem_cons, List.forall_mem_map]
  simpa [hform, hcurrency, hdebit, hcredit, hstatus, hmessage, hcode] using ⟨hdate, hentries⟩

/-- **The texts of the record of a request are ASCII**, but for the currencies of its entries. -/
theorem isAscii_texts_handle (r : Request) (now : Moment) :
    ∀ text ∈ (r.handle now).record.texts, IsAscii text := by
  rcases Request.record_cases r now with ⟨i, scheduled, hi, -, hrecord⟩ | ⟨reason, -, hrecord⟩
  · rw [hrecord]
    refine isAscii_texts_transfer hi _ _ fun e he => ?_
    obtain ⟨a, -, hid, rfl⟩ := Entry.mem_project_iff.mp he
    exact hid
  · obtain ⟨hmessage, hcode⟩ := isAscii_notice reason
    have hstatus : IsAscii Status.failed.text := by decide +kernel
    rw [hrecord]
    simp [Record.texts, Record.failure, hmessage, hcode, hstatus]

/-- **The record of a request is answered** if and only if the currencies of its entries have an
encoding. -/
theorem recordAnswer_handle_eq_ok_iff {framework : Framework} {standIns : StandIns}
    (hwrites : framework.WritesIntegers)
    (hpool : ∀ c, standIns.holds c = true → StandIns.poolStart ≤ c.toNat) (r : Request)
    (now : Moment) : recordAnswer framework standIns (r.handle now).record =
        .ok (.ofRecord (r.handle now).record) ↔
      ∀ e ∈ (r.handle now).record.entries, IsEncodable standIns e.currency := by
  rw [recordAnswer_eq_ok_iff hwrites hpool]
  exact and_iff_right fun text htext =>
    isEncodable_of_isAscii hpool (isAscii_texts_handle r now text htext)

/-- If no id is repeated, all entries are in a currency in which transfers are made. -/
theorem currency_handle_mem (r : Request) (now : Moment)
    (hnodup : (r.accounts.map Account.id).Nodup) :
    ∀ e ∈ (r.handle now).record.entries, e.currency ∈ Field.currencies := by
  rcases Request.record_cases r now with ⟨i, scheduled, hi, hcheck, hrecord⟩ | ⟨_, -, hrecord⟩
  · rw [hrecord]
    intro e he
    have hcurrency : e.currency = i.currency :=
      Entry.currency_project_iff.mpr (fun a ha hid => Settlement.currency_of_check hcheck
        (Account.countId_le_one hnodup _) (Account.countId_le_one hnodup _) ha hid) e he
    rw [hcurrency]
    exact hi.currency
  · rw [hrecord]
    exact fun _ he => absurd he List.not_mem_nil

end Http

end Remittance
