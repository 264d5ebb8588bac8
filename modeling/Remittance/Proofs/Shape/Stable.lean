import Remittance.Proofs.Shape.Account
import Remittance.Proofs.Text.UpperCase
import Remittance.Session
import Remittance.Shape.Instruction
import Remittance.Shape.Record

/-! # Values that are written and checked again

A check may take a value in several forms: an integer as text, a currency in any casing, fields in
any order and some of them left out. What it makes of the value is written in one form, and checking
that gives the same once more: the shape is *stable*. Entries, instructions and records are written
without loss, whatever they hold (`Restores`). Accounts, and so requests, are not: their currencies
are taken in upper case, and it is since upper case is reached at once that they are stable too.

`stable_shapes` puts the shapes of this library together. -/

namespace Remittance

namespace Shape

variable {α β : Type} {check : Json → Checked α} {write : α → Json}

/-- Whatever a check makes of a value, it makes the same of what is written for it. -/
def Stable (check : Json → Checked α) (write : α → Json) : Prop :=
  ∀ v a, check v = .good a → check (write a) = .good a

/-- A check gives back everything that is written. -/
def Restores (check : Json → Checked α) (write : α → Json) : Prop :=
  ∀ a, check (write a) = .good a

theorem Restores.stable (h : Restores check write) : Stable check write :=
  fun _ a _ => h a

theorem given_eq_good_iff {name : String} {absent a : α} {fields : Fields} :
    given name absent check fields = .good a ↔
      (Json.field? name fields = none ∧ a = absent) ∨
        ∃ v, Json.field? name fields = some v ∧ check v = .good a := by
  unfold given
  cases Json.field? name fields with
  | none => simp [eq_comm]
  | some v => simp

@[simp]
theorem Checked.map_good (f : α → β) (a : α) : f <$> Checked.good a = .good (f a) := rfl

@[simp]
theorem Checked.seq_good (f : α → β) (a : α) : Checked.good f <*> .good a = .good (f a) := rfl

@[simp]
theorem Checked.seqLeft_good (a : α) (b : β) : (Checked.good a <* .good b) = .good a := rfl

@[simp]
theorem Checked.under_good (step : Step) (a : α) : (Checked.good a).under step = .good a := rfl

theorem Checked.seqLeft_eq_good_iff {c : Checked α} {d : Checked β} {a : α} :
    (c <* d) = .good a ↔ c = .good a ∧ ∃ b, d = .good b := by
  cases c <;> cases d <;> simp [SeqLeft.seqLeft, Checked.map, Checked.app]

/-! ### Values -/

theorem word_string {ofText? : String → Option α} {problem : Problem} {s : String} {a : α}
    (h : ofText? s = some a) : word ofText? problem (.string s) = .good a := by
  simp only [word, h]

theorem optional_text (o : Option String) : optional text (.ofString? o) = .good o := by
  cases o <;> rfl

theorem optional_integer (o : Option Int) : optional integer (.ofInt? o) = .good o := by
  cases o <;> rfl

theorem optional_form (o : Option Form) :
    optional (word Form.ofText? .notForm) (.ofString? (o.map Form.text)) = .good o := by
  cases o with
  | none => rfl
  | some f =>
    have hform : word Form.ofText? .notForm (.string f.text) = .good f :=
      word_string (Form.ofText?_text f)
    simp [optional, Json.ofString?, hform]

theorem Stable.forall₂_map (hstable : Stable check write) {vs : List Json} {xs : List α}
    (h : List.Forall₂ (fun v x => check v = .good x) vs xs) :
    List.Forall₂ (fun v x => check v = .good x) (xs.map write) xs := by
  induction h with
  | nil => exact .nil
  | cons hv _ ih => exact .cons (hstable _ _ hv) ih

theorem Restores.list_map (h : Restores check write) (xs : List α) :
    list check (.array (xs.map write)) = .good xs := by
  refine list_eq_good_iff.mpr ⟨_, rfl, ?_⟩
  rw [List.forall₂_map_left_iff, List.forall₂_same]
  exact fun x _ => h x

end Shape

open Shape

/-! ### Shapes that are written without loss -/

theorem Entry.ofJson_toJson : Restores Entry.ofJson Entry.toJson := by
  intro e
  simp [ofJson, toJson, object, required, closed, fieldNames, Json.field?, text, integer]

theorem Amount.ofJson_int (a : Amount) : Amount.ofJson (.int a.value) = .good a := by
  simp [Amount.ofJson, integer, a.pos]

theorem Instruction.ofJson_toJson : Restores Instruction.ofJson Instruction.toJson := by
  intro i
  have hform : word Form.ofText? .notForm (.string i.form.text) = .good i.form :=
    word_string (Form.ofText?_text i.form)
  have hamount := i.amount.ofJson_int
  have hdate := optional_text i.executeBy
  simp [ofJson, toJson, object, required, given, closed, fieldNames, Json.field?, text, hform,
    hamount, hdate]

theorem Record.ofJson_toJson : Restores Record.ofJson Record.toJson := by
  intro r
  have hform := optional_form r.form
  have hamount := optional_integer r.amount
  have htext := optional_text
  have hstatus : word Status.ofText? .notStatus (.string r.status.text) = .good r.status :=
    word_string (Status.ofText?_text r.status)
  have hentries := Entry.ofJson_toJson.list_map r.entries
  simp [ofJson, toJson, object, required, given, closed, fieldNames, Json.field?, text, hform,
    hamount, htext, hstatus, hentries, ofParts]

theorem Record.entries_of_ofJson {v : Json} {r : Record} (h : Record.ofJson v = .good r) :
    (Session.field? "accounts" v = none ∧ r.entries = []) ∨
      ∃ vs, Session.field? "accounts" v = some (.array vs) ∧
        List.Forall₂ (fun v e => Entry.ofJson v = .good e) vs r.entries := by
  obtain ⟨fields, rfl, hfields⟩ := object_eq_good_iff.mp h
  obtain ⟨hparts, -⟩ := Checked.seqLeft_eq_good_iff.mp hfields
  obtain ⟨g, entries, hg, hentries, rfl⟩ := Checked.seq_eq_good_iff.mp hparts
  -- the entries are the last of the ten parts, so nine more checks come before theirs
  have hkept : (g entries).entries = entries := by
    simp only [Checked.seq_eq_good_iff, Checked.map_eq_good_iff] at hg
    obtain ⟨_, _, ⟨_, _, ⟨_, _, ⟨_, _, ⟨_, _, ⟨_, _, ⟨_, _, ⟨_, _, ⟨_, _, rfl⟩, -, rfl⟩, -, rfl⟩,
      -, rfl⟩, -, rfl⟩, -, rfl⟩, -, rfl⟩, -, rfl⟩, -, rfl⟩ := hg
    rfl
  rw [hkept]
  rcases given_eq_good_iff.mp hentries with ⟨habsent, rfl⟩ | ⟨w, hw, hlist⟩
  · exact .inl ⟨habsent, rfl⟩
  · obtain ⟨vs, rfl, hvs⟩ := list_eq_good_iff.mp hlist
    exact .inr ⟨vs, hw, hvs⟩

/-! ### Accounts and requests -/

theorem Account.ofJson_toJson {a : Account} (h : Text.upper a.currency = a.currency) :
    Account.ofJson a.toJson = .good a :=
  Account.ofJson_eq_good_iff.mpr ⟨_, _, _, rfl, rfl, rfl, rfl, rfl, h.symm⟩

theorem Account.upper_currency {v : Json} {a : Account} (h : Account.ofJson v = .good a) :
    Text.upper a.currency = a.currency := by
  obtain ⟨_, _, currency, -, -, -, -, -, hcurrency⟩ := Account.ofJson_eq_good_iff.mp h
  rw [hcurrency, Text.upper_upper]

theorem Account.stable : Stable Account.ofJson Account.toJson :=
  fun _ _ h => Account.ofJson_toJson (Account.upper_currency h)

theorem Request.stable : Stable Request.ofJson Request.toJson := by
  intro v r h
  obtain ⟨_, vs, -, -, haccounts, -⟩ := Request.ofJson_eq_good_iff.mp h
  have hwritten := Account.stable.forall₂_map haccounts
  exact Request.ofJson_eq_good_iff.mpr ⟨_, _, rfl, rfl, hwritten, rfl⟩

namespace Shape

/-- **Every shape is stable.** Whatever value an account, a request, an instruction, an entry or a
record is taken from, checking what is written for it gives it once more, with its lists in their
order. Entries, instructions and records are written without loss, with integers of any size and
sign and with fields that are left out; so is the record that a request ends with. -/
theorem stable_shapes :
    Stable Account.ofJson Account.toJson ∧ Stable Request.ofJson Request.toJson ∧
    Stable Instruction.ofJson Instruction.toJson ∧ Stable Entry.ofJson Entry.toJson ∧
    Stable Record.ofJson Record.toJson ∧
    (∀ s, Text.upper (Text.upper s) = Text.upper s) ∧
    Restores Instruction.ofJson Instruction.toJson ∧ Restores Entry.ofJson Entry.toJson ∧
    Restores Record.ofJson Record.toJson ∧
    (∀ v r, Request.ofJson v = .good r → ∃ vs, Session.field? "accounts" v = some (.array vs) ∧
      List.Forall₂ (fun v a => Account.ofJson v = .good a) vs r.accounts) ∧
    (∀ v r vs, Record.ofJson v = .good r → Session.field? "accounts" v = some (.array vs) →
      List.Forall₂ (fun v e => Entry.ofJson v = .good e) vs r.entries) ∧
    ∀ payload now handled, Request.handleJson payload now = .good handled →
      Record.ofJson handled.record.toJson = .good handled.record := by
  refine ⟨Account.stable, Request.stable, Instruction.ofJson_toJson.stable,
    Entry.ofJson_toJson.stable, Record.ofJson_toJson.stable, Text.upper_upper,
    Instruction.ofJson_toJson, Entry.ofJson_toJson, Record.ofJson_toJson, fun v r h => ?_,
    fun v r vs h hvs => ?_, fun _ _ handled _ => Record.ofJson_toJson handled.record⟩
  · obtain ⟨fields, vs, rfl, hvs, haccounts, -⟩ := Request.ofJson_eq_good_iff.mp h
    exact ⟨vs, hvs, haccounts⟩
  · rcases Record.entries_of_ofJson h with ⟨habsent, -⟩ | ⟨ws, hws, hentries⟩
    · rw [hvs] at habsent; cases habsent
    · rw [hvs] at hws; cases hws; exact hentries

end Shape

end Remittance
