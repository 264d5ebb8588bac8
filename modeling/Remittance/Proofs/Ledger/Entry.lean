import Mathlib.Algebra.BigOperators.Group.List.Basic
import Mathlib.Algebra.Ring.Int.Defs
import Mathlib.Data.List.Basic
import Mathlib.Tactic.Common
import Mathlib.Tactic.Ring
import Remittance.Ledger.Entry

/-! # What entries add up to

`Entry.delta` is what an executed transfer adds to the balance of an account, whatever its id. Over
any list of accounts it adds up to the amount, as often as an account is credited
(`Entry.credited`), less the amount, as often as the debit id occurs (`sum_delta_eq`). The balances
of the entries exceed the balances before by just that (`sum_balance_sub`), so they keep their sum
if and only if the two occur equally often (`sum_balance_eq_iff_credited`). The accounts credited
are those with the credit id, and none if the two ids are the same: such an account counts as the
debit account.

The entries are those of the accounts with one of the two ids (`map_id_project`). They are two, one
for each id, if and only if each id occurs once (`map_id_project_eq_pair_iff`). `project_shows`
tells what the entries of any instruction and any accounts show. -/

namespace Remittance

/-- How often an id occurs among the accounts. -/
def Account.countId (accounts : List Account) (id : String) : Nat :=
  (accounts.map Account.id).count id

namespace Account

variable {accounts : List Account} {id : String} {a : Account}

theorem countId_cons (a : Account) (accounts : List Account) (id : String) :
    countId (a :: accounts) id = countId accounts id + if a.id = id then 1 else 0 := by
  rw [countId, List.map_cons, List.count_cons]
  simp only [beq_iff_eq, countId]

theorem countId_pos_iff : 0 < countId accounts id ↔ ∃ a ∈ accounts, a.id = id := by
  rw [countId, List.count_pos_iff, List.mem_map]

/-- **An id that occurs once leads to its account.** -/
theorem find?_eq_some_of_mem (hcount : countId accounts id ≤ 1) (hmem : a ∈ accounts)
    (hid : a.id = id) : find? accounts id = some a := by
  induction accounts with
  | nil => cases hmem
  | cons b accounts ih =>
    rw [countId_cons] at hcount
    rw [find?, List.find?_cons]
    by_cases hb : b.id = id
    · rw [if_pos hb] at hcount
      rw [beq_iff_eq.mpr hb]
      rcases List.mem_cons.mp hmem with rfl | hmem
      · rfl
      · have := countId_pos_iff.mpr ⟨a, hmem, hid⟩
        omega
    · rw [if_neg hb] at hcount
      rw [beq_eq_false_iff_ne.mpr hb]
      rcases List.mem_cons.mp hmem with rfl | hmem
      · exact absurd hid hb
      · exact ih hcount hmem

theorem countId_filter_currency {currency : String} (other : String)
    (h : ∀ a ∈ accounts, a.id = id → a.currency = currency) :
    countId (accounts.filter (·.currency = other)) id =
      if currency = other then countId accounts id else 0 := by
  induction accounts with
  | nil => simp [countId]
  | cons a accounts ih =>
    have ih := ih fun b hb => h b (List.mem_cons_of_mem _ hb)
    rw [List.filter_cons, countId_cons]
    by_cases hid : a.id = id
    · rw [h a List.mem_cons_self hid]
      by_cases hc : currency = other
      · rw [if_pos hc] at ih
        rw [if_pos (decide_eq_true hc), countId_cons, ih, if_pos hc]
      · rw [if_neg hc] at ih
        rw [if_neg (by simpa using hc), ih, if_neg hc]
    · rw [if_neg hid, Nat.add_zero, ← ih]
      split
      · rw [countId_cons, if_neg hid, Nat.add_zero]
      · rfl

theorem countId_le_one (hnodup : (accounts.map Account.id).Nodup) (id : String) :
    countId accounts id ≤ 1 :=
  List.nodup_iff_count.mp hnodup id

end Account

theorem Instruction.names_iff {i : Instruction} {id : String} :
    i.names id = true ↔ id = i.debit ∨ id = i.credit := by
  rw [names, Bool.or_eq_true, beq_iff_eq, beq_iff_eq]

theorem Instruction.names_eq_decide (i : Instruction) (id : String) :
    i.names id = decide (id = i.debit ∨ id = i.credit) := by
  rw [Bool.eq_iff_iff, names_iff, decide_eq_true_eq]

namespace Entry

variable {i : Instruction} {accounts : List Account}

/-! ### Sums -/

/-- What an executed transfer adds to the account `id`, if anything. -/
def delta (i : Instruction) (id : String) : Int :=
  if i.names id then change i id else 0

theorem delta_debit (i : Instruction) : delta i i.debit = -i.amount.value := by
  rw [delta, if_pos (Instruction.names_iff.mpr (.inl rfl)), change, if_pos rfl]

theorem delta_credit (hne : i.debit ≠ i.credit) : delta i i.credit = i.amount.value := by
  rw [delta, if_pos (Instruction.names_iff.mpr (.inr rfl)), change, if_neg (Ne.symm hne)]

theorem delta_of_not_names {id : String} (h : i.names id = false) : delta i id = 0 := by
  rw [delta, h, if_neg Bool.false_ne_true]

/-- How many of the accounts an executed transfer adds the amount to: those with the credit id, and
none if it is the debit id as well. -/
def credited (i : Instruction) (accounts : List Account) : Nat :=
  if i.debit = i.credit then 0 else Account.countId accounts i.credit

theorem credited_of_ne (hne : i.debit ≠ i.credit) (accounts : List Account) :
    credited i accounts = Account.countId accounts i.credit := if_neg hne

theorem credited_cons (i : Instruction) (a : Account) (accounts : List Account) :
    credited i (a :: accounts) =
      credited i accounts + if a.id = i.credit ∧ a.id ≠ i.debit then 1 else 0 := by
  unfold credited
  rw [Account.countId_cons]
  by_cases hsame : i.debit = i.credit
  · rw [if_pos hsame, if_pos hsame, if_neg fun h => h.2 (h.1.trans hsame.symm)]
  · rw [if_neg hsame, if_neg hsame]
    by_cases hid : a.id = i.credit
    · rw [if_pos hid, if_pos ⟨hid, fun hd => hsame (hd.symm.trans hid)⟩]
    · rw [if_neg hid, if_neg fun h => hid h.1]

theorem delta_eq (i : Instruction) (id : String) :
    delta i id = i.amount.value * (if id = i.credit ∧ id ≠ i.debit then 1 else 0) -
      i.amount.value * (if id = i.debit then 1 else 0) := by
  by_cases hd : id = i.debit
  · rw [hd, delta_debit, if_neg fun h => h.2 rfl, if_pos rfl]; ring
  · by_cases hc : id = i.credit
    · have hne : i.debit ≠ i.credit := fun hsame => hd (hc.trans hsame.symm)
      rw [if_pos ⟨hc, hd⟩, if_neg hd, hc, delta_credit hne]; ring
    · have hnames : i.names id = false := by
        rw [← Bool.not_eq_true, Instruction.names_iff, not_or]; exact ⟨hd, hc⟩
      rw [delta_of_not_names hnames, if_neg fun h => hc h.1, if_neg hd]; ring

/-- **What a transfer adds to a list of accounts.** -/
theorem sum_delta_eq (i : Instruction) (accounts : List Account) :
    (accounts.map fun a => delta i a.id).sum = i.amount.value * (credited i accounts : Int) -
      i.amount.value * (Account.countId accounts i.debit : Int) := by
  induction accounts with
  | nil => simp [credited, Account.countId]
  | cons a accounts ih =>
    rw [List.map_cons, List.sum_cons, ih, delta_eq, Account.countId_cons, credited_cons]
    push_cast
    ring

theorem sum_delta (hne : i.debit ≠ i.credit) (accounts : List Account) :
    (accounts.map fun a => delta i a.id).sum =
      i.amount.value * (Account.countId accounts i.credit : Int) -
        i.amount.value * (Account.countId accounts i.debit : Int) := by
  rw [sum_delta_eq, credited_of_ne hne]

theorem sum_balance_project (i : Instruction) (accounts : List Account) :
    ((project i true accounts).map balance).sum =
      ((project i true accounts).map balanceBefore).sum +
        (accounts.map fun a => delta i a.id).sum := by
  induction accounts with
  | nil => rfl
  | cons a accounts ih =>
    rw [project_cons, List.map_cons, List.sum_cons]
    cases h : i.names a.id
    · rw [if_neg Bool.false_ne_true, ih, delta_of_not_names h, Int.zero_add]
    · rw [if_pos rfl, List.map_cons, List.map_cons, List.sum_cons, List.sum_cons, ih, delta,
        if_pos h]
      simp only [ofAccount, if_pos]
      ring

/-- The entries gain the amount once for each account it is added to and lose it once for each
account with the debit id. -/
theorem sum_balance_sub (i : Instruction) (accounts : List Account) :
    ((project i true accounts).map balance).sum -
        ((project i true accounts).map balanceBefore).sum =
      i.amount.value * ((credited i accounts : Int) - Account.countId accounts i.debit) := by
  rw [sum_balance_project, sum_delta_eq]
  ring

/-- **The entries keep their sum** if and only if the amount is added as often as it is taken. -/
theorem sum_balance_eq_iff_credited : ((project i true accounts).map balance).sum =
      ((project i true accounts).map balanceBefore).sum ↔
    Account.countId accounts i.debit = credited i accounts := by
  have hpos : (i.amount.value : Int) ≠ 0 := by have := i.amount.pos; omega
  rw [← Int.sub_eq_zero, sum_balance_sub, Int.mul_eq_zero, or_iff_right hpos]
  omega

theorem sum_balance_project_eq_iff (hne : i.debit ≠ i.credit) :
    ((project i true accounts).map balance).sum =
        ((project i true accounts).map balanceBefore).sum ↔
      Account.countId accounts i.debit = Account.countId accounts i.credit := by
  rw [sum_balance_eq_iff_credited, credited_of_ne hne]

/-! ### Ids -/

/-- **The entries follow the order of the snapshot.** -/
theorem map_id_project (i : Instruction) (apply : Bool) (accounts : List Account) :
    (project i apply accounts).map Entry.id = (accounts.map Account.id).filter i.names := by
  rw [project, List.map_map, List.filter_map]
  rfl

theorem length_eq_count_add {α : Type} [DecidableEq α] {x y : α} (hne : x ≠ y) :
    ∀ {l : List α}, (∀ z ∈ l, z = x ∨ z = y) → l.length = l.count x + l.count y
  | [], _ => rfl
  | z :: l, hl => by
    have ih := length_eq_count_add hne fun w hw => hl w (List.mem_cons_of_mem z hw)
    rw [List.length_cons, List.count_cons, List.count_cons, ih]
    rcases hl z List.mem_cons_self with rfl | rfl
    · rw [if_pos (beq_self_eq_true z), if_neg (by rw [beq_iff_eq]; exact hne)]; omega
    · rw [if_pos (beq_self_eq_true z), if_neg (by rw [beq_iff_eq]; exact Ne.symm hne)]; omega

theorem eq_pair_iff {α : Type} [DecidableEq α] {x y : α} (hne : x ≠ y) {l : List α}
    (hl : ∀ z ∈ l, z = x ∨ z = y) :
    (l = [x, y] ∨ l = [y, x]) ↔ l.count x = 1 ∧ l.count y = 1 := by
  constructor
  · rintro (rfl | rfl) <;> simp [hne, Ne.symm hne]
  · rintro ⟨hx, hy⟩
    have hlen := length_eq_count_add hne hl
    rw [hx, hy] at hlen
    obtain ⟨u, v, rfl⟩ := List.length_eq_two.mp hlen
    rcases hl u (by simp) with rfl | rfl
    · rcases hl v (by simp) with rfl | rfl
      · simp at hx
      · exact .inl rfl
    · rcases hl v (by simp) with rfl | rfl
      · exact .inr rfl
      · simp at hy

/-- **There are two entries, one for each side,** if and only if both ids occur once. -/
theorem map_id_project_eq_pair_iff (hne : i.debit ≠ i.credit) (apply : Bool) :
    ((project i apply accounts).map Entry.id = [i.debit, i.credit] ∨
        (project i apply accounts).map Entry.id = [i.credit, i.debit]) ↔
      Account.countId accounts i.debit = 1 ∧ Account.countId accounts i.credit = 1 := by
  rw [map_id_project, eq_pair_iff hne fun id hid =>
    Instruction.names_iff.mp (List.mem_filter.mp hid).2,
    List.count_filter (Instruction.names_iff.mpr (.inl rfl)),
    List.count_filter (Instruction.names_iff.mpr (.inr rfl))]
  rfl

/-! ### Balances and currencies -/

theorem mem_project_iff {apply : Bool} {e : Entry} : e ∈ project i apply accounts ↔
    ∃ a ∈ accounts, (a.id = i.debit ∨ a.id = i.credit) ∧ e = ofAccount i apply a := by
  rw [project, List.mem_map]
  constructor
  · rintro ⟨a, ha, rfl⟩
    obtain ⟨hmem, hnames⟩ := List.mem_filter.mp ha
    exact ⟨a, hmem, Instruction.names_iff.mp hnames, rfl⟩
  · rintro ⟨a, hmem, hnames, rfl⟩
    exact ⟨a, List.mem_filter.mpr ⟨hmem, Instruction.names_iff.mpr hnames⟩, rfl⟩

theorem ofAccount_nonneg {apply : Bool} {a : Account}
    (h : a.id = i.debit → i.amount.value ≤ a.balance) : 0 ≤ (ofAccount i apply a).balance := by
  cases apply
  · exact Int.natCast_nonneg a.balance
  · show 0 ≤ (a.balance : Int) + change i a.id
    unfold change
    split <;> rename_i hid
    · have := h hid; omega
    · omega

/-- **No balance falls below zero** if and only if every account with the debit id holds the
amount. -/
theorem balance_project_nonneg_iff :
    (∀ e ∈ project i true accounts, 0 ≤ e.balance) ↔
      ∀ a ∈ accounts, a.id = i.debit → i.amount.value ≤ a.balance := by
  constructor
  · intro h a ha hid
    have hle : 0 ≤ (a.balance : Int) + change i a.id :=
      h _ (mem_project_iff.mpr ⟨a, ha, .inl hid, rfl⟩)
    rw [change, if_pos hid] at hle
    omega
  · intro h e he
    obtain ⟨a, ha, -, rfl⟩ := mem_project_iff.mp he
    exact ofAccount_nonneg (h a ha)

theorem currency_project_iff {apply : Bool} :
    (∀ e ∈ project i apply accounts, e.currency = i.currency) ↔
      ∀ a ∈ accounts, a.id = i.debit ∨ a.id = i.credit → a.currency = i.currency := by
  constructor
  · intro h a ha hid
    exact h (ofAccount i apply a) (mem_project_iff.mpr ⟨a, ha, hid, rfl⟩)
  · intro h e he
    obtain ⟨a, ha, hid, rfl⟩ := mem_project_iff.mp he
    exact h a ha hid

/-! ### What the entries show -/

/-- The entry shows the account as it was, and what a transfer makes of its balance: it stays unless
the transfer is executed, and then the debit role wins where the two ids are the same. -/
structure Shows (i : Instruction) (apply : Bool) (a : Account) (e : Entry) : Prop where
  id : e.id = a.id
  currency : e.currency = a.currency
  before : e.balanceBefore = a.balance
  kept : apply = false → e.balance = e.balanceBefore
  charged : apply = true → a.id = i.debit → e.balance = e.balanceBefore - i.amount.value
  paid : apply = true → a.id ≠ i.debit → e.balance = e.balanceBefore + i.amount.value

theorem shows_ofAccount (i : Instruction) (apply : Bool) (a : Account) :
    Shows i apply a (ofAccount i apply a) where
  id := rfl
  currency := rfl
  before := rfl
  kept := by rintro rfl; rfl
  charged := by
    rintro rfl hid
    simp only [ofAccount, change, if_pos hid, if_true]
    omega
  paid := by
    rintro rfl hid
    simp only [ofAccount, change, if_neg hid, if_true]

/-- **What the entries show.** They show the accounts with one of the two ids, one by one and in the
order of the snapshot, and no others. Executing the transfer adds the amount to all of them together
as often as an account is credited, less the amount as often as the debit id occurs, so it keeps
their sum if and only if these occur equally often. -/
theorem project_shows (i : Instruction) (accounts : List Account) :
    (∀ apply, List.Forall₂ (Shows i apply)
      (accounts.filter fun a => a.id = i.debit ∨ a.id = i.credit) (project i apply accounts)) ∧
    (∀ e ∈ project i false accounts, e.balance = e.balanceBefore) ∧
    ((project i true accounts).map balance).sum -
        ((project i true accounts).map balanceBefore).sum =
      i.amount.value *
        (((if i.debit = i.credit then 0 else Account.countId accounts i.credit : Nat) : Int) -
          Account.countId accounts i.debit) ∧
    (((project i true accounts).map balance).sum =
        ((project i true accounts).map balanceBefore).sum ↔
      Account.countId accounts i.debit =
        if i.debit = i.credit then 0 else Account.countId accounts i.credit) := by
  refine ⟨fun apply => ?_, fun e he => ?_, sum_balance_sub i accounts, sum_balance_eq_iff_credited⟩
  · simp only [← Instruction.names_eq_decide]
    rw [project, List.forall₂_map_right_iff, List.forall₂_same]
    exact fun a _ => shows_ofAccount i apply a
  · obtain ⟨a, -, -, rfl⟩ := mem_project_iff.mp he
    exact (shows_ofAccount i false a).kept rfl

/-- Money is lost where the two ids are the same. -/
example : project ⟨.debit, ⟨5, by decide⟩, "USD", "a", "a", none⟩ true
    [⟨"a", 2, "USD"⟩, ⟨"b", 9, "USD"⟩] = [⟨"a", -3, 2, "USD"⟩] := rfl

end Entry

end Remittance
