import Mathlib.Data.List.Forall2
import Remittance.Shape.Request

/-! # Accounts as JSON values

A value has the shape of an account if and only if it is an object with a text as id, an integer
that is not negative as balance and a text as currency (`ofJson_eq_good_iff`); a list has the shape
of accounts if each of its values has it (`elements_eq_good_iff`). -/

namespace Remittance

namespace Shape

variable {α : Type} {name : String} {check : Json → Checked α} {fields : Fields} {a : α} {v : Json}

theorem required_eq_good_iff :
    required name check fields = .good a ↔
      ∃ v, Json.field? name fields = some v ∧ check v = .good a := by
  unfold required
  cases Json.field? name fields <;> simp

theorem text_eq_good_iff {s : String} : text v = .good s ↔ v = .string s := by
  cases v <;> simp [text, Checked.fail]

theorem natural_eq_good_iff {n : Nat} : natural v = .good n ↔ integer v = .good (n : Int) := by
  rw [natural, Checked.andThen_eq_good_iff]
  constructor
  · rintro ⟨m, hm, h⟩
    by_cases hneg : m < 0
    · rw [if_pos hneg] at h; cases h
    · rw [if_neg hneg] at h
      cases h
      rw [hm, Int.toNat_of_nonneg (by omega)]
  · intro h
    exact ⟨n, h, by rw [if_neg (by omega), Int.toNat_natCast]⟩

theorem object_eq_good_iff {kind : String} {check : Fields → Checked α} :
    object kind check v = .good a ↔ ∃ fields, v = .object fields ∧ check fields = .good a := by
  cases v <;> simp [object, Checked.fail]

/-- **A list has the shape of its elements.** -/
theorem elements_eq_good_iff {vs : List Json} {xs : List α} (n : Nat) :
    elements check n vs = .good xs ↔ List.Forall₂ (fun v x => check v = .good x) vs xs := by
  induction vs generalizing n xs with
  | nil =>
    rw [List.forall₂_nil_left_iff, elements, Checked.good.injEq]
    exact eq_comm
  | cons v vs ih =>
    rw [elements, Checked.seq_eq_good_iff, List.forall₂_cons_left_iff]
    constructor
    · rintro ⟨g, ys, hg, hys, rfl⟩
      obtain ⟨x, hx, rfl⟩ := Checked.map_eq_good_iff.mp hg
      exact ⟨x, ys, Checked.under_eq_good_iff.mp hx, (ih (n + 1)).mp hys, rfl⟩
    · rintro ⟨x, ys, hx, hys, rfl⟩
      exact ⟨_, ys, Checked.map_eq_good_iff.mpr ⟨x, Checked.under_eq_good_iff.mpr hx, rfl⟩,
        (ih (n + 1)).mpr hys, rfl⟩

theorem list_eq_good_iff {xs : List α} : list check v = .good xs ↔
    ∃ vs, v = .array vs ∧ List.Forall₂ (fun v x => check v = .good x) vs xs := by
  cases v <;> simp [list, Checked.fail, elements_eq_good_iff]

end Shape

open Shape

namespace Account

/-- **A value has the shape of an account.** -/
theorem ofJson_eq_good_iff {v : Json} {a : Account} : ofJson v = .good a ↔
    ∃ fields b currency, v = .object fields ∧ Json.field? "id" fields = some (.string a.id) ∧
      Json.field? "balance" fields = some b ∧ integer b = .good (a.balance : Int) ∧
      Json.field? "currency" fields = some (.string currency) ∧
      a.currency = Text.upper currency := by
  rw [ofJson, object_eq_good_iff]
  simp only [Checked.seq_eq_good_iff, Checked.map_eq_good_iff, required_eq_good_iff,
    text_eq_good_iff, natural_eq_good_iff]
  constructor
  · rintro ⟨fields, rfl, _, _, ⟨_, _, ⟨id, ⟨_, hid, rfl⟩, rfl⟩, ⟨b, hb, hn⟩, rfl⟩,
      ⟨_, hc, rfl⟩, rfl⟩
    exact ⟨fields, b, _, rfl, hid, hb, hn, hc, rfl⟩
  · rintro ⟨fields, b, currency, rfl, hid, hb, hn, hc, hcur⟩
    refine ⟨fields, rfl, _, currency, ⟨_, _, ⟨_, ⟨_, hid, rfl⟩, rfl⟩, ⟨b, hb, hn⟩, rfl⟩,
      ⟨_, hc, rfl⟩, ?_⟩
    rw [ofParts, ← hcur]

end Account

theorem Request.ofJson_eq_good_iff {v : Json} {r : Request} : Request.ofJson v = .good r ↔
    ∃ fields vs, v = .object fields ∧ Json.field? "accounts" fields = some (.array vs) ∧
      List.Forall₂ (fun v a => Account.ofJson v = .good a) vs r.accounts ∧
      Json.field? "instruction" fields = some (.string r.sentence) := by
  rw [Request.ofJson, object_eq_good_iff]
  simp only [Checked.seq_eq_good_iff, Checked.map_eq_good_iff, required_eq_good_iff,
    text_eq_good_iff, list_eq_good_iff]
  constructor
  · rintro ⟨fields, rfl, _, _, ⟨as, ⟨_, hvs, vs, rfl, has⟩, rfl⟩, ⟨_, hs, rfl⟩, rfl⟩
    exact ⟨fields, vs, rfl, hvs, has, hs⟩
  · rintro ⟨fields, vs, rfl, hvs, has, hs⟩
    exact ⟨fields, rfl, _, _, ⟨_, ⟨_, hvs, vs, rfl, has⟩, rfl⟩, ⟨_, hs, rfl⟩, rfl⟩

end Remittance
