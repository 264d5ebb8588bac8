import Mathlib.Tactic.Common
import Remittance.Text.Utf8

/-! # The bytes of a text

A character is read from its bytes, whatever stands behind them (`read_encodeChar`), so the bytes of
a text are read as its characters, whether surrogates may pass or not (`points_toUTF8`). -/

namespace Remittance.Text.Utf8

variable {surrogates : Bool} {place : Nat} {done : List Nat} {begun : Option Begun} {next : Begun}
  {b : UInt8} {bs : List UInt8} {v : Nat}

theorem toNat_ofNat (h : v < 256) : (UInt8.ofNat v).toNat = v :=
  UInt8.toNat_ofNat_of_lt' h

/-! ### One byte -/

theorem read_of_owed {n : Nat} (h : step surrogates begun b = .ok next)
    (howed : next.owed = n + 1) :
    read surrogates place done begun (b :: bs) = read surrogates place done (some next) bs := by
  rw [read, h]
  exact if_neg (by omega)

theorem read_of_complete (h : step surrogates begun b = .ok next) (howed : next.owed = 0) :
    read surrogates place done begun (b :: bs) =
      read surrogates (place + next.bytes.length) (next.value :: done) none bs := by
  rw [read, h]
  exact if_pos howed

theorem step_none (h : begin? surrogates b = some next) :
    step surrogates none b = .ok next := by
  rw [step, h]

theorem step_some {bytes : List UInt8} {value owed low high : Nat} (hlow : low ≤ v % 64 + 128)
    (hhigh : v % 64 + 128 ≤ high) :
    step surrogates (some ⟨bytes, value, owed, low, high⟩) (UInt8.ofNat (v % 64 + 128)) =
      .ok ⟨UInt8.ofNat (v % 64 + 128) :: bytes, value * 64 + v % 64, owed - 1, 128, 191⟩ := by
  dsimp only [step]
  rw [toNat_ofNat (by omega), if_pos ⟨hlow, hhigh⟩, Nat.add_sub_cancel]

/-! ### The first byte of a character -/

theorem begin?_one (h : v < 128) :
    begin? surrogates (UInt8.ofNat v) = some ⟨[UInt8.ofNat v], v, 0, 128, 191⟩ := by
  dsimp only [begin?]
  rw [toNat_ofNat (by omega), if_pos h]

theorem begin?_two (h : 2 ≤ v) (h' : v < 32) : begin? surrogates (UInt8.ofNat (v + 192)) =
    some ⟨[UInt8.ofNat (v + 192)], v, 1, 128, 191⟩ := by
  dsimp only [begin?]
  rw [toNat_ofNat (by omega), if_neg (by omega), if_neg (by omega), if_pos (by omega),
    Nat.add_sub_cancel]

theorem begin?_three (h : v < 16) : begin? surrogates (UInt8.ofNat (v + 224)) =
    some ⟨[UInt8.ofNat (v + 224)], v, 2, if v = 0 then 160 else 128,
      if v = 13 ∧ surrogates = false then 159 else 191⟩ := by
  have hlow : v + 224 = 224 ↔ v = 0 := by omega
  have hhigh : v + 224 = 237 ↔ v = 13 := by omega
  dsimp only [begin?]
  rw [toNat_ofNat (by omega), if_neg (by omega), if_neg (by omega), if_neg (by omega),
    if_pos (by omega), Nat.add_sub_cancel]
  simp only [hlow, hhigh]

theorem begin?_four (h : v < 5) : begin? surrogates (UInt8.ofNat (v + 240)) =
    some ⟨[UInt8.ofNat (v + 240)], v, 3, if v = 0 then 144 else 128,
      if v = 4 then 143 else 191⟩ := by
  have hlow : v + 240 = 240 ↔ v = 0 := by omega
  have hhigh : v + 240 = 244 ↔ v = 4 := by omega
  dsimp only [begin?]
  rw [toNat_ofNat (by omega), if_neg (by omega), if_neg (by omega), if_neg (by omega),
    if_neg (by omega), if_pos (by omega), Nat.add_sub_cancel]
  simp only [hlow, hhigh]

/-! ### One character -/

theorem read_two (h : 128 ≤ v) (h' : v ≤ 2047) :
    read surrogates place done none
        (UInt8.ofNat (v / 64 % 32 + 192) :: UInt8.ofNat (v % 64 + 128) :: bs) =
      read surrogates (place + 2) (v :: done) none bs := by
  have hsum : v / 64 % 32 * 64 + v % 64 = v := by omega
  rw [read_of_owed (step_none (begin?_two (by omega) (by omega))) rfl,
    read_of_complete (step_some (by omega) (by omega)) rfl]
  dsimp only
  rw [hsum]
  rfl

/-- The second byte lies in the range that the first one leaves, since no smaller number has three
bytes and none of a character is that of a surrogate. -/
theorem read_three (h : 2048 ≤ v) (h' : v ≤ 65535) (hvalid : v < 0xD800 ∨ 0xDFFF < v) :
    read surrogates place done none (UInt8.ofNat (v / 4096 % 16 + 224) ::
        UInt8.ofNat (v / 64 % 64 + 128) :: UInt8.ofNat (v % 64 + 128) :: bs) =
      read surrogates (place + 3) (v :: done) none bs := by
  have hsum : (v / 4096 % 16 * 64 + v / 64 % 64) * 64 + v % 64 = v := by omega
  have hlow : (if v / 4096 % 16 = 0 then 160 else 128) ≤ v / 64 % 64 + 128 := by
    split <;> omega
  have hhigh : v / 64 % 64 + 128 ≤
      if v / 4096 % 16 = 13 ∧ surrogates = false then 159 else 191 := by
    split <;> omega
  rw [read_of_owed (step_none (begin?_three (by omega))) rfl,
    read_of_owed (step_some hlow hhigh) rfl,
    read_of_complete (step_some (by omega) (by omega)) rfl]
  dsimp only
  rw [hsum]
  rfl

theorem read_four (h : 65536 ≤ v) (h' : v < 0x110000) :
    read surrogates place done none (UInt8.ofNat (v / 262144 % 8 + 240) ::
        UInt8.ofNat (v / 4096 % 64 + 128) :: UInt8.ofNat (v / 64 % 64 + 128) ::
        UInt8.ofNat (v % 64 + 128) :: bs) =
      read surrogates (place + 4) (v :: done) none bs := by
  have hsum : ((v / 262144 % 8 * 64 + v / 4096 % 64) * 64 + v / 64 % 64) * 64 + v % 64 = v := by
    omega
  have hlow : (if v / 262144 % 8 = 0 then 144 else 128) ≤ v / 4096 % 64 + 128 := by
    split <;> omega
  have hhigh : v / 4096 % 64 + 128 ≤ if v / 262144 % 8 = 4 then 143 else 191 := by
    split <;> omega
  rw [read_of_owed (step_none (begin?_four (by omega))) rfl,
    read_of_owed (step_some hlow hhigh) rfl,
    read_of_owed (step_some (by omega) (by omega)) rfl,
    read_of_complete (step_some (by omega) (by omega)) rfl]
  dsimp only
  rw [hsum]
  rfl

/-- **A character is read from its bytes.** -/
theorem read_encodeChar (c : Char) (bs : List UInt8) :
    read surrogates place done none (String.utf8EncodeChar c ++ bs) =
      read surrogates (place + (String.utf8EncodeChar c).length) (c.toNat :: done) none bs := by
  have hvalid : c.toNat.isValidChar := c.valid
  have hval : c.val.toNat = c.toNat := rfl
  unfold Nat.isValidChar at hvalid
  unfold String.utf8EncodeChar
  rw [hval]
  dsimp only
  split_ifs
  · exact read_of_complete (step_none (begin?_one (by omega))) rfl
  · exact read_two (by omega) (by omega)
  · exact read_three (by omega) (by omega) (by omega)
  · exact read_four (by omega) (by omega)

/-! ### A text -/

theorem read_flatMap_encodeChar (cs : List Char) :
    read surrogates place done none (cs.flatMap String.utf8EncodeChar) =
      .ok (done.reverse ++ cs.map Char.toNat) := by
  induction cs generalizing place done with
  | nil => simp [read]
  | cons c cs ih => simp [read_encodeChar, ih]

/-- **The bytes of a text are read as its characters.** -/
theorem points_toUTF8 (surrogates : Bool) (text : String) :
    points surrogates text.toUTF8.data.toList = .ok (text.toList.map Char.toNat) := by
  have hbytes : text.toUTF8.data.toList = text.toList.flatMap String.utf8EncodeChar := by
    conv_lhs => rw [← String.ofList_toList (s := text)]
    exact List.toList_data_toByteArray
  rw [hbytes, points, read_flatMap_encodeChar]
  rfl

/-- A surrogate is read if it may pass, and no character has a longer encoding. -/
example : (points true [0xED, 0xA0, 0x80]).toOption = some [0xD800] ∧
    (points false [0xED, 0xA0, 0x80]).toOption = none ∧
    (points true [0xC0, 0x80]).toOption = none ∧
    (points true [0xE0, 0x9F, 0xBF]).toOption = none := by decide

end Remittance.Text.Utf8
