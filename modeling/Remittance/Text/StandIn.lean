import Remittance.Text.Quoted
import Std.Data.HashSet

/-! # Stand-ins for unpaired surrogates

A surrogate without its other half is no character, yet a JSON text can name one. While such a text
is worked on, a stand-in takes the surrogate's place: a character that has no case, is no blank and
no digit, and is named nowhere else (`not_mem_of_mem_apartFrom`). So the surrogate can be told again
(`surrogate?_char`), and a text that was to be written is known to have no encoding if it holds a
run of stand-ins. -/

namespace Remittance.Text

/-- Whether a code point is a surrogate. -/
def isSurrogate (n : Nat) : Bool :=
  decide (0xD800 ≤ n) && decide (n < 0xE000)

/-- The character with the code point `n`. -/
def character? (n : Nat) : Option Char :=
  if h : n.isValidChar then some (Char.ofNatAux n h) else none

theorem toNat_of_character? {n : Nat} {c : Char} (h : character? n = some c) : c.toNat = n := by
  unfold character? at h
  by_cases hn : n.isValidChar
  · rw [dif_pos hn] at h; cases h; rfl
  · rw [dif_neg hn] at h; cases h

/-- The character that is usually put for what is no character. -/
def replacement : Char := Char.ofNat 0xFFFD

/-- Surrogates with their stand-ins, no two of which are the same. -/
structure StandIns where
  pairs : List (Nat × Char)
  distinct : pairs.Pairwise fun p q => p.2 ≠ q.2

/-- A run of surrogates in a text: the code of the first, its place, and their number. -/
structure SurrogateRun where
  code : Nat
  place : Nat
  length : Nat
  deriving DecidableEq, Repr

namespace StandIns

/-- No stand-ins. -/
def none : StandIns :=
  ⟨[], .nil⟩

/-- The stand-in of the surrogate with the code `u`. -/
def char (s : StandIns) (u : Nat) : Char :=
  ((s.pairs.find? (·.1 == u)).map (·.2)).getD replacement

/-- The code of the surrogate that `c` stands in for. -/
def surrogate? (s : StandIns) (c : Char) : Option Nat :=
  (s.pairs.find? (·.2 == c)).map (·.1)

theorem find?_of_distinct {pairs : List (Nat × Char)}
    (distinct : pairs.Pairwise fun p q => p.2 ≠ q.2) {p : Nat × Char} (h : p ∈ pairs) :
    pairs.find? (·.2 == p.2) = some p := by
  induction distinct with
  | nil => simp at h
  | cons apart _ ih =>
    rcases List.mem_cons.mp h with rfl | h
    · simp
    · rw [List.find?_cons_of_neg (by simpa using apart _ h), ih h]

theorem surrogate?_char (s : StandIns) {u : Nat} (h : u ∈ s.pairs.map Prod.fst) :
    s.surrogate? (s.char u) = some u := by
  obtain ⟨p, hp, rfl⟩ := List.mem_map.mp h
  obtain ⟨q, hq⟩ : ∃ q, s.pairs.find? (·.1 == p.1) = some q :=
    Option.isSome_iff_exists.mp (List.find?_isSome.mpr ⟨p, hp, by simp⟩)
  have code : q.1 = p.1 := by simpa using List.find?_some hq
  rw [char, hq, Option.map_some, Option.getD_some, surrogate?,
    find?_of_distinct s.distinct (List.mem_of_find?_eq_some hq), Option.map_some, code]

/-- Whether `c` is a stand-in. -/
def holds (s : StandIns) (c : Char) : Bool :=
  (s.surrogate? c).isSome

/-- The text with the given code points. -/
def text (s : StandIns) (points : List Nat) : String :=
  String.ofList (points.map fun n => (character? n).getD (s.char n))

/-! ### Choosing stand-ins -/

/-- The first code point from which on no character has a case or is a blank or a digit. -/
def poolStart : Nat := 0x40000

/-- The characters of the pool that are not among `cs`, and at least `n` of them unless the pool is
used up. -/
def free (n : Nat) (cs : List Char) : List Char :=
  let taken := Std.HashSet.ofList ((cs.map Char.toNat).filter fun k => decide (poolStart ≤ k))
  ((List.range' poolStart (n + taken.size)).filter (!taken.contains ·)).filterMap character?

theorem nodup_free (n : Nat) (cs : List Char) : (free n cs).Nodup := by
  refine List.Pairwise.filterMap _ ?_ (List.Pairwise.filter _ List.nodup_range')
  intro a b ne c hc d hd eq
  exact ne (by rw [← toNat_of_character? hc, ← toNat_of_character? hd, eq])

theorem not_mem_of_mem_free {n : Nat} {cs : List Char} {c : Char} (h : c ∈ free n cs) :
    c ∉ cs := by
  obtain ⟨k, hk, hc⟩ := List.mem_filterMap.mp h
  obtain ⟨pool, fresh⟩ := List.mem_filter.mp hk
  intro mem
  have taken : ∃ d ∈ cs, d.toNat = k := ⟨c, mem, toNat_of_character? hc⟩
  simp [(List.mem_range'_1.mp pool).1, taken] at fresh

theorem pairwise_zip {codes : List Nat} {cs : List Char} (h : cs.Nodup) :
    (codes.zip cs).Pairwise fun p q => p.2 ≠ q.2 := by
  induction h generalizing codes with
  | nil => simp
  | cons apart _ ih =>
    cases codes with
    | nil => simp
    | cons u codes =>
      exact .cons (fun p hp => apart _ (List.of_mem_zip hp).2) ih

/-- Stand-ins for the surrogates `codes` that are not among `cs`. Only a text that names most of the
pool leaves too few. -/
def apartFrom (codes : List Nat) (cs : List Char) : StandIns :=
  if codes.isEmpty then none
  else
    let codes := codes.eraseDups
    ⟨codes.zip (free codes.length cs), pairwise_zip (nodup_free _ _)⟩

theorem not_mem_of_mem_apartFrom {codes : List Nat} {cs : List Char} {p : Nat × Char}
    (h : p ∈ (apartFrom codes cs).pairs) : p.2 ∉ cs := by
  unfold apartFrom at h
  split at h
  · simp [none] at h
  · exact not_mem_of_mem_free (List.of_mem_zip h).2

/-! ### Finding stand-ins -/

/-- The first run of stand-ins in a text. -/
def firstRun? (s : StandIns) (cs : List Char) : Option SurrogateRun :=
  let place := (cs.takeWhile fun c => !s.holds c).length
  let rest := cs.drop place
  (rest.head?.bind s.surrogate?).map fun u => ⟨u, place, (rest.takeWhile s.holds).length⟩

end StandIns

/-- The description of a run of surrogates in a text that has no encoding for it. -/
def SurrogateRun.message (r : SurrogateRun) : String :=
  let what := if r.length = 1 then "character '" ++ String.ofList (codeEscape r.code) ++ "'"
    else "characters"
  let last := if r.length = 1 then "" else s!"-{r.place + r.length - 1}"
  s!"'utf-8' codec can't encode {what} in position {r.place}{last}: surrogates not allowed"

end Remittance.Text
