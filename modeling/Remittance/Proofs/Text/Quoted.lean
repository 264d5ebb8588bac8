import Mathlib.Algebra.Order.Ring.Nat
import Mathlib.Tactic.SplitIfs
import Remittance.Text.Quoted

/-! # Quoted texts

A printable character is no control, no format and no separator of lines or paragraphs
(`isPlain_of_isPrintable`), so a text of printable characters is one line and shows all it holds.

* `printable_quoted`: a quoted text is printable, whatever the text.
* `quoted_injective`: texts with one quoted form are the same. What begins with the escaped form of
  a character tells the character and where the rest begins (`unescape?_escapeChar`), so the escaped
  forms can be taken off one after the other. -/

namespace Remittance.Text

/-! ### Classes that are not printable -/

/-- The control characters, the general category Cc. -/
def controls : CharClass := ⟨[(0x0, 0x1F), (0x7F, 0x9F)]⟩

/-- The separators of lines and paragraphs, the general categories Zl and Zp. -/
def lineSeparators : CharClass := ⟨[(0x2028, 0x2029)]⟩

/-- The format characters of Unicode 14, the general category Cf. -/
def formats : CharClass := ⟨[
  (0xAD, 0xAD), (0x600, 0x605), (0x61C, 0x61C), (0x6DD, 0x6DD), (0x70F, 0x70F), (0x890, 0x891),
  (0x8E2, 0x8E2), (0x180E, 0x180E), (0x200B, 0x200F), (0x202A, 0x202E), (0x2060, 0x2064),
  (0x2066, 0x206F), (0xFEFF, 0xFEFF), (0xFFF9, 0xFFFB), (0x110BD, 0x110BD), (0x110CD, 0x110CD),
  (0x13430, 0x13438), (0x1BCA0, 0x1BCA3), (0x1D173, 0x1D17A), (0xE0001, 0xE0001),
  (0xE0020, 0xE007F)]⟩

/-- A character that stands on a line and shows. -/
structure IsPlain (c : Char) : Prop where
  printable : isPrintable c = true
  control : controls.contains c = false
  format : formats.contains c = false
  lineSeparator : lineSeparators.contains c = false
  lineFeed : c ≠ '\n'
  carriageReturn : c ≠ '\r'

theorem isPrintable_iff {c : Char} : isPrintable c = true ↔ nonPrintable.contains c = false := by
  -- only the first range of the table has characters of ASCII before the last one
  have hsplit : ∀ r ∈ nonPrintable.ranges, r = (0, 0x1F) ∨ 0x7F ≤ r.1 := by decide +kernel
  have hfirst : (0, 0x1F) ∈ nonPrintable.ranges := by decide +kernel
  unfold isPrintable
  by_cases hascii : c.toNat < 0x7F
  · rw [if_pos hascii, decide_eq_true_eq, ← Bool.not_eq_true, CharClass.contains,
      CharClass.covers_iff]
    constructor
    · rintro hle ⟨r, hr, hlo, hhi⟩
      rcases hsplit r hr with rfl | hr
      · dsimp only at hhi; omega
      · omega
    · intro hnot
      refine Nat.le_of_not_lt fun hlt => hnot ⟨_, hfirst, ?_⟩
      dsimp only; omega
  · rw [if_neg hascii, Bool.not_eq_true']

/-- Every range of `k` lies within one of `l`. -/
def CharClass.Within (k l : CharClass) : Prop :=
  ∀ r ∈ k.ranges, ∃ s ∈ l.ranges, s.1 ≤ r.1 ∧ r.2 ≤ s.2

instance (k l : CharClass) : Decidable (k.Within l) := by
  unfold CharClass.Within; infer_instance

theorem CharClass.Within.contains {k l : CharClass} (h : k.Within l) {c : Char}
    (hc : k.contains c = true) : l.contains c = true := by
  obtain ⟨r, hr, hlo, hhi⟩ := covers_iff.mp hc
  obtain ⟨s, hs, hslo, hshi⟩ := h r hr
  exact covers_iff.mpr ⟨s, hs, by omega, by omega⟩

theorem not_contains_of_within {k : CharClass} (h : k.Within nonPrintable) {c : Char}
    (hc : isPrintable c = true) : k.contains c = false := by
  rw [← Bool.not_eq_true]
  intro hk
  have hnot := isPrintable_iff.mp hc
  rw [h.contains hk] at hnot
  cases hnot

/-- **A printable character is plain.** -/
theorem isPlain_of_isPrintable {c : Char} (h : isPrintable c = true) : IsPlain c where
  printable := h
  control := not_contains_of_within (by decide +kernel) h
  format := not_contains_of_within (by decide +kernel) h
  lineSeparator := not_contains_of_within (by decide +kernel) h
  lineFeed := by rintro rfl; revert h; decide
  carriageReturn := by rintro rfl; revert h; decide

/-! ### Printable texts -/

/-- All characters of a text are printable. -/
def Printable (cs : List Char) : Prop :=
  ∀ c ∈ cs, isPrintable c = true

instance (cs : List Char) : Decidable (Printable cs) :=
  List.decidableBAll (isPrintable · = true) cs

@[simp]
theorem printable_nil : Printable [] := nofun

@[simp]
theorem printable_cons {c : Char} {cs : List Char} :
    Printable (c :: cs) ↔ isPrintable c = true ∧ Printable cs :=
  List.forall_mem_cons

@[simp]
theorem printable_append {cs ds : List Char} :
    Printable (cs ++ ds) ↔ Printable cs ∧ Printable ds :=
  List.forall_mem_append

theorem isPrintable_of_isDigit {c : Char} (h : c.isDigit = true) : isPrintable c = true := by
  obtain ⟨hlo, hhi⟩ := Char.isDigit_iff_toNat.mp h
  have hzero : '0'.toNat = 0x30 := rfl
  have hnine : '9'.toNat = 0x39 := rfl
  unfold isPrintable
  rw [if_pos (by omega), decide_eq_true_eq]
  omega

theorem printable_repr (n : Nat) : Printable n.repr.toList := by
  intro c hc
  have hrepr : n.repr = String.ofList (Nat.toDigits 10 n) := Nat.toString_eq_ofList_toDigits
  rw [hrepr, String.toList_ofList] at hc
  exact isPrintable_of_isDigit (Nat.isDigit_of_mem_toDigits (by omega) (by omega) hc)

theorem printable_toString (n : Int) : Printable (toString n).toList := by
  cases n with
  | ofNat n => exact printable_repr n
  | negSucc n =>
    have htext : toString (Int.negSucc n) = "-" ++ (n + 1).repr := rfl
    rw [htext, String.toList_append, printable_append]
    exact ⟨by decide, printable_repr (n + 1)⟩

/-! ### Quoted texts are printable -/

theorem isPrintable_hexDigit : ∀ d < 16, isPrintable (hexDigit d) = true := by decide

theorem printable_hexDigits (width n : Nat) : Printable (hexDigits width n) := by
  induction width generalizing n with
  | zero => exact printable_nil
  | succ width ih =>
    rw [hexDigits, printable_append, printable_cons]
    exact ⟨ih _, isPrintable_hexDigit _ (Nat.mod_lt _ (by omega)), printable_nil⟩

theorem printable_codeEscape (n : Nat) : Printable (codeEscape n) := by
  unfold codeEscape
  split_ifs <;>
  · rw [printable_cons, printable_cons]
    exact ⟨by decide, by decide, printable_hexDigits _ _⟩

/-- Whatever stands between printable quotes is printable. -/
theorem printable_escapeChar {q : Char} (hq : isPrintable q = true) (c : Char) :
    Printable (escapeChar q c) := by
  unfold escapeChar
  split_ifs with hmarked _ _ _ hprintable
  · have hc : isPrintable c = true := by
      rcases hmarked with rfl | rfl
      · decide
      · exact hq
    simpa using ⟨by decide, hc⟩
  · decide
  · decide
  · decide
  · simpa using hprintable
  · exact printable_codeEscape _

theorem quoteFor_mem (cs : List Char) : quoteFor cs ∈ ['\'', '"'] := by
  unfold quoteFor
  split_ifs <;> decide

theorem isPrintable_of_mem_quotes {q : Char} (hq : q ∈ ['\'', '"']) : isPrintable q = true := by
  have hquotes : Printable ['\'', '"'] := by decide
  exact hquotes q hq

/-- **A quoted text is printable**, whatever the text holds. -/
theorem printable_quoted (s : String) : Printable (quoted s).toList := by
  have hq := isPrintable_of_mem_quotes (quoteFor_mem s.toList)
  rw [quoted, String.toList_ofList, quotedChars, printable_cons, printable_append, printable_cons]
  refine ⟨hq, fun d hd => ?_, hq, printable_nil⟩
  obtain ⟨c, -, hd⟩ := List.mem_flatMap.mp hd
  exact printable_escapeChar hq c d hd

/-! ### Reading escapes -/

/-- The value of a lower-case hexadecimal digit. -/
def hexValue (c : Char) : Nat :=
  if c.toNat < 0x3A then c.toNat - 0x30 else c.toNat - 0x57

/-- The number that a run of hexadecimal digits denotes. -/
def ofHexDigits (cs : List Char) : Nat :=
  cs.foldl (fun n c => n * 16 + hexValue c) 0

/-- The character whose code point the first `width` digits give, and what follows them. -/
def readCode (width : Nat) (cs : List Char) : Char × List Char :=
  (Char.ofNat (ofHexDigits (cs.take width)), cs.drop width)

/-- The first character of a text, read from the escaped form, and what follows it there. -/
def unescape? : List Char → Option (Char × List Char)
  | '\\' :: 't' :: rest => some ('\t', rest)
  | '\\' :: 'n' :: rest => some ('\n', rest)
  | '\\' :: 'r' :: rest => some ('\r', rest)
  | '\\' :: 'x' :: rest => some (readCode 2 rest)
  | '\\' :: 'u' :: rest => some (readCode 4 rest)
  | '\\' :: 'U' :: rest => some (readCode 8 rest)
  | '\\' :: c :: rest => some (c, rest)
  | ['\\'] => none
  | c :: rest => some (c, rest)
  | [] => none

theorem hexValue_hexDigit : ∀ d < 16, hexValue (hexDigit d) = d := by decide

theorem length_hexDigits (width n : Nat) : (hexDigits width n).length = width := by
  induction width generalizing n with
  | zero => rfl
  | succ width ih => rw [hexDigits, List.length_append, ih, List.length_singleton]

theorem ofHexDigits_append (cs : List Char) (c : Char) :
    ofHexDigits (cs ++ [c]) = ofHexDigits cs * 16 + hexValue c := by
  rw [ofHexDigits, List.foldl_append]
  rfl

theorem ofHexDigits_hexDigits {width n : Nat} (h : n < 16 ^ width) :
    ofHexDigits (hexDigits width n) = n := by
  induction width generalizing n with
  | zero =>
    have hzero : n = 0 := by rw [Nat.pow_zero] at h; omega
    rw [hzero]; rfl
  | succ width ih =>
    have hdiv : n / 16 < 16 ^ width := by rw [Nat.pow_succ] at h; omega
    rw [hexDigits, ofHexDigits_append, ih hdiv, hexValue_hexDigit _ (Nat.mod_lt _ (by omega))]
    omega

theorem readCode_hexDigits {width : Nat} {c : Char} (h : c.toNat < 16 ^ width) (rest : List Char) :
    readCode width (hexDigits width c.toNat ++ rest) = (c, rest) := by
  have hlen := length_hexDigits width c.toNat
  rw [readCode, List.take_left' hlen, List.drop_left' hlen, ofHexDigits_hexDigits h,
    Char.ofNat_toNat]

theorem unescape?_codeEscape (c : Char) (rest : List Char) :
    unescape? (codeEscape c.toNat ++ rest) = some (c, rest) := by
  have hsize : c.toNat < 16 ^ 8 := c.val.toNat_lt
  unfold codeEscape
  split_ifs with htwo hfour
  · exact congrArg some (readCode_hexDigits htwo rest)
  · exact congrArg some (readCode_hexDigits hfour rest)
  · exact congrArg some (readCode_hexDigits hsize rest)

theorem unescape?_of_ne {c : Char} (h : c ≠ '\\') (rest : List Char) :
    unescape? (c :: rest) = some (c, rest) := by
  unfold unescape?
  split <;> simp_all

theorem unescape?_marked {c : Char} (h : c ∈ ['\\', '\'', '"']) (rest : List Char) :
    unescape? ('\\' :: c :: rest) = some (c, rest) := by
  simp only [List.mem_cons, List.not_mem_nil, or_false] at h
  rcases h with rfl | rfl | rfl <;> rfl

/-- **The escaped form of a character tells the character, and where it ends.** -/
theorem unescape?_escapeChar {q : Char} (hq : q ∈ ['\'', '"']) (c : Char) (rest : List Char) :
    unescape? (escapeChar q c ++ rest) = some (c, rest) := by
  unfold escapeChar
  split_ifs with hmarked htab hfeed hreturn hprintable
  · refine unescape?_marked ?_ rest
    rcases hmarked with rfl | rfl
    · decide
    · exact List.mem_cons_of_mem _ hq
  · rw [htab]; rfl
  · rw [hfeed]; rfl
  · rw [hreturn]; rfl
  · exact unescape?_of_ne (fun h => hmarked (.inl h)) rest
  · exact unescape?_codeEscape c rest

/-! ### Telling texts apart -/

theorem flatMap_escapeChar_injective {q : Char} (hq : q ∈ ['\'', '"']) :
    Function.Injective (List.flatMap (escapeChar q)) := by
  have hcons (c : Char) (cs : List Char) : unescape? ((c :: cs).flatMap (escapeChar q)) =
      some (c, cs.flatMap (escapeChar q)) := by
    rw [List.flatMap_cons, unescape?_escapeChar hq]
  intro cs ds h
  -- what is read first from one form is read first from the other
  induction cs generalizing ds with
  | nil =>
    cases ds with
    | nil => rfl
    | cons d ds =>
      have hread := hcons d ds
      rw [← h] at hread
      cases hread
  | cons c cs ih =>
    cases ds with
    | nil =>
      have hread := hcons c cs
      rw [h] at hread
      cases hread
    | cons d ds =>
      have hread := hcons c cs
      rw [h, hcons d ds, Option.some.injEq, Prod.mk.injEq] at hread
      rw [hread.1, ih hread.2.symm]

/-- **Texts with one quoted form are the same.** -/
theorem quoted_injective : Function.Injective quoted := by
  intro s t h
  have hchars : quotedChars s.toList = quotedChars t.toList := String.ofList_injective h
  rw [quotedChars, quotedChars, List.cons.injEq] at hchars
  obtain ⟨hquote, hchars⟩ := hchars
  rw [hquote] at hchars
  have hescaped := List.append_cancel_right hchars
  exact String.toList_inj.mp (flatMap_escapeChar_injective (quoteFor_mem _) hescaped)

end Remittance.Text
