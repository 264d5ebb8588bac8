import Mathlib.Data.List.Basic
import Mathlib.Data.List.TakeWhile
import Remittance.Text.Words

/-! # Words and gaps

A text whose words are known is cut at its gaps: blanks in front change nothing
(`runs_gap_append`), and a word is found as it stands if a blank follows it, or nothing
(`runs_word_append`). So blanks at the ends of a text do not count (`words_trim`), and a text that
sets out tokens with blanks between them (`IsSpaced`) has just these tokens as its words
(`words_of_isSpaced`). Every text sets out its words (`isSpaced_words`), and these hold all its
characters but the blanks (`flatten_runs`). -/

namespace Remittance.Text

/-- A word: one or more characters, none of them a blank. -/
def IsWord (w : List Char) : Prop :=
  w ≠ [] ∧ ∀ c ∈ w, isBlank c = false

instance (w : List Char) : Decidable (IsWord w) :=
  decidable_of_iff (w ≠ [] ∧ w.all (!isBlank ·) = true) (by simp [IsWord])

/-- A gap: any number of blanks. -/
def IsGap (g : List Char) : Prop :=
  ∀ c ∈ g, isBlank c = true

instance (g : List Char) : Decidable (IsGap g) :=
  decidable_of_iff (g.all isBlank = true) List.all_eq_true

/-- The text sets out the tokens in order: with any blanks in front, one or more blanks between two
tokens, and any blanks behind the last. `gaps` are the blanks behind each token. -/
def IsSpaced (tokens : List String) (text : String) : Prop :=
  ∃ lead gaps, IsGap lead ∧ gaps.length = tokens.length ∧ (∀ g ∈ gaps, IsGap g) ∧
    (∀ g ∈ gaps.dropLast, g ≠ []) ∧
    text.toList = lead ++ (List.zipWith (fun token g => token.toList ++ g) tokens gaps).flatten

/-! ### Words of visible characters -/

theorem isBlank_of_visible {c : Char} (h : 0x21 ≤ c.toNat) (h' : c.toNat ≤ 0x7E) :
    isBlank c = false := by
  rw [isBlank, CharClass.contains, Bool.eq_false_iff, Ne, CharClass.covers_iff]
  rintro ⟨r, hr, hle⟩
  simp only [blanks, List.mem_cons, List.not_mem_nil, or_false] at hr
  rcases hr with rfl | rfl | rfl | rfl | rfl | rfl | rfl | rfl | rfl | rfl <;> simp at hle <;> omega

theorem isWord_of_visible {w : List Char} (hne : w ≠ [])
    (h : ∀ c ∈ w, 0x21 ≤ c.toNat ∧ c.toNat ≤ 0x7E) : IsWord w :=
  ⟨hne, fun c hc => isBlank_of_visible (h c hc).1 (h c hc).2⟩

/-! ### The words of a text put together -/

theorem runs_gap_append {g : List Char} (hg : IsGap g) (cs : List Char) :
    runs (g ++ cs) = runs cs := by
  induction g with
  | nil => rfl
  | cons c g ih =>
    have hc : isBlank c = true := hg c List.mem_cons_self
    rw [List.cons_append, runs_cons_of_blank hc, ih fun d hd => hg d (List.mem_cons_of_mem c hd)]

theorem runs_gap {g : List Char} (hg : IsGap g) : runs g = [] := by
  have h := runs_gap_append hg []
  rw [List.append_nil, runs] at h
  exact h

/-- **A word is found as it stands**, up to the first blank. -/
theorem runs_word_append {w cs : List Char} (hw : IsWord w)
    (hcs : ∀ c ∈ cs.head?, isBlank c = true) : runs (w ++ cs) = w :: runs cs := by
  obtain ⟨hne, hall⟩ := hw
  obtain ⟨c, w, rfl⟩ := List.exists_cons_of_ne_nil hne
  have hw : ∀ d ∈ w, (!isBlank d) = true := by
    intro d hd
    rw [hall d (List.mem_cons_of_mem c hd)]; rfl
  have hstop : cs.takeWhile (!isBlank ·) = [] ∧ cs.dropWhile (!isBlank ·) = cs := by
    cases cs with
    | nil => exact ⟨rfl, rfl⟩
    | cons d cs =>
      have hd : isBlank d = true := hcs d rfl
      constructor
      · rw [List.takeWhile_cons_of_neg (by simp [hd])]
      · rw [List.dropWhile_cons_of_neg (by simp [hd])]
  rw [List.cons_append, runs_cons_of_not_blank (hall c List.mem_cons_self),
    List.takeWhile_append_of_pos hw, List.dropWhile_append_of_pos hw, hstop.1, hstop.2,
    List.append_nil]

theorem isWord_cons_takeWhile {c : Char} {cs : List Char} (hc : isBlank c = false) :
    IsWord (c :: cs.takeWhile (!isBlank ·)) := by
  refine ⟨List.cons_ne_nil _ _, fun d hd => ?_⟩
  rcases List.mem_cons.mp hd with rfl | hd
  · exact hc
  · simpa using List.mem_takeWhile_imp hd

theorem head?_dropWhile_isBlank {cs : List Char} :
    ∀ c ∈ (cs.dropWhile (!isBlank ·)).head?, isBlank c = true := by
  intro c hc
  have hstop := List.head?_dropWhile_not (!isBlank ·) cs
  rw [Option.mem_def.mp hc] at hstop
  simpa using hstop

theorem runs_append_gap {g : List Char} (hg : IsGap g) (cs : List Char) :
    runs (cs ++ g) = runs cs := by
  fun_induction runs cs with
  | case1 => rw [List.nil_append, runs_gap hg]
  | case2 c cs hc ih => rw [List.cons_append, runs_cons_of_blank hc, ih]
  | case3 c cs hc ih =>
    -- the first word of `c :: cs`, and what follows it
    have hw : IsWord (c :: cs.takeWhile (!isBlank ·)) := isWord_cons_takeWhile (by simpa using hc)
    have hrest : ∀ d ∈ (cs.dropWhile (!isBlank ·) ++ g).head?, isBlank d = true := by
      intro d hd
      rcases hdrop : cs.dropWhile (!isBlank ·) with _ | ⟨e, es⟩
      · rw [hdrop, List.nil_append] at hd
        exact hg d (List.mem_of_mem_head? hd)
      · rw [hdrop] at hd
        have hhead : d ∈ (cs.dropWhile (!isBlank ·)).head? := by
          rw [hdrop]
          exact hd
        exact head?_dropWhile_isBlank d hhead
    have hsplit : c :: cs ++ g =
        (c :: cs.takeWhile (!isBlank ·)) ++ (cs.dropWhile (!isBlank ·) ++ g) := by
      rw [List.cons_append, List.cons_append, ← List.append_assoc, List.takeWhile_append_dropWhile]
    rw [hsplit, runs_word_append hw hrest, ih]

/-! ### The words as characters -/

theorem map_toList_words (s : String) : (words s).map String.toList = runs s.toList := by
  unfold words
  rw [List.map_map]
  simp [Function.comp_def]

theorem words_eq_iff_runs {s : String} {tokens : List String} :
    words s = tokens ↔ runs s.toList = tokens.map String.toList := by
  rw [← map_toList_words, List.map_inj_right fun _ _ => String.toList_inj.mp]

/-! ### Trimming -/

theorem isGap_takeWhile (cs : List Char) : IsGap (cs.takeWhile isBlank) :=
  fun _ hc => List.mem_takeWhile_imp hc

theorem runs_trimBy (cs : List Char) : runs (trimBy isBlank cs) = runs cs := by
  have hlead : runs (cs.dropWhile isBlank) = runs cs := by
    have h := runs_gap_append (isGap_takeWhile cs) (cs.dropWhile isBlank)
    rw [List.takeWhile_append_dropWhile] at h
    exact h.symm
  have htrail : ∀ ds : List Char, runs (ds.reverse.dropWhile isBlank).reverse = runs ds := by
    intro ds
    have hgap : IsGap (ds.reverse.takeWhile isBlank).reverse := by
      intro c hc
      exact isGap_takeWhile ds.reverse c (List.mem_reverse.mp hc)
    have hsplit : (ds.reverse.dropWhile isBlank).reverse ++
        (ds.reverse.takeWhile isBlank).reverse = ds := by
      rw [← List.reverse_append, List.takeWhile_append_dropWhile, List.reverse_reverse]
    rw [← runs_append_gap hgap, hsplit]
  rw [trimBy, htrail, hlead]

/-- **Trimming a text does not change its words.** -/
theorem words_trim (s : String) : words (trim s) = words s := by
  unfold words
  rw [toList_trim, runs_trimBy]

/-! ### Tokens set out with blanks -/

theorem runs_zipWith {tokens : List String} {lead : List Char} {gaps : List (List Char)}
    (hlead : IsGap lead) (hlen : gaps.length = tokens.length) (hgaps : ∀ g ∈ gaps, IsGap g)
    (hne : ∀ g ∈ gaps.dropLast, g ≠ []) (hwords : ∀ token ∈ tokens, IsWord token.toList) :
    runs (lead ++ (List.zipWith (fun token g => token.toList ++ g) tokens gaps).flatten) =
      tokens.map String.toList := by
  induction tokens generalizing lead gaps with
  | nil => rw [List.zipWith_nil_left, List.flatten_nil, List.append_nil, runs_gap hlead]; rfl
  | cons token tokens ih =>
    obtain ⟨g, gaps, rfl⟩ := List.exists_cons_of_length_eq_add_one hlen
    have hlen' : gaps.length = tokens.length := by simpa using hlen
    have hdropLast : gaps ≠ [] → (g :: gaps).dropLast = g :: gaps.dropLast :=
      List.dropLast_cons_of_ne_nil
    have hne' : ∀ g' ∈ gaps.dropLast, g' ≠ [] := by
      intro g' hg'
      have hgaps' : gaps ≠ [] := List.ne_nil_of_mem ((List.dropLast_sublist gaps).mem hg')
      exact hne g' (by rw [hdropLast hgaps']; exact List.mem_cons_of_mem g hg')
    have hhead : ∀ c ∈ (g ++ (List.zipWith (fun token g => token.toList ++ g) tokens
        gaps).flatten).head?, isBlank c = true := by
      intro c hc
      cases g with
      | nil =>
        -- only the last gap may be empty
        have hgaps' : gaps = [] := by
          by_contra h
          exact hne [] (by rw [hdropLast h]; exact List.mem_cons_self) rfl
        rw [hgaps', List.zipWith_nil_right] at hc
        cases hc
      | cons d g =>
        rw [List.cons_append, List.head?_cons, Option.mem_some_iff] at hc
        rw [← hc]
        exact hgaps (d :: g) List.mem_cons_self d List.mem_cons_self
    have ih := ih (hgaps g List.mem_cons_self) hlen'
      (fun g' hg' => hgaps g' (List.mem_cons_of_mem g hg')) hne'
      (fun t ht => hwords t (List.mem_cons_of_mem token ht))
    rw [runs_gap_append hlead, List.zipWith_cons_cons, List.flatten_cons, List.append_assoc,
      runs_word_append (hwords token List.mem_cons_self) hhead, ih, List.map_cons]

/-- **Tokens that are set out with blanks are the words of the text.** -/
theorem words_of_isSpaced {tokens : List String} {text : String} (h : IsSpaced tokens text)
    (hwords : ∀ token ∈ tokens, IsWord token.toList) : words text = tokens := by
  obtain ⟨lead, gaps, hlead, hlen, hgaps, hne, htext⟩ := h
  rw [words_eq_iff_runs, htext, runs_zipWith hlead hlen hgaps hne hwords]

/-! ### The words of any text -/

theorem isWord_of_mem_runs {cs w : List Char} (h : w ∈ runs cs) : IsWord w := by
  fun_induction runs cs with
  | case1 => cases h
  | case2 c cs hc ih => exact ih h
  | case3 c cs hc ih =>
    rcases List.mem_cons.mp h with rfl | h
    · exact isWord_cons_takeWhile (by simpa using hc)
    · exact ih h

/-- **The characters of the words are those of the text that are no blanks**, in order. -/
theorem flatten_runs (cs : List Char) : (runs cs).flatten = cs.filter (!isBlank ·) := by
  fun_induction runs cs with
  | case1 => rfl
  | case2 c cs hc ih => rw [ih, List.filter_cons_of_neg (by simp [hc])]
  | case3 c cs hc ih =>
    have hword : (cs.takeWhile (!isBlank ·)).filter (!isBlank ·) = cs.takeWhile (!isBlank ·) :=
      List.filter_eq_self.mpr fun _ => List.mem_takeWhile_imp
    have hsplit : cs.filter (!isBlank ·) =
        cs.takeWhile (!isBlank ·) ++ (cs.dropWhile (!isBlank ·)).filter (!isBlank ·) := by
      rw [← hword, ← List.filter_append, List.takeWhile_append_dropWhile]
    rw [List.flatten_cons, ih, List.filter_cons_of_pos (by simpa using hc), hsplit, List.cons_append]

/-- A text is put together again from its words and the gaps behind them. -/
theorem exists_gaps (cs : List Char) :
    ∃ lead gaps, IsGap lead ∧ gaps.length = (runs cs).length ∧ (∀ g ∈ gaps, IsGap g) ∧
      (∀ g ∈ gaps.dropLast, g ≠ []) ∧
      cs = lead ++ (List.zipWith (· ++ ·) (runs cs) gaps).flatten := by
  fun_induction runs cs with
  | case1 => exact ⟨[], [], by simp [IsGap], rfl, by simp, by simp, rfl⟩
  | case2 c cs hc ih =>
    obtain ⟨lead, gaps, hlead, hlen, hgaps, hne, hsplit⟩ := ih
    refine ⟨c :: lead, gaps, ?_, hlen, hgaps, hne, ?_⟩
    · intro d hd
      rcases List.mem_cons.mp hd with rfl | hd
      · exact hc
      · exact hlead d hd
    · rw [List.cons_append, ← hsplit]
  | case3 c cs hc ih =>
    obtain ⟨lead, gaps, hlead, hlen, hgaps, hne, hsplit⟩ := ih
    -- what was in front of the rest is the gap behind the first word
    refine ⟨[], lead :: gaps, by simp [IsGap], by simp [hlen], ?_, ?_, ?_⟩
    · intro g hg
      rcases List.mem_cons.mp hg with rfl | hg
      · exact hlead
      · exact hgaps g hg
    · have hlead' : gaps ≠ [] → lead ≠ [] := by
        rintro hgaps' rfl
        obtain ⟨g, gaps, rfl⟩ := List.exists_cons_of_ne_nil hgaps'
        obtain ⟨w, ws, hws⟩ := List.exists_cons_of_length_eq_add_one hlen.symm
        obtain ⟨hword, hall⟩ := isWord_of_mem_runs (hws ▸ List.mem_cons_self)
        obtain ⟨d, w, rfl⟩ := List.exists_cons_of_ne_nil hword
        have hhead : d ∈ (cs.dropWhile (!isBlank ·)).head? := by
          rw [hsplit, hws]
          simp
        have hblank := head?_dropWhile_isBlank d hhead
        rw [hall d List.mem_cons_self] at hblank
        cases hblank
      intro g hg
      by_cases hgaps' : gaps = []
      · rw [hgaps'] at hg
        cases hg
      · rw [List.dropLast_cons_of_ne_nil hgaps'] at hg
        rcases List.mem_cons.mp hg with rfl | hg
        · exact hlead' hgaps'
        · exact hne g hg
    · rw [List.nil_append, List.zipWith_cons_cons, List.flatten_cons, List.append_assoc, ← hsplit,
        List.cons_append, List.takeWhile_append_dropWhile]

/-- **A text sets out its words.** -/
theorem isSpaced_words (s : String) : IsSpaced (words s) s := by
  obtain ⟨lead, gaps, hlead, hlen, hgaps, hne, hsplit⟩ := exists_gaps s.toList
  rw [← map_toList_words, List.length_map] at hlen
  rw [← map_toList_words, List.zipWith_map_left] at hsplit
  exact ⟨lead, gaps, hlead, hlen, hgaps, hne, hsplit⟩

/-- **The words of a text** are the tokens that it sets out, if these are words. -/
theorem words_eq_iff {tokens : List String} {text : String} : words text = tokens ↔
    IsSpaced tokens text ∧ ∀ token ∈ tokens, IsWord token.toList := by
  constructor
  · rintro rfl
    refine ⟨isSpaced_words text, fun token htoken => ?_⟩
    have hmem : token.toList ∈ runs text.toList := by
      rw [← map_toList_words]
      exact List.mem_map_of_mem htoken
    exact isWord_of_mem_runs hmem
  · rintro ⟨htext, hwords⟩
    exact words_of_isSpaced htext hwords

theorem runs_intercalate {ws : List (List Char)} (h : ∀ w ∈ ws, IsWord w) :
    runs ([' '].intercalate ws) = ws := by
  induction ws with
  | nil => rw [List.intercalate_nil, runs]
  | cons w ws ih =>
    have hw := h w List.mem_cons_self
    have ih := ih fun w' hw' => h w' (List.mem_cons_of_mem w hw')
    cases ws with
    | nil =>
      rw [List.intercalate_singleton]
      have hnil : ∀ c ∈ ([] : List Char).head?, isBlank c = true := by simp
      have hend := runs_word_append hw hnil
      rwa [List.append_nil, runs] at hend
    | cons w' ws =>
      have hspace : IsGap [' '] := by decide
      rw [List.intercalate_cons_cons, List.append_assoc, runs_word_append hw (by simp; decide),
        runs_gap_append hspace, ih]

theorem words_intercalate {tokens : List String} (h : ∀ token ∈ tokens, IsWord token.toList) :
    words (String.intercalate " " tokens) = tokens := by
  have hspace : " ".toList = [' '] := rfl
  rw [words_eq_iff_runs, String.toList_intercalate, hspace]
  refine runs_intercalate fun w hw => ?_
  obtain ⟨token, htoken, rfl⟩ := List.mem_map.mp hw
  exact h token htoken

end Remittance.Text
