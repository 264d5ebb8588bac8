import Remittance.Proofs.Wording

/-! # The spacing of a sentence

A sentence is read from its words, so whatever stands between them has no part in what is read
(`Sentence.read_congr`) or in how a request ends (`Request.record_congr`). The words are the longest
runs of characters that are no blanks, and every list of words is found again in each text that sets
it out (`Request.handle_respaced`). -/

namespace Remittance

theorem Sentence.read_congr {s t : String} (h : Text.words s = Text.words t) : read s = read t := by
  unfold read
  rw [h]

namespace Request

theorem run_trim (sentence : String) (accounts : List Account) (now : Moment) :
    Stages.standard.run (Text.trim sentence) accounts now =
      Stages.standard.run sentence accounts now := by
  rw [run_eq_bind, run_eq_bind, Sentence.read_trim]

theorem record_congr {s t : String} (accounts : List Account) (now : Moment)
    (h : Text.words s = Text.words t) :
    (handle ⟨accounts, s⟩ now).record = (handle ⟨accounts, t⟩ now).record := by
  have hrun : Stages.standard.run (Text.trim s) accounts now.placed =
      Stages.standard.run (Text.trim t) accounts now.placed := by
    rw [run_trim, run_trim, run_eq_bind, run_eq_bind, Sentence.read_congr h]
  dsimp only [handle]
  rw [hrun]
  cases Stages.standard.run (Text.trim t) accounts now.placed <;> rfl

/-- **The spacing of a sentence has no part in its meaning.** The words of a text are its longest runs
of characters that are no blanks: each is one or more such characters, together they are all such
characters of the text in their order, and the text is these words with one or more blanks between
two of them. Any words set out in this way are found again. So a sentence with single spaces between
its words is read as before, and its request ends with the same record. It makes no difference to
the words, to the instruction or to the stages whether the blanks around a sentence are left out
first. -/
theorem handle_respaced :
    (∀ text : String, (∀ token ∈ Text.words text, Text.IsWord token.toList) ∧
      ((Text.words text).map String.toList).flatten = text.toList.filter (!Text.isBlank ·) ∧
      Text.IsSpaced (Text.words text) text) ∧
    (∀ (tokens : List String) (text : String), (∀ token ∈ tokens, Text.IsWord token.toList) →
      Text.IsSpaced tokens text → Text.words text = tokens) ∧
    (∀ text : String,
      Sentence.read (String.intercalate " " (Text.words text)) = Sentence.read text) ∧
    (∀ (accounts : List Account) (text : String) (now : Moment),
      (handle ⟨accounts, String.intercalate " " (Text.words text)⟩ now).record =
        (handle ⟨accounts, text⟩ now).record) ∧
    ∀ (text : String) (accounts : List Account) (now : Moment),
      Text.words (Text.trim text) = Text.words text ∧
      Sentence.read (Text.trim text) = Sentence.read text ∧
      Stages.standard.run (Text.trim text) accounts now =
        Stages.standard.run text accounts now := by
  have hwords : ∀ text : String, ∀ token ∈ Text.words text, Text.IsWord token.toList :=
    fun text => (Text.words_eq_iff.mp rfl).2
  have hjoined : ∀ text : String,
      Text.words (String.intercalate " " (Text.words text)) = Text.words text :=
    fun text => Text.words_intercalate (hwords text)
  have hflatten : ∀ text : String, ((Text.words text).map String.toList).flatten =
      text.toList.filter (!Text.isBlank ·) := by
    intro text
    rw [Text.map_toList_words, Text.flatten_runs]
  exact ⟨fun text => ⟨hwords text, hflatten text, Text.isSpaced_words text⟩,
    fun tokens text hall htext => Text.words_of_isSpaced htext hall,
    fun text => Sentence.read_congr (hjoined text),
    fun accounts text now => record_congr accounts now (hjoined text),
    fun text accounts now =>
      ⟨Text.words_trim text, Sentence.read_trim text, run_trim text accounts now⟩⟩

/-- A tab in front, a space and a no-break space between the words, and a line end behind them. -/
theorem handle_respaced_noBreak :
    (∀ token ∈ ["DEBIT", "500"], Text.IsWord token.toList) ∧
      Text.IsSpaced ["DEBIT", "500"] "\tDEBIT \u00a0500\n" ∧
      Text.words "\tDEBIT \u00a0500\n" = ["DEBIT", "500"] := by
  have hall : ∀ token ∈ ["DEBIT", "500"], Text.IsWord token.toList := by decide
  have htext : Text.IsSpaced ["DEBIT", "500"] "\tDEBIT \u00a0500\n" :=
    ⟨['\t'], [[' ', '\u00a0'], ['\n']], by decide, rfl, by decide, by decide, by decide⟩
  exact ⟨hall, htext, handle_respaced.2.1 ["DEBIT", "500"] "\tDEBIT \u00a0500\n" hall htext⟩

end Request

end Remittance
