import Mathlib.Data.List.Forall2
import Remittance.Proofs.Handling
import Remittance.Proofs.Text.Spelling

/-! # The wording of a sentence

A transfer can be put into words in many ways: in either form, with each keyword spelled in any way
that has its upper-case form, and with any blanks between the words and around them. Every such
sentence is read as the transfer (`read_of_isWritten`), because what fits a slot is a word
(`Slot.isWord_of_fits`) and so the blanks are the only places where the sentence is cut. Nothing but
the form of an outcome tells one wording from another (`handle_of_isWritten`). -/

namespace Remittance

/-! ### What fits a slot is a word -/

namespace Field

variable {token : String}

theorem isWord_of_amount {a : Amount} (h : amount token = .ok a) : Text.IsWord token.toList := by
  obtain ⟨hne, hall, -⟩ := amount_eq_ok_iff.mp h
  have hchars : token.toList ≠ [] ∧ ∀ c ∈ token.toList, c = '+' ∨ Text.isAsciiDigit c = true := by
    unfold amountDigits at hne hall
    split at hne
    · next hplus =>
      rw [if_pos hplus] at hall
      obtain ⟨cs, hcs⟩ := List.head?_eq_some_iff.mp hplus
      rw [hcs] at hall ⊢
      refine ⟨List.cons_ne_nil _ _, fun c hc => ?_⟩
      rcases List.mem_cons.mp hc with rfl | hc
      · exact .inl rfl
      · exact .inr (hall c hc)
    · next hplus =>
      rw [if_neg hplus] at hall
      exact ⟨hne, fun c hc => .inr (hall c hc)⟩
  refine Text.isWord_of_visible hchars.1 fun c hc => ?_
  rcases hchars.2 c hc with rfl | hdigit
  · decide
  · rw [Text.isAsciiDigit_iff] at hdigit; omega

theorem isWord_of_currency {c : String} (h : currency token = .ok c) :
    Text.IsWord token.toList := by
  obtain ⟨rfl, hmem⟩ := currency_eq_ok_iff.mp h
  have hwords : ∀ c ∈ currencies, Text.IsWord c.toList := by decide +kernel
  exact Text.isWord_of_upper rfl (hwords _ hmem)

theorem isWord_of_accountId {id : String} (h : accountId token = .ok id) :
    Text.IsWord token.toList := by
  obtain ⟨-, hne, -⟩ := accountId_eq_ok_iff.mp h
  exact Text.isWord_of_visible (by simpa using hne) (visible_of_accountId h)

theorem isWord_of_date {d : String} (h : date token = .ok d) : Text.IsWord token.toList := by
  obtain ⟨-, year, month, day, hparts, -⟩ := date_eq_ok_iff.mp h
  obtain ⟨ys, ms, ds, htoken, -⟩ := ExecutionDate.dateParts?_eq_some_iff.mp hparts
  refine Text.isWord_of_visible ?_ (ExecutionDate.visible_of_dateParts? hparts)
  rw [htoken]
  simp

end Field

/-- **What fits a slot is a word.** -/
theorem Slot.isWord_of_fits {s : Slot} {token : String} (h : s.fits token = true)
    (hkeyword : ∀ word, s = .keyword word → Text.IsWord word.toList) :
    Text.IsWord token.toList := by
  cases s with
  | keyword word => exact Text.isWord_of_upper (beq_iff_eq.mp h) (hkeyword word rfl)
  | amount =>
    obtain ⟨a, ha⟩ := Except.isOk_iff.mp h
    exact Field.isWord_of_amount ha
  | currency =>
    obtain ⟨c, hc⟩ := Except.isOk_iff.mp h
    exact Field.isWord_of_currency hc
  | accountId =>
    obtain ⟨id, hid⟩ := Except.isOk_iff.mp h
    exact Field.isWord_of_accountId hid
  | date =>
    obtain ⟨d, hd⟩ := Except.isOk_iff.mp h
    exact Field.isWord_of_date hd

/-! ### Sentences with the same terms -/

/-- A token that a reader accepts, with the value it is read as. -/
structure Field.Accepted {α : Type} (reader : Field.Reader α) where
  token : String
  value : α
  reads : reader token = .ok value

/-- The terms of a transfer, as tokens of a sentence. -/
structure Terms where
  amount : Field.Accepted Field.amount
  currency : Field.Accepted Field.currency
  debit : Field.Accepted Field.accountId
  credit : Field.Accepted Field.accountId
  date : Option (Field.Accepted Field.date)

/-- A keyword of a sentence, or one of the terms. -/
inductive Piece where
  | keyword (word : String)
  | amount (token : Field.Accepted Field.amount)
  | currency (token : Field.Accepted Field.currency)
  | accountId (token : Field.Accepted Field.accountId)
  | date (token : Field.Accepted Field.date)

namespace Piece

/-- Whether a token stands for the piece: a keyword may be spelled in any way with its upper-case
form, and a term stands as it is. -/
def IsSpelled : Piece → String → Prop
  | keyword word, t => Text.upper t = word
  | amount token, t => t = token.token
  | currency token, t => t = token.token
  | accountId token, t => t = token.token
  | date token, t => t = token.token

instance : ∀ (p : Piece) (t : String), Decidable (p.IsSpelled t)
  | keyword word, t => inferInstanceAs (Decidable (Text.upper t = word))
  | amount token, t => inferInstanceAs (Decidable (t = token.token))
  | currency token, t => inferInstanceAs (Decidable (t = token.token))
  | accountId token, t => inferInstanceAs (Decidable (t = token.token))
  | date token, t => inferInstanceAs (Decidable (t = token.token))

/-- The token that stands for the piece, with a keyword in upper case. -/
def word : Piece → String
  | keyword word => word
  | amount token => token.token
  | currency token => token.token
  | accountId token => token.token
  | date token => token.token

/-- The slot for the piece. -/
def slot : Piece → Slot
  | keyword word => .keyword word
  | amount _ => .amount
  | currency _ => .currency
  | accountId _ => .accountId
  | date _ => .date

theorem fits_of_isSpelled {p : Piece} {t : String} (h : p.IsSpelled t) : p.slot.fits t = true := by
  cases p with
  | keyword word => exact beq_iff_eq.mpr h
  | amount token => cases h; exact Except.isOk_iff.mpr ⟨_, token.reads⟩
  | currency token => cases h; exact Except.isOk_iff.mpr ⟨_, token.reads⟩
  | accountId token => cases h; exact Except.isOk_iff.mpr ⟨_, token.reads⟩
  | date token => cases h; exact Except.isOk_iff.mpr ⟨_, token.reads⟩

end Piece

namespace Terms

/-- The date's clause. -/
def clause (v : Terms) : List Piece :=
  match v.date with
  | some d => [.keyword "ON", .date d]
  | none => []

/-- The terms with the keywords of a form. -/
def pieces (v : Terms) : Form → List Piece
  | .debit => [.keyword "DEBIT", .amount v.amount, .currency v.currency, .keyword "FROM",
      .keyword "ACCOUNT", .accountId v.debit, .keyword "FOR", .keyword "CREDIT", .keyword "TO",
      .keyword "ACCOUNT", .accountId v.credit] ++ v.clause
  | .credit => [.keyword "CREDIT", .amount v.amount, .currency v.currency, .keyword "TO",
      .keyword "ACCOUNT", .accountId v.credit, .keyword "FOR", .keyword "DEBIT", .keyword "FROM",
      .keyword "ACCOUNT", .accountId v.debit] ++ v.clause

/-- The text puts the terms into words in the given form. -/
def IsWritten (v : Terms) (form : Form) (text : String) : Prop :=
  ∃ tokens, List.Forall₂ Piece.IsSpelled (v.pieces form) tokens ∧ Text.IsSpaced tokens text

/-- The instruction with the given terms. -/
def instruction (v : Terms) (form : Form) : Instruction :=
  { form
    amount := v.amount.value
    currency := v.currency.value
    debit := v.debit.token
    credit := v.credit.token
    executeBy := v.date.map (·.token) }

variable {v : Terms} {form : Form} {tokens : List String}

theorem isSpelled_getD (h : List.Forall₂ Piece.IsSpelled (v.pieces form) tokens) {k : Nat}
    {p : Piece} (hp : (v.pieces form)[k]? = some p) : p.IsSpelled (tokens.getD k "") := by
  obtain ⟨hk, hp⟩ := List.getElem?_eq_some_iff.mp hp
  have hk' : k < tokens.length := h.length_eq ▸ hk
  have hget := h.get hk hk'
  rw [List.get_eq_getElem, hp] at hget
  rw [List.getD_eq_getElem?_getD, List.getElem?_eq_getElem hk', Option.getD_some]
  exact hget

theorem isDated_eq (h : List.Forall₂ Piece.IsSpelled (v.pieces form) tokens) :
    Sentence.isDated tokens = v.date.isSome := by
  have hlen := h.length_eq
  unfold Sentence.isDated
  cases hdate : v.date with
  | none =>
    have hlen' : (v.pieces form).length = 11 := by
      cases form <;> simp [pieces, clause, hdate]
    rw [decide_eq_false (by omega), Bool.and_false]
    rfl
  | some d =>
    have hlen' : (v.pieces form).length = 13 := by
      cases form <;> simp [pieces, clause, hdate]
    have hon : (v.pieces form)[11]? = some (.keyword "ON") := by
      cases form <;> simp [pieces, clause, hdate]
    have hupper : Text.upper (tokens.getD 11 "") = "ON" := isSpelled_getD h hon
    rw [decide_eq_true (by omega), Bool.and_true, hupper]
    rfl

theorem map_slot_pieces (h : List.Forall₂ Piece.IsSpelled (v.pieces form) tokens) :
    (v.pieces form).map Piece.slot = Sentence.slots form tokens := by
  unfold Sentence.slots
  rw [isDated_eq h]
  cases hdate : v.date <;> cases form <;> simp [pieces, clause, hdate, Piece.slot, Form.layout]

theorem fits_getD (h : List.Forall₂ Piece.IsSpelled (v.pieces form) tokens) {k : Nat} {s : Slot}
    (hs : (Sentence.slots form tokens)[k]? = some s) : s.fits (tokens.getD k "") = true := by
  rw [← map_slot_pieces h, List.getElem?_map, Option.map_eq_some_iff] at hs
  obtain ⟨p, hp, rfl⟩ := hs
  exact Piece.fits_of_isSpelled (isSpelled_getD h hp)

theorem isWord_of_mem_slots {word : String} (h : .keyword word ∈ Sentence.slots form tokens) :
    Text.IsWord word.toList := by
  have hall : ∀ word, .keyword word ∈ form.layout ++ [.keyword "ON", .date] →
      Text.IsWord word.toList := by
    cases form <;> simp only [Form.layout, List.cons_append, List.nil_append, List.mem_cons,
      Slot.keyword.injEq, reduceCtorEq, List.not_mem_nil, or_false, false_or, forall_eq_or_imp,
      forall_eq] <;> decide +kernel
  refine hall word ?_
  unfold Sentence.slots at h
  rcases List.mem_append.mp h with h | h
  · exact List.mem_append_left _ h
  · split at h
    · exact List.mem_append_right _ h
    · cases h

theorem isWord_of_isSpelled (h : List.Forall₂ Piece.IsSpelled (v.pieces form) tokens) :
    ∀ token ∈ tokens, Text.IsWord token.toList := by
  intro token htoken
  obtain ⟨k, hk, rfl⟩ := List.getElem_of_mem htoken
  obtain ⟨s, hs⟩ : ∃ s, (Sentence.slots form tokens)[k]? = some s := by
    refine ⟨_, List.getElem?_eq_getElem ?_⟩
    rw [← map_slot_pieces h, List.length_map, h.length_eq]
    exact hk
  have hfits := fits_getD h hs
  rw [List.getD_eq_getElem?_getD, List.getElem?_eq_getElem hk, Option.getD_some] at hfits
  refine Slot.isWord_of_fits hfits ?_
  rintro word rfl
  exact isWord_of_mem_slots (List.mem_of_getElem? hs)

theorem words_of_isSpelled {text : String}
    (h : List.Forall₂ Piece.IsSpelled (v.pieces form) tokens) (htext : Text.IsSpaced tokens text) :
    Text.words text = tokens :=
  Text.words_of_isSpaced htext (isWord_of_isSpelled h)

theorem terms_of_isSpelled (h : List.Forall₂ Piece.IsSpelled (v.pieces form) tokens) :
    tokens.getD 1 "" = v.amount.token ∧ tokens.getD 2 "" = v.currency.token ∧
      form.roles (tokens.getD 5 "") (tokens.getD 10 "") = (v.debit.token, v.credit.token) ∧
      (if Sentence.isDated tokens then some (tokens.getD 12 "") else none) =
        v.date.map (·.token) := by
  have hamount : tokens.getD 1 "" = v.amount.token :=
    isSpelled_getD h (p := .amount v.amount) (by cases form <;> rfl)
  have hcurrency : tokens.getD 2 "" = v.currency.token :=
    isSpelled_getD h (p := .currency v.currency) (by cases form <;> rfl)
  refine ⟨hamount, hcurrency, ?_, ?_⟩
  · -- the account that the form puts first is the debit account or the credit account
    cases form with
    | debit =>
      have hfirst : tokens.getD 5 "" = v.debit.token :=
        isSpelled_getD h (p := .accountId v.debit) rfl
      have hsecond : tokens.getD 10 "" = v.credit.token :=
        isSpelled_getD h (p := .accountId v.credit) rfl
      rw [hfirst, hsecond]; rfl
    | credit =>
      have hfirst : tokens.getD 5 "" = v.credit.token :=
        isSpelled_getD h (p := .accountId v.credit) rfl
      have hsecond : tokens.getD 10 "" = v.debit.token :=
        isSpelled_getD h (p := .accountId v.debit) rfl
      rw [hfirst, hsecond]; rfl
  · rw [isDated_eq h]
    cases hdate : v.date with
    | none => rfl
    | some d =>
      have hpiece : (v.pieces form)[12]? = some (.date d) := by
        cases form <;> simp [pieces, clause, hdate]
      have hday : tokens.getD 12 "" = d.token := isSpelled_getD h hpiece
      rw [hday]; rfl

/-- **Every wording is read** as the transfer with its terms. -/
theorem read_of_isWritten {text : String} (h : v.IsWritten form text) :
    Sentence.read text = .ok (v.instruction form) := by
  obtain ⟨tokens, hspelled, htext⟩ := h
  have hwords := words_of_isSpelled hspelled htext
  have hlen : 11 ≤ (Text.words text).length := by
    have hslots := congrArg List.length (map_slot_pieces hspelled)
    unfold Sentence.slots at hslots
    rw [List.length_map, hspelled.length_eq, List.length_append, Form.length_layout] at hslots
    rw [hwords]; omega
  have hform : Text.upper ((Text.words text).getD 0 "") = form.text := by
    have hpiece : (v.pieces form)[0]? = some (.keyword form.text) := by cases form <;> rfl
    rw [hwords]
    exact isSpelled_getD hspelled hpiece
  obtain ⟨i, hi⟩ : ∃ i, Sentence.read text = .ok i := by
    refine Sentence.exists_read_of_fits hlen hform fun k s hs => ?_
    rw [hwords] at hs ⊢
    exact fits_getD hspelled hs
  -- the fields of what is read are the terms
  obtain ⟨hf, hamount, hcurrency, -, -, hroles, -, hdate⟩ := Sentence.of_read_eq_ok hlen hform hi
  obtain ⟨hamount', hcurrency', hroles', hdate'⟩ := terms_of_isSpelled hspelled
  rw [hwords] at hamount hcurrency hroles hdate
  rw [hamount', v.amount.reads] at hamount
  rw [hcurrency', v.currency.reads] at hcurrency
  rw [hroles'] at hroles
  rw [hdate'] at hdate
  rw [hi]
  obtain ⟨_, _, _, _, _, _⟩ := i
  cases hf; cases hamount; cases hcurrency; cases hroles; cases hdate
  rfl

theorem upper_of_mem_pieces {word : String} (h : .keyword word ∈ v.pieces form) :
    Text.upper word = word := by
  have hall : ∀ word ∈ ["DEBIT", "CREDIT", "FROM", "TO", "ACCOUNT", "FOR", "ON"],
      Text.upper word = word := by decide
  refine hall word ?_
  cases form <;> cases hdate : v.date <;> simp [pieces, clause, hdate] at h ⊢ <;> tauto

/-- **Terms can be put into words** in either form. -/
theorem exists_isWritten (v : Terms) (form : Form) : ∃ text, v.IsWritten form text := by
  have htokens : List.Forall₂ Piece.IsSpelled (v.pieces form) ((v.pieces form).map Piece.word) := by
    rw [List.forall₂_map_right_iff, List.forall₂_same]
    intro p hp
    cases p with
    | keyword word => exact upper_of_mem_pieces hp
    | _ => rfl
  have hwords := Text.words_intercalate (isWord_of_isSpelled htokens)
  exact ⟨_, _, htokens, (Text.words_eq_iff.mp hwords).1⟩

/-- **An instruction that is read has terms.** -/
theorem exists_of_read {text : String} {i : Instruction} (h : Sentence.read text = .ok i) :
    ∃ v : Terms, v.instruction i.form = i := by
  have hsound := Sentence.sound_of_read h
  obtain ⟨form, hlen, hform⟩ := (Sentence.form_of_read h).resolve_left (by rintro ⟨⟩)
  obtain ⟨-, hamount, hcurrency, -⟩ := Sentence.of_read_eq_ok hlen hform h
  obtain ⟨_, amount, currency, debit, credit, executeBy⟩ := i
  cases executeBy with
  | none =>
    exact ⟨⟨⟨_, amount, hamount⟩, ⟨_, currency, hcurrency⟩, ⟨debit, debit, hsound.debit⟩,
      ⟨credit, credit, hsound.credit⟩, none⟩, rfl⟩
  | some d =>
    exact ⟨⟨⟨_, amount, hamount⟩, ⟨_, currency, hcurrency⟩, ⟨debit, debit, hsound.debit⟩,
      ⟨credit, credit, hsound.credit⟩, some ⟨d, d, hsound.executeBy d rfl⟩⟩, rfl⟩

end Terms

/-! ### The outcome -/

theorem Sentence.read_trim (text : String) : read (Text.trim text) = read text := by
  unfold read
  rw [Text.words_trim]

theorem Settlement.settle_form (i : Instruction) (form : Form) (accounts : List Account)
    (now : Moment) :
    settle { i with form } accounts now =
      (settle i accounts now).map fun s =>
        { s with instruction := { s.instruction with form } } := by
  have hcheck : check { i with form } accounts = check i accounts := rfl
  unfold settle
  rw [hcheck]
  cases check i accounts with
  | error reason => rfl
  | ok _ =>
    dsimp only
    cases ExecutionDate.isFuture i.executeBy now <;> rfl

namespace Request

/-- Of the record of a settlement, only the form comes from the form of the instruction. -/
theorem recordOf_settle_form (i : Instruction) (form : Form) (accounts : List Account)
    (now : Moment) :
    let o := recordOf (Settlement.settle i accounts now)
    let o' := recordOf (Settlement.settle { i with form } accounts now)
    (o.status = .failed → o' = o) ∧
      (o.status ≠ .failed → o.form = some i.form ∧ o' = { o with form := some form }) := by
  have hform := Settlement.settle_form i form accounts now
  rw [hform]
  cases hsettle : Settlement.settle i accounts now with
  | error f => exact ⟨fun _ => rfl, fun h => absurd rfl h⟩
  | ok s =>
    obtain ⟨-, scheduled, -, rfl⟩ := Settlement.settle_eq_ok_iff.mp hsettle
    refine ⟨fun h => ?_, fun _ => ⟨rfl, rfl⟩⟩
    cases scheduled <;> cases h

theorem record_of_isWritten {v : Terms} {form : Form} {text : String} (accounts : List Account)
    (now : Moment) (h : v.IsWritten form text) :
    (handle ⟨accounts, text⟩ now).record =
      recordOf (Settlement.settle (v.instruction form) accounts now.placed) := by
  have hread : Sentence.read (Text.trim text) = .ok (v.instruction form) := by
    rw [Sentence.read_trim]
    exact Terms.read_of_isWritten h
  exact record_of_read now hread

/-- **A transfer in words.** Every wording of it in either form is read, with each term at its
place. In the two forms it fails in the same way, or its outcomes differ in the form only; and in
one form its outcome is the same in every wording, whatever the spelling of the keywords and the
blanks. -/
theorem handle_of_isWritten (v : Terms) :
    (∀ form text, v.IsWritten form text → Sentence.read text = .ok (v.instruction form)) ∧
    (∀ (accounts : List Account) (now : Moment) (text text' : String),
      v.IsWritten .debit text → v.IsWritten .credit text' →
        let o := (handle ⟨accounts, text⟩ now).record
        let o' := (handle ⟨accounts, text'⟩ now).record
        (o.status = .failed → o' = o) ∧
          (o.status ≠ .failed → o.form = some .debit ∧ o' = { o with form := some .credit })) ∧
    ∀ (accounts : List Account) (now : Moment) (form : Form) (text text' : String),
      v.IsWritten form text → v.IsWritten form text' →
        (handle ⟨accounts, text'⟩ now).record = (handle ⟨accounts, text⟩ now).record := by
  refine ⟨fun form text h => Terms.read_of_isWritten h, fun accounts now text text' h h' => ?_,
    fun accounts now form text text' h h' => ?_⟩
  · have hforms := recordOf_settle_form (v.instruction .debit) .credit accounts now.placed
    have hcredit : { v.instruction .debit with form := .credit } = v.instruction .credit := rfl
    rw [record_of_isWritten accounts now h, record_of_isWritten accounts now h', ← hcredit]
    exact hforms
  · rw [record_of_isWritten accounts now h, record_of_isWritten accounts now h']

/-- A transfer between two accounts on a date past the end of February. -/
def Terms.leap : Terms where
  amount := ⟨"+05", ⟨5, by decide⟩, by rfl⟩
  currency := ⟨"uſd", "USD", by rfl⟩
  debit := ⟨"a", "a", by rfl⟩
  credit := ⟨"b", "b", by rfl⟩
  date := some ⟨"2024-02-31", "2024-02-31", by rfl⟩

/-- Letters of other scripts in the keywords, and blanks of other kinds between them. -/
theorem handle_of_isWritten_foreign :
    let text := "\u2003DEBıT +05\u3000uſd from account a\tfor\ncredit to account b on 2024-02-31 "
    let text' := "credit +05 uſd TO ACCOUNT b FOR DEBıT FROM ACCOUNT a ON 2024-02-31"
    let accounts : List Account := [⟨"a", 20, "USD"⟩, ⟨"b", 0, "USD"⟩]
    let now : Moment := ⟨⟨2024, 3, 1⟩, 0, none⟩
    Terms.leap.IsWritten .debit text ∧ Terms.leap.IsWritten .credit text' ∧
      (handle ⟨accounts, text'⟩ now).record =
        { (handle ⟨accounts, text⟩ now).record with form := some .credit } := by
  intro text text' accounts now
  have htext : Terms.leap.IsWritten .debit text := by
    refine ⟨["DEBıT", "+05", "uſd", "from", "account", "a", "for", "credit", "to", "account", "b",
      "on", "2024-02-31"], by decide +kernel, ['\u2003'], [[' '], ['\u3000'], [' '], [' '], [' '],
      ['\t'], ['\n'], [' '], [' '], [' '], [' '], [' '], [' ']], ?_⟩
    decide +kernel
  have htext' : Terms.leap.IsWritten .credit text' := by
    refine ⟨["credit", "+05", "uſd", "TO", "ACCOUNT", "b", "FOR", "DEBıT", "FROM", "ACCOUNT", "a",
      "ON", "2024-02-31"], by decide +kernel, [], List.replicate 12 [' '] ++ [[]], ?_⟩
    decide +kernel
  have hstatus : (handle ⟨accounts, text⟩ now).record.status ≠ .failed := by decide +kernel
  obtain ⟨-, hforms, -⟩ := handle_of_isWritten Terms.leap
  exact ⟨htext, htext', ((hforms accounts now text text' htext htext').2 hstatus).2⟩

end Request

end Remittance
