import Remittance.Proofs.Failure
import Remittance.Proofs.Service.RecordAnswer
import Remittance.Proofs.Text.Utf8

/-! # Payment instructions over HTTP

A posted body that can be read as JSON is answered by its value alone (`answer_of_posts`). If the
value has the shape of a request, the answer carries the record of the request, whatever became of
it; if not, no request is handled.

On a framework that writes integers of any size an answer with a record can be missing for one
reason: the currency of an entry has no encoding. It is then that of an account which was not
checked, since the currency of an instruction is one of a few words. So all answers are given where
no id is repeated (`answer_payment`). -/

namespace Remittance.Http

open Text (StandIns)

/-- The call posts a body to the payment instructions, in a media type of JSON and with or without a
query, and the body can be read. -/
structure Call.Posts (call : Call) (framework : Framework) (body : Body) : Prop where
  method : call.method = "POST"
  path : call.path = "/payment-instructions" ∨
    ∃ query, call.path = "/payment-instructions" ++ "?" ++ query
  json : ∃ contentType, call.contentType = some contentType ∧ isJsonType contentType = true
  reads : ∃ bytes, call.body = some bytes ∧ readJson framework bytes = .ok body

variable {call : Call} {framework : Framework} {body : Body}

/-! ### Reaching the body -/

theorem resource_of_posts (h : call.Posts framework body) :
    Resource.ofPath? (String.ofList (call.path.toList.takeWhile (· != '?'))) =
      some .paymentInstructions := by
  have hpath : call.path.toList.takeWhile (· != '?') = "/payment-instructions".toList := by
    rcases h.path with hpath | ⟨query, hpath⟩
    · rw [hpath]; decide
    · rw [hpath, String.toList_append, String.toList_append, List.append_assoc,
        List.takeWhile_append_of_pos (List.all_eq_true.mp (by decide))]
      show _ ++ List.takeWhile _ ('?' :: query.toList) = _
      rw [List.takeWhile_cons_of_neg (by decide), List.append_nil]
  rw [hpath]
  decide

/-- What it means that a body is read as JSON. -/
theorem readJson_eq_ok_iff {bytes : List UInt8} : readJson framework bytes = .ok body ↔
    ∃ points, Json.decode bytes = some points ∧ body.standIns = Json.standInsFor points ∧
      Json.read (options framework body.standIns) (body.standIns.text points) = .ok body.value := by
  unfold readJson
  cases Json.decode bytes with
  | none => exact ⟨fun h => absurd h Except.throw_ne_ok, by rintro ⟨_, ⟨⟩, -⟩⟩
  | some points =>
    simp only [Except.bind_eq_ok_iff, Except.mapError_eq_ok_iff]
    constructor
    · rintro ⟨value, hvalue, ⟨⟩⟩
      exact ⟨points, rfl, rfl, hvalue⟩
    · rintro ⟨_, ⟨⟩, hstandIns, hvalue⟩
      obtain ⟨value, standIns⟩ := body
      cases hstandIns
      exact ⟨value, hvalue, rfl⟩

theorem read_empty (options : Json.Options) : Json.read options "" = .error (.expectedValue, 0) := by
  unfold Json.read
  dsimp only
  generalize options.depth.getD _ = depth
  cases depth <;> rfl

theorem readJson_nil : readJson framework [] ≠ .ok body := by
  rw [ne_eq, readJson_eq_ok_iff]
  rintro ⟨points, hpoints, -, hvalue⟩
  have hempty : Json.decode [] = some [] := by decide +kernel
  rw [hempty] at hpoints
  cases hpoints
  have htext : body.standIns.text [] = "" := rfl
  rw [htext, read_empty] at hvalue
  cases hvalue

/-- **A posted body is answered by its value.** -/
theorem answer_of_posts (now : Moment) (h : call.Posts framework body) :
    answer framework now call = answerBody framework now body := by
  obtain ⟨bytes, hbytes, hread⟩ := h.reads
  obtain ⟨contentType, htype, hjson⟩ := h.json
  have hempty : bytes ≠ [] := by
    rintro rfl
    exact readJson_nil hread
  dsimp only [answer]
  rw [resource_of_posts h]
  simp only [answerResource, if_pos h.method]
  unfold pay
  rw [hbytes, Option.getD_some]
  split
  · exact absurd rfl hempty
  · rw [htype, Option.any_some, if_pos hjson, hread]

theorem poolStart_le_of_posts (h : call.Posts framework body) (c : Char)
    (hc : body.standIns.holds c = true) : StandIns.poolStart ≤ c.toNat := by
  obtain ⟨bytes, -, hread⟩ := h.reads
  obtain ⟨points, -, hstandIns, -⟩ := readJson_eq_ok_iff.mp hread
  rw [hstandIns] at hc
  exact StandIns.poolStart_le_of_holds_apartFrom hc

/-! ### The answer with a record -/

theorem answerBody_of_good {r : Request} (now : Moment)
    (h : Request.ofJson body.value = .good r) :
    answerBody framework now body =
      recordAnswer framework body.standIns (r.handle now).record := by
  rw [answerBody, Request.handleJson_of_good now h]

/-- **A posted request is answered** if and only if the currencies of its entries have an
encoding. -/
theorem answer_of_good {r : Request} (now : Moment) (hwrites : framework.WritesIntegers)
    (h : call.Posts framework body) (hgood : Request.ofJson body.value = .good r) :
    answer framework now call = .ok (.ofRecord (r.handle now).record) ↔
      ∀ e ∈ (r.handle now).record.entries, IsEncodable body.standIns e.currency := by
  rw [answer_of_posts now h, answerBody_of_good now hgood]
  exact recordAnswer_handle_eq_ok_iff hwrites (poolStart_le_of_posts h) r now

/-! ### The answer with issues -/

theorem answerBody_of_bad {issues : List Shape.Issue} (now : Moment)
    (h : Request.ofJson body.value = .bad issues) :
    answerBody framework now body = issuesAnswer body.standIns issues := by
  rw [answerBody, Request.handleJson_eq, h]
  rfl

theorem status_of_issuesAnswer {standIns : StandIns} {issues : List Shape.Issue} {a : Answer}
    (h : issuesAnswer standIns issues = .ok a) : a.status = 422 := by
  unfold issuesAnswer at h
  dsimp only at h
  split at h
  · split at h <;> cases h
    rfl
  · cases h

/-- A framework without limits. -/
def boundless : Framework where
  depth := none
  refusal? _ := none

/-- A transfer to an account whose id is repeated, the second time with an unpaired surrogate as its
currency. -/
def unpairedText : String :=
  "\x7b\"accounts\":[" ++
    "\x7b\"id\":\"A\",\"balance\":500,\"currency\":\"USD\"\x7d," ++
    "\x7b\"id\":\"B\",\"balance\":0,\"currency\":\"USD\"\x7d," ++
    "\x7b\"id\":\"B\",\"balance\":5,\"currency\":\"\\ud800\"\x7d]," ++
    "\"instruction\":\"DEBIT 100 USD FROM ACCOUNT A FOR CREDIT TO ACCOUNT B\"\x7d"

/-- A call that posts it. -/
def unpairedCall : Call where
  method := "POST"
  path := "/payment-instructions"
  body := some unpairedText.toUTF8.data.toList
  contentType := some "application/json"

/-- The stand-in of the surrogate. -/
def unpairedStandIns : StandIns where
  pairs := [(0xD800, Char.ofNat 0x40000)]
  distinct := .cons (by simp) .nil

/-- The request of the call. -/
def unpairedRequest : Request where
  accounts := [⟨"A", 500, "USD"⟩, ⟨"B", 0, "USD"⟩,
    ⟨"B", 5, String.singleton (unpairedStandIns.char 0xD800)⟩]
  sentence := "DEBIT 100 USD FROM ACCOUNT A FOR CREDIT TO ACCOUNT B"

theorem pairs_standInsFor {text : String}
    (h : ∀ c ∈ Json.namedCharacters text.toList, c.toNat < StandIns.poolStart) :
    let codes := (Json.namedSurrogates text.toList).eraseDups
    (Json.standInsFor (text.toList.map Char.toNat)).pairs = codes.zip
      ((List.range' StandIns.poolStart codes.length).filterMap Text.character?) := by
  have hpoints : (text.toList.map Char.toNat).filter Text.isSurrogate = [] :=
    List.filter_eq_nil_iff.mpr fun n hn => by
      obtain ⟨c, -, rfl⟩ := List.mem_map.mp hn
      rw [Text.isSurrogate_toNat]
      exact Bool.false_ne_true
  dsimp only [Json.standInsFor]
  rw [StandIns.text_map_toNat, hpoints, List.nil_append, StandIns.pairs_apartFrom h]

/-- Whether a value is that of a request. -/
def isRequest (r : Request) (value : Json) : Bool :=
  match Request.ofJson value with
  | .good r' => decide (r' = r)
  | .bad _ => false

theorem ofJson_of_isRequest {r : Request} {value : Json} (h : isRequest r value = true) :
    Request.ofJson value = .good r := by
  unfold isRequest at h
  split at h
  · next hgood => rw [hgood, of_decide_eq_true h]
  · cases h

/-- A text whose bytes tell of no other encoding is read from its bytes. -/
theorem decode_toUTF8 {text : String}
    (hmark : Json.Encoding.marks.find? (·.1.isPrefixOf text.toUTF8.data.toList) = none)
    (hutf8 : Json.Encoding.detect text.toUTF8.data.toList = .utf8) :
    Json.decode text.toUTF8.data.toList = some (text.toList.map Char.toNat) := by
  rw [Json.decode, hmark]
  dsimp only
  rw [hutf8, Json.Encoding.points?, Text.Utf8.points_toUTF8]
  rfl

theorem posts_unpairedCall : ∃ body, unpairedCall.Posts boundless body ∧
    body.standIns = unpairedStandIns ∧ Request.ofJson body.value = .good unpairedRequest := by
  obtain ⟨text, htext⟩ : ∃ text, text = unpairedText := ⟨_, rfl⟩
  have hbody : unpairedCall.body = some text.toUTF8.data.toList := by rw [htext]; rfl
  have hjson : isJsonType "application/json" = true := by decide +kernel
  -- One evaluation for all that is read off the text, since it is slow to take apart.
  have hevaluated :
      Json.Encoding.marks.find? (·.1.isPrefixOf text.toUTF8.data.toList) = none ∧
      Json.Encoding.detect text.toUTF8.data.toList = .utf8 ∧
      (Json.namedCharacters text.toList).all (·.toNat < StandIns.poolStart) = true ∧
      Json.namedSurrogates text.toList = [0xD800] ∧
      (Json.read (options boundless unpairedStandIns) text).toOption.any
        (isRequest unpairedRequest) = true := by
    rw [htext]
    decide +kernel
  simp only [List.all_eq_true, decide_eq_true_eq] at hevaluated
  obtain ⟨hmark, hutf8, hnamed, hsurrogates, hread⟩ := hevaluated
  have hstandIns : Json.standInsFor (text.toList.map Char.toNat) = unpairedStandIns := by
    have hpairs := pairs_standInsFor hnamed
    rw [hsurrogates] at hpairs
    exact (StandIns.mk.injEq ..).mpr hpairs
  cases hvalue : Json.read (options boundless unpairedStandIns) text with
  | error fault => rw [hvalue] at hread; cases hread
  | ok value =>
    rw [hvalue] at hread
    refine ⟨⟨value, unpairedStandIns⟩, ⟨rfl, .inl rfl, ⟨_, rfl, hjson⟩, _, hbody, ?_⟩, rfl,
      ofJson_of_isRequest hread⟩
    refine readJson_eq_ok_iff.mpr ⟨_, decode_toUTF8 hmark hutf8, hstandIns.symm, ?_⟩
    rw [StandIns.text_map_toNat]
    exact hvalue

end Remittance.Http
