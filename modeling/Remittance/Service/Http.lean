import Remittance.Json.Encoding
import Remittance.Json.Printer
import Remittance.Json.StandIn
import Remittance.Service.Echo
import Remittance.Session
import Remittance.Shape.Record

/-! # The service over HTTP

Two resources are served: `/health` answers that the service is up, and `/payment-instructions`
takes a request as JSON and answers with the record of its outcome, whether it failed or not.
Whatever is wrong with the request's shape is listed in an answer of its own. An answer that would
have to repeat what cannot be written is not given.

How deep the values of a body may be nested and which integers can be written is up to the
`Framework` that carries calls and answers. -/

namespace Remittance.Http

open Shape
open Text (StandIns SurrogateRun)

/-- What carries calls and answers. -/
structure Framework where
  /-- How deep the values of a body may be nested, if there is a limit. -/
  depth : Option Nat
  /-- What it has against writing an integer, if anything. -/
  refusal? : Int → Option String

/-- A call: a method, a path that may carry a query, and a body in bytes with its media type. -/
structure Call where
  method : String
  path : String
  body : Option (List UInt8) := none
  contentType : Option String := none
  deriving DecidableEq, Repr

/-- An answer: a status and a JSON body. -/
structure Answer where
  status : Nat
  body : Json
  deriving Repr

/-- An answer that says what is wrong in a few words. -/
def detail (status : Nat) (message : String) : Answer :=
  ⟨status, .object [("detail", .string message)]⟩

/-! ### Issues -/

/-- A step as it stands in an answer. -/
def stepJson : Step → Json
  | .field name => .string name
  | .index n => .int n

/-- The short name of a problem. No object of a certain kind is asked for here, only fields. -/
def problemKind : Problem → String
  | .notObject _ => "model_attributes_type"
  | p => p.kind

/-- The description of a problem. -/
def problemMessage : Problem → String
  | .notObject _ => "Input should be a valid dictionary or object to extract fields from"
  | p => p.message

/-- The bound that a number breaks. -/
def problemContext : Problem → List (String × Json)
  | .below bound => [("ctx", .object [("ge", .int bound)])]
  | .notAbove bound => [("ctx", .object [("gt", .int bound)])]
  | .above bound => [("ctx", .object [("le", .int bound)])]
  | _ => []

/-- An issue with the body of a call. -/
def issueJson (i : Issue) : Json :=
  .object ([("type", .string (problemKind i.problem)),
    ("loc", .array (.string "body" :: i.path.map stepJson)),
    ("msg", .string (problemMessage i.problem)), ("input", i.value)] ++ problemContext i.problem)

/-- Why a call stays without an answer. -/
inductive Fault where
  /-- A value with an issue holds a number that JSON cannot write. -/
  | unwritable
  /-- The text of the answer to a body with issues has no encoding. -/
  | unencodableAnswer (run : SurrogateRun)
  /-- A body that is no JSON cannot be repeated, since it is no text. -/
  | undecodable (fault : Text.Utf8.Fault)
  /-- A text in the record of an outcome has no encoding. -/
  | unencodableRecord (run : SurrogateRun)
  /-- An integer in the record of an outcome is refused. -/
  | refusedInteger (message : String)
  deriving DecidableEq, Repr

/-- The description of a fault. -/
def Fault.message : Fault → String
  | .unwritable => "Out of range float values are not JSON compliant"
  | .unencodableAnswer run => run.message
  | .undecodable fault => fault.message
  | .unencodableRecord run => "Error serializing to JSON: UnicodeEncodeError: " ++ run.message
  | .refusedInteger message => message

/-- A value in which surrogates may have stand-ins. -/
structure Body where
  value : Json
  standIns : StandIns := .none

/-- Whether a value is a text with an unpaired surrogate. -/
def isBroken (standIns : StandIns) : Json → Bool
  | .string s => s.toList.any standIns.holds
  | _ => false

/-- An issue as it is told: the value without its internal fields, and a text that is no text before
it is no numeral. -/
def told (standIns : StandIns) (i : Issue) : Issue :=
  let broken := (i.problem = .notNumeral ∨ i.problem = .tooLong) ∧ isBroken standIns i.value
  { i with problem := if broken then .unpaired else i.problem, value := echo i.value }

/-- The answer to a body with issues. It repeats the values that have them, so there is none if one
of them cannot be written or the whole cannot be encoded. -/
def issuesAnswer (standIns : StandIns) (issues : List Issue) : Except Fault Answer :=
  let issues := issues.map (told standIns)
  let body : Json := .object [("detail", .array (issues.map issueJson))]
  if areWritable (issues.map (·.value)) then
    match standIns.firstRun? body.text.toList with
    | some run => .error (.unencodableAnswer run)
    | none => .ok ⟨422, body⟩
  else .error .unwritable

/-- The answer to a body that is no JSON. -/
def brokenAnswer (cause : Json.Cause) (position : Nat) : Answer :=
  let issue : Json := .object [("type", .string "json_invalid"),
    ("loc", .array [.string "body", .int position]), ("msg", .string "JSON decode error"),
    ("input", .object []), ("ctx", .object [("error", .string cause.message)])]
  ⟨422, .object [("detail", .array [issue])]⟩

/-! ### Bodies -/

/-- Whether a media type says that a body is JSON: `application/json` or `application/…+json` in any
casing, with parameters that are not looked at. -/
def isJsonType (contentType : String) : Bool :=
  let name := (Text.trimBy Text.isBlank (contentType.toList.takeWhile (· != ';'))).map Char.toLower
  let subtype := (name.dropWhile (· != '/')).drop 1
  name.takeWhile (· != '/') == "application".toList && !subtype.contains '/' &&
    (subtype == "json".toList || "+json".toList.isSuffixOf subtype)

/-- How a body is read. -/
def options (framework : Framework) (standIns : StandIns) : Json.Options where
  digits := some Numeral.digitLimit
  depth := framework.depth
  standIns

/-- The answer to a body that cannot be read for a reason other than its syntax. -/
def unreadable : Answer :=
  detail 400 "There was an error parsing the body"

/-- The answer to a body that breaks off at the given cause and position. -/
def faultAnswer : Json.Cause × Nat → Answer
  | (.longInteger, _) => unreadable
  | (.deepNesting, _) => unreadable
  | (cause, position) => brokenAnswer cause position

/-- The value of a body in JSON, or the answer to one that cannot be read. -/
def readJson (framework : Framework) (bytes : List UInt8) : Except Answer Body :=
  match Json.decode bytes with
  | some points => do
    let standIns := Json.standInsFor points
    let value ← (Json.read (options framework standIns) (standIns.text points)).mapError faultAnswer
    return ⟨value, standIns⟩
  | none => throw unreadable

/-- A body of another media type is its own text. -/
def readText (bytes : List UInt8) : Except Fault Body := do
  let points ← (Text.Utf8.points false bytes).mapError .undecodable
  return ⟨.string (StandIns.none.text points), .none⟩

/-! ### Resources -/

/-- Why a leaf of a record cannot be written. -/
def leafFault? (framework : Framework) (standIns : StandIns) : Json → Option Fault
  | .string s => (standIns.firstRun? s.toList).map .unencodableRecord
  | .int n => (framework.refusal? n).map .refusedInteger
  | _ => none

/-- The answer to the record of an outcome. There is none if one of its leaves cannot be written. -/
def recordAnswer (framework : Framework) (standIns : StandIns) (r : Record) :
    Except Fault Answer :=
  let body : Json :=
    .object [("message", .string "Instruction processed successfully"), ("data", r.toJson)]
  match body.leaves.findSome? (leafFault? framework standIns) with
  | some fault => .error fault
  | none => .ok ⟨200, body⟩

/-- The answer to a body at the moment `now`. -/
def answerBody (framework : Framework) (now : Moment) (body : Body) : Except Fault Answer :=
  match Request.handleJson body.value now with
  | .good handled => recordAnswer framework body.standIns handled.record
  | .bad issues => issuesAnswer body.standIns issues

/-- The answer to a payment instruction. -/
def pay (framework : Framework) (now : Moment) (call : Call) : Except Fault Answer :=
  match call.body.getD [] with
  | [] => issuesAnswer .none [⟨[], .missing, .null⟩]
  | bytes =>
    if call.contentType.any isJsonType then
      match readJson framework bytes with
      | .ok body => answerBody framework now body
      | .error answer => .ok answer
    else readText bytes >>= answerBody framework now

/-- The resources that are served. -/
inductive Resource where
  | health
  | paymentInstructions
  deriving DecidableEq, Repr

/-- The path of a resource. -/
def Resource.path : Resource → String
  | .health => "/health"
  | .paymentInstructions => "/payment-instructions"

/-- The resource at a path. One line feed may end the path. -/
def Resource.ofPath? (path : String) : Option Resource :=
  [Resource.health, .paymentInstructions].find? fun r => path == r.path || path == r.path ++ "\n"

/-- A path without the slashes at its end. -/
def withoutSlashes (path : String) : String :=
  String.ofList (path.toList.reverse.dropWhile (· == '/')).reverse

/-- The answer to a call for a resource. The method is looked at before the body. -/
def answerResource (framework : Framework) (now : Moment) (call : Call) :
    Resource → Except Fault Answer
  | .health =>
    if call.method = "GET" then .ok ⟨200, .object [("status", .string "ok")]⟩
    else .ok (detail 405 "Method Not Allowed")
  | .paymentInstructions =>
    if call.method = "POST" then pay framework now call else .ok (detail 405 "Method Not Allowed")

/-- Answers a call at the moment `now`. The path is looked at first, without its query; a call for a
resource with slashes behind its path is sent on to the resource itself, with nothing to read. -/
def answer (framework : Framework) (now : Moment) (call : Call) : Except Fault Answer :=
  let path := String.ofList (call.path.toList.takeWhile (· != '?'))
  match Resource.ofPath? path with
  | some resource => answerResource framework now call resource
  | none =>
    if (Resource.ofPath? (withoutSlashes path)).isSome then .ok ⟨307, .string ""⟩
    else .ok (detail 404 "Not Found")

end Remittance.Http
