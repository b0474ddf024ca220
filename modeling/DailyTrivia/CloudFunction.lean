import DailyTrivia.Models

/-!
The cloud function `submitAnswer`, which takes an answer over HTTP.

The fields of a request are any JavaScript values, and so is what is stored as the correct answer
of a question. The handler runs inside one catch-all: what it throws becomes a reply of its own.
An `Exchange` is what it has done so far, the replies it has sent and the documents it has added.
-/
namespace DailyTrivia

/-- JavaScript's numbers are all of double precision. -/
abbrev JsNumber := Documents.Double

inductive JsValue where
  | undefined
  | null
  | boolean (flag : Bool)
  | number (value : JsNumber)
  | string (text : String)
  | array (items : List JsValue)
  | object (members : List (String × JsValue))
  /-- `FieldValue.serverTimestamp()` -/
  | serverTimestamp
  /-- A timestamp, reference or other object that the Admin SDK reads from a document. JSON makes
  this of it; none if it cannot be serialized. -/
  | sdkObject (json : Option JsValue)

def JsNumber.isTruthy : JsNumber → Bool
  | .finite value => value ≠ 0
  | .infinite _ => true
  | .nan => false

/-- What `!value` negates. -/
def JsValue.isTruthy : JsValue → Bool
  | .undefined | .null => false
  | .boolean flag => flag
  | .number value => value.isTruthy
  | .string text => !text.isEmpty
  | .array _ | .object _ | .serverTimestamp | .sdkObject _ => true

mutual

/-- What a reader of `JSON.stringify(value)` gets; none if that throws. -/
def JsValue.json : JsValue → Option JsValue
  | .undefined => some .undefined
  | .null => some .null
  | .boolean flag => some (.boolean flag)
  | .number (.finite value) => some (.number (.finite value))
  | .number _ => some .null
  | .string text => some (.string text)
  | .array items => (jsonItems items).map .array
  | .object members => (jsonMembers members).map .object
  | .serverTimestamp => some (.object [])
  | .sdkObject json => json

/-- In an array nothing is written as null. -/
def JsValue.jsonItems : List JsValue → Option (List JsValue)
  | [] => some []
  | item :: rest => item.json.bind fun json => (jsonItems rest).map fun items =>
    (match json with | .undefined => .null | json => json) :: items

/-- In an object nothing is left out. -/
def JsValue.jsonMembers : List (String × JsValue) → Option (List (String × JsValue))
  | [] => some []
  | (name, value) :: rest => value.json.bind fun json => (jsonMembers rest).map fun members =>
    match json with | .undefined => members | json => (name, json) :: members

end

/-- What a promise is rejected with or a statement throws. -/
inductive JsThrown where
  | error (message : String)
  | other
  deriving DecidableEq

/-- `err.message`, where anything but an `Error` is replaced by one. -/
def JsThrown.message : JsThrown → String
  | .error message => message
  | .other => "Unknown error"

/-- What destructuring a body that has no properties throws. -/
def notDestructured (name body : String) : JsThrown :=
  .error ("Cannot destructure property '" ++ name ++ "' of 'req.body' as it is " ++ body ++ ".")

/-- A property destructured from the body. -/
def JsValue.property (value : JsValue) (name : String) : Except JsThrown JsValue :=
  match value with
  | .undefined => .error (notDestructured name "undefined")
  | .null => .error (notDestructured name "null")
  | .object members => .ok ((members.lookup name).getD .undefined)
  | _ => .ok .undefined

/-- The fields of a document, or of a reply. -/
abbrev JsFields := List (String × JsValue)

/-- A reply, as the client reads it. -/
structure HttpReply where
  status : ℕ
  json : JsFields

/-- What the function takes from JavaScript and from the Admin SDK. -/
structure Cloud where
  trim : String → String
  toLowerCase : String → String
  /-- `String(value)`, which throws on an object without a primitive value. -/
  toText : JsValue → Except JsThrown String
  toText_string : ∀ text, toText (.string text) = .ok text
  /-- `db.collection("questions").doc(path)`, unless it throws. -/
  questionDoc : String → Option DocumentRef

/-- A cloud for plain text. -/
def plainCloud : Cloud where
  trim := trimmingCharacters Char.isWhitespace
  toLowerCase text := String.ofList (text.toList.map Char.toLower)
  toText
    | .string text => .ok text
    | .boolean flag => .ok (toString flag)
    | .number .nan => .ok "NaN"
    | .number (.infinite negative) => .ok (if negative then "-Infinity" else "Infinity")
    | _ => .ok "[object Object]"
  toText_string _ := rfl
  questionDoc path := some (questionRef path)

/-- How the two Firestore calls end. -/
structure FirestoreCalls where
  /-- `db.collection("questions").doc(date).get()`: the data of the snapshot, if it exists. -/
  getQuestion : JsValue → Except JsThrown (Option (String → JsValue))
  /-- `db.collection("responses").add(data)`; a rejected call stores nothing. -/
  addResponse : JsFields → Except JsThrown Unit

structure Exchange where
  replies : List HttpReply := []
  added : List JsFields := []

abbrev Handler := ExceptT JsThrown (StateM Exchange)

/-- Goes on with a value, or throws. -/
def orThrow {α : Type} : Except JsThrown α → Handler α
  | .ok value => pure value
  | .error thrown => throw thrown

/-- `res.status(status).json(json)`, which sends nothing if `json` cannot be serialized. -/
def respond (status : ℕ) (json : JsFields) : Handler Unit :=
  match JsValue.jsonMembers json with
  | some sent =>
    modify fun exchange => { exchange with replies := exchange.replies ++ [⟨status, sent⟩] }
  | none => throw (.error "Converting circular structure to JSON")

/-- `userAnswer.trim()`: only a string has the method. -/
def JsValue.trim (cloud : Cloud) : JsValue → Except JsThrown String
  | .string text => .ok (cloud.trim text)
  | _ => .error (.error "userAnswer.trim is not a function")

/-- The `try` block of `submitAnswer`. -/
def submitAnswerTry (cloud : Cloud) (calls : FirestoreCalls) (body : JsValue) : Handler Unit := do
  let userId ← orThrow (body.property "userId")
  let userAnswer ← orThrow (body.property "userAnswer")
  let date ← orThrow (body.property "date")
  if !userId.isTruthy || !userAnswer.isTruthy || !date.isTruthy then
    respond 400 [("error", .string "Missing required fields: userId, userAnswer, and date.")]
    return
  let some questionData ← orThrow (calls.getQuestion date)
    | respond 404 [("error", .string "No question found for the given date.")]
  let correctAnswer := questionData "correctAnswer"
  if !correctAnswer.isTruthy then
    respond 500
      [("error", .string "Question data is incomplete. Missing correctAnswer field.")]
    return
  let userAnswerCleaned := cloud.toLowerCase (← orThrow (userAnswer.trim cloud))
  let correctAnswerCleaned := cloud.toLowerCase (cloud.trim (← orThrow (cloud.toText correctAnswer)))
  let isCorrect := userAnswerCleaned == correctAnswerCleaned
  let response : JsFields := [("userId", userId), ("date", date), ("userAnswer", userAnswer),
    ("correct", .boolean isCorrect), ("timestamp", .serverTimestamp)]
  orThrow (calls.addResponse response)
  modify fun exchange => { exchange with added := exchange.added ++ [response] }
  respond 200 [("correct", .boolean isCorrect),
    ("correctAnswer", if isCorrect then .null else correctAnswer)]

/-- `submitAnswer`, the whole handler. -/
def submitAnswerHandler (cloud : Cloud) (calls : FirestoreCalls) (body : JsValue) : Exchange :=
  match (submitAnswerTry cloud calls body).run.run {} with
  | (.ok (), exchange) => exchange
  | (.error thrown, exchange) => { exchange with
      replies := exchange.replies ++ [⟨500, [("error", .string "Internal server error"),
        ("details", .string thrown.message)]⟩] }

/-! ## What a request leads to -/

/-- The reply to an answer that is stored. -/
def acknowledgement (isCorrect : Bool) (correctAnswer : JsValue) : HttpReply :=
  match JsValue.jsonMembers [("correct", .boolean isCorrect),
      ("correctAnswer", if isCorrect then .null else correctAnswer)] with
  | some sent => ⟨200, sent⟩
  | none => ⟨500, [("error", .string "Internal server error"),
    ("details", .string "Converting circular structure to JSON")]⟩

section Request

variable {cloud : Cloud} {calls : FirestoreCalls} {body userId userAnswer date : JsValue}
variable (userIdOf : body.property "userId" = .ok userId)
variable (userAnswerOf : body.property "userAnswer" = .ok userAnswer)
variable (dateOf : body.property "date" = .ok date)

include userIdOf userAnswerOf dateOf

theorem handler_incomplete
    (missing : ¬ (userId.isTruthy ∧ userAnswer.isTruthy ∧ date.isTruthy)) :
    submitAnswerHandler cloud calls body = {
      replies := [⟨400,
        [("error", .string "Missing required fields: userId, userAnswer, and date.")]⟩] } := by
  have some_missing : (!userId.isTruthy || !userAnswer.isTruthy || !date.isTruthy) = true := by
    grind
  simp only [submitAnswerHandler, submitAnswerTry, orThrow, userIdOf, userAnswerOf, dateOf,
    pure_bind, some_missing, if_true]
  rfl

variable (complete : userId.isTruthy ∧ userAnswer.isTruthy ∧ date.isTruthy)

include complete

theorem handler_questionThrows {thrown : JsThrown} (read : calls.getQuestion date = .error thrown) :
    submitAnswerHandler cloud calls body = {
      replies := [⟨500, [("error", .string "Internal server error"),
        ("details", .string thrown.message)]⟩] } := by
  simp only [submitAnswerHandler, submitAnswerTry, orThrow, userIdOf, userAnswerOf, dateOf,
    pure_bind, complete, read, Bool.not_true, Bool.or_false, Bool.false_eq_true, if_false]
  rfl

theorem handler_notFound (read : calls.getQuestion date = .ok none) :
    submitAnswerHandler cloud calls body = {
      replies := [⟨404, [("error", .string "No question found for the given date.")]⟩] } := by
  simp only [submitAnswerHandler, submitAnswerTry, orThrow, userIdOf, userAnswerOf, dateOf,
    pure_bind, complete, read, Bool.not_true, Bool.or_false, Bool.false_eq_true, if_false]
  rfl

theorem handler_noCorrectAnswer {questionData : String → JsValue}
    (read : calls.getQuestion date = .ok (some questionData))
    (missing : (questionData "correctAnswer").isTruthy = false) :
    submitAnswerHandler cloud calls body = {
      replies := [⟨500, [("error",
        .string "Question data is incomplete. Missing correctAnswer field.")]⟩] } := by
  simp only [submitAnswerHandler, submitAnswerTry, orThrow, userIdOf, userAnswerOf, dateOf,
    pure_bind, complete, read, missing, Bool.not_true, Bool.or_false, Bool.not_false, if_true,
    Bool.false_eq_true, if_false]
  rfl

variable {questionData : String → JsValue} {answer correct : String}
variable (read : calls.getQuestion date = .ok (some questionData))
variable (asked : (questionData "correctAnswer").isTruthy)

include read asked

theorem handler_trimThrows {thrown : JsThrown} (trims : userAnswer.trim cloud = .error thrown) :
    submitAnswerHandler cloud calls body = {
      replies := [⟨500, [("error", .string "Internal server error"),
        ("details", .string thrown.message)]⟩] } := by
  simp only [submitAnswerHandler, submitAnswerTry, orThrow, userIdOf, userAnswerOf, dateOf,
    pure_bind, complete, read, asked, trims, Bool.not_true, Bool.or_false, Bool.false_eq_true,
    if_false]
  rfl

variable (trims : userAnswer.trim cloud = .ok answer)

include trims

theorem handler_textThrows {thrown : JsThrown}
    (text : cloud.toText (questionData "correctAnswer") = .error thrown) :
    submitAnswerHandler cloud calls body = {
      replies := [⟨500, [("error", .string "Internal server error"),
        ("details", .string thrown.message)]⟩] } := by
  simp only [submitAnswerHandler, submitAnswerTry, orThrow, userIdOf, userAnswerOf, dateOf,
    pure_bind, complete, read, asked, trims, text, Bool.not_true, Bool.or_false,
    Bool.false_eq_true, if_false]
  rfl

variable (text : cloud.toText (questionData "correctAnswer") = .ok correct)

include text

theorem handler_addThrows {thrown : JsThrown}
    (stores : calls.addResponse [("userId", userId), ("date", date), ("userAnswer", userAnswer),
      ("correct", .boolean (cloud.toLowerCase answer == cloud.toLowerCase (cloud.trim correct))),
      ("timestamp", .serverTimestamp)] = .error thrown) :
    submitAnswerHandler cloud calls body = {
      replies := [⟨500, [("error", .string "Internal server error"),
        ("details", .string thrown.message)]⟩] } := by
  simp only [submitAnswerHandler, submitAnswerTry, orThrow, userIdOf, userAnswerOf, dateOf,
    pure_bind, complete, read, asked, trims, text, stores, Bool.not_true, Bool.or_false,
    Bool.false_eq_true, if_false]
  rfl

/-- An answer that is stored is acknowledged. -/
theorem handler_stored {isCorrect : Bool}
    (graded : (cloud.toLowerCase answer == cloud.toLowerCase (cloud.trim correct)) = isCorrect)
    (stores : calls.addResponse [("userId", userId), ("date", date), ("userAnswer", userAnswer),
      ("correct", .boolean isCorrect), ("timestamp", .serverTimestamp)] = .ok ()) :
    submitAnswerHandler cloud calls body = {
      replies := [acknowledgement isCorrect (questionData "correctAnswer")]
      added := [[("userId", userId), ("date", date), ("userAnswer", userAnswer),
        ("correct", .boolean isCorrect), ("timestamp", .serverTimestamp)]] } := by
  subst graded
  simp only [submitAnswerHandler, submitAnswerTry, orThrow, userIdOf, userAnswerOf, dateOf,
    pure_bind, complete, read, asked, trims, text, stores, Bool.not_true, Bool.or_false,
    Bool.false_eq_true, if_false, respond, acknowledgement]
  generalize JsValue.jsonMembers _ = serialized
  cases serialized <;> rfl

end Request

/-! ## A request with three strings -/

/-- The request of a client that sends strings. -/
def stringRequest (userId userAnswer date : String) : JsValue :=
  .object [("userId", .string userId), ("userAnswer", .string userAnswer), ("date", .string date)]

/-- The outcome the function gives two strings. -/
def gradedCorrect (cloud : Cloud) (userAnswer correctAnswer : String) : Bool :=
  cloud.toLowerCase (cloud.trim userAnswer) == cloud.toLowerCase (cloud.trim correctAnswer)

/-- What the function stores of a request. -/
def responseFields (userId userAnswer date : String) (isCorrect : Bool) : JsFields :=
  [("userId", .string userId), ("date", .string date), ("userAnswer", .string userAnswer),
    ("correct", .boolean isCorrect), ("timestamp", .serverTimestamp)]

variable {cloud : Cloud} {calls : FirestoreCalls} {userId userAnswer date correctAnswer : String}

theorem isTruthy_string {text : String} : (JsValue.string text).isTruthy = true ↔ text ≠ "" := by
  simp [JsValue.isTruthy]

/-- An answer to a question of that date is graded, stored and acknowledged. -/
theorem handler_graded {questionData : String → JsValue} (given : userId ≠ "")
    (answered : userAnswer ≠ "") (dated : date ≠ "")
    (found : calls.getQuestion (.string date) = .ok (some questionData))
    (correct : questionData "correctAnswer" = .string correctAnswer) (nonempty : correctAnswer ≠ "")
    (stores : ∀ data, calls.addResponse data = .ok ()) :
    submitAnswerHandler cloud calls (stringRequest userId userAnswer date) = {
      replies := [⟨200, [("correct", .boolean (gradedCorrect cloud userAnswer correctAnswer)),
        ("correctAnswer", if gradedCorrect cloud userAnswer correctAnswer then .null
          else .string correctAnswer)]⟩]
      added := [responseFields userId userAnswer date
        (gradedCorrect cloud userAnswer correctAnswer)] } := by
  have complete : (JsValue.string userId).isTruthy ∧ (JsValue.string userAnswer).isTruthy ∧
      (JsValue.string date).isTruthy :=
    ⟨isTruthy_string.mpr given, isTruthy_string.mpr answered, isTruthy_string.mpr dated⟩
  have asked : (questionData "correctAnswer").isTruthy = true := by
    rw [correct]
    exact isTruthy_string.mpr nonempty
  have text : cloud.toText (questionData "correctAnswer") = .ok correctAnswer := by
    rw [correct, cloud.toText_string]
  rw [handler_stored rfl rfl rfl complete found asked rfl text rfl (stores _), correct,
    ← gradedCorrect]
  cases gradedCorrect cloud userAnswer correctAnswer <;> rfl

end DailyTrivia
