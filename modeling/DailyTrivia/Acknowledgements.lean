import DailyTrivia.CloudFunction

/-!
What the cloud function records and what it acknowledges.

A request ends in one of two ways: it is refused and nothing is recorded, or its answer is
recorded and acknowledged. JSON writes some stored answers as null, and cannot write others: an
answer that is recorded is then acknowledged without the correct answer, or not at all.
-/
namespace DailyTrivia

/-! ## JSON values -/

/-- A value that is written to JSON and read back as it is. -/
def JsValue.IsJson (value : JsValue) : Prop :=
  value.json = some value

theorem jsonMembers_length {members kept : List (String × JsValue)}
    (written : JsValue.jsonMembers members = some kept) : kept.length ≤ members.length := by
  induction members generalizing kept with
  | nil => simp_all [JsValue.jsonMembers]
  | cons member rest ih =>
    obtain ⟨name, value⟩ := member
    simp only [JsValue.jsonMembers, Option.bind_eq_some_iff, Option.map_eq_some_iff] at written
    obtain ⟨json, -, others, rest_written, rfl⟩ := written
    have shorter := ih rest_written
    split <;> simp only [List.length_cons] <;> omega

theorem isJson_member {members : List (String × JsValue)} {name : String} {value : JsValue}
    (written : JsValue.jsonMembers members = some members) (present : (name, value) ∈ members) :
    value.IsJson := by
  induction members with
  | nil => simp at present
  | cons member rest ih =>
    obtain ⟨firstName, first⟩ := member
    simp only [JsValue.jsonMembers, Option.bind_eq_some_iff, Option.map_eq_some_iff] at written
    obtain ⟨json, first_written, others, rest_written, same⟩ := written
    have shorter := jsonMembers_length rest_written
    split at same
    · -- a member that is left out would make the list shorter
      have := congrArg List.length same
      simp only [List.length_cons] at this
      omega
    · obtain ⟨rfl, rfl⟩ : json = first ∧ others = rest := by simpa using same
      rcases List.mem_cons.mp present with here | later
      · cases here
        exact first_written
      · exact ih rest_written later

theorem isJson_property {body value : JsValue} {name : String} (json : body.IsJson)
    (valueOf : body.property name = .ok value) : value.IsJson := by
  cases body with
  | object members =>
    have written : JsValue.jsonMembers members = some members := by
      simpa [JsValue.IsJson, JsValue.json] using json
    obtain rfl : (members.lookup name).getD .undefined = value := by
      simpa [JsValue.property] using valueOf
    cases found : members.lookup name with
    | none => rfl
    | some stored =>
      obtain ⟨before, after, rfl, -⟩ := List.lookup_eq_some_iff.mp found
      exact isJson_member written (List.mem_append_right before (List.mem_cons_self))
  | undefined => cases valueOf
  | null => cases valueOf
  | _ =>
    cases valueOf
    rfl

/-! ## How a request ends -/

/-- The document that is stored for an answer. -/
def responseOf (userId userAnswer date : JsValue) (isCorrect : Bool) : JsFields :=
  [("userId", userId), ("date", date), ("userAnswer", userAnswer), ("correct", .boolean isCorrect),
    ("timestamp", .serverTimestamp)]

inductive Handled (cloud : Cloud) (calls : FirestoreCalls) (body : JsValue) : Exchange → Prop
  | refused {status : ℕ} {json : JsFields} (failed : status ≠ 200) :
      Handled cloud calls body { replies := [⟨status, json⟩] }
  | stored {userId userAnswer date : JsValue} {questionData : String → JsValue} {correct : String}
      {isCorrect : Bool} (userIdOf : body.property "userId" = .ok userId)
      (userAnswerOf : body.property "userAnswer" = .ok userAnswer)
      (dateOf : body.property "date" = .ok date) (dated : date.isTruthy)
      (read : calls.getQuestion date = .ok (some questionData))
      (asked : (questionData "correctAnswer").isTruthy)
      (text : cloud.toText (questionData "correctAnswer") = .ok correct) :
      Handled cloud calls body {
        replies := [acknowledgement isCorrect (questionData "correctAnswer")]
        added := [responseOf userId userAnswer date isCorrect] }

variable {cloud : Cloud} {calls : FirestoreCalls} {body : JsValue}

/-- The properties of a body can be read, unless it is missing. -/
theorem property_of_body (body : JsValue) :
    (body = .undefined ∨ body = .null) ∨ ∀ name, ∃ value, body.property name = .ok value := by
  cases body with
  | undefined => exact .inl (.inl rfl)
  | null => exact .inl (.inr rfl)
  | _ => exact .inr fun name => ⟨_, rfl⟩

/-- Every request ends in one of the two ways. -/
theorem handler_handled (cloud : Cloud) (calls : FirestoreCalls) (body : JsValue) :
    Handled cloud calls body (submitAnswerHandler cloud calls body) := by
  have failed : (500 : ℕ) ≠ 200 := by decide
  rcases property_of_body body with (rfl | rfl) | properties
  · exact .refused failed
  · exact .refused failed
  obtain ⟨userId, userIdOf⟩ := properties "userId"
  obtain ⟨userAnswer, userAnswerOf⟩ := properties "userAnswer"
  obtain ⟨date, dateOf⟩ := properties "date"
  by_cases complete : userId.isTruthy ∧ userAnswer.isTruthy ∧ date.isTruthy
  case neg =>
    rw [handler_incomplete userIdOf userAnswerOf dateOf complete]
    exact .refused (by decide)
  rcases read : calls.getQuestion date with thrown | _ | questionData
  · rw [handler_questionThrows userIdOf userAnswerOf dateOf complete read]
    exact .refused failed
  · rw [handler_notFound userIdOf userAnswerOf dateOf complete read]
    exact .refused (by decide)
  cases asked : (questionData "correctAnswer").isTruthy
  · rw [handler_noCorrectAnswer userIdOf userAnswerOf dateOf complete read asked]
    exact .refused failed
  cases trims : userAnswer.trim cloud with
  | error thrown =>
    rw [handler_trimThrows userIdOf userAnswerOf dateOf complete read asked trims]
    exact .refused failed
  | ok answer =>
    cases text : cloud.toText (questionData "correctAnswer") with
    | error thrown =>
      rw [handler_textThrows userIdOf userAnswerOf dateOf complete read asked trims text]
      exact .refused failed
    | ok correct =>
      cases stores : calls.addResponse (responseOf userId userAnswer date
          (cloud.toLowerCase answer == cloud.toLowerCase (cloud.trim correct))) with
      | error thrown =>
        rw [handler_addThrows userIdOf userAnswerOf dateOf complete read asked trims text stores]
        exact .refused failed
      | ok _ =>
        rw [handler_stored userIdOf userAnswerOf dateOf complete read asked trims text rfl stores]
        exact .stored userIdOf userAnswerOf dateOf complete.2.2 read asked text

/-! ## What is acknowledged -/

/-- JSON writes something of a stored answer that the handler accepts, and not null. -/
def Sendable (cloud : Cloud) (correctAnswer : JsValue) : Prop :=
  correctAnswer.isTruthy → (∃ text, cloud.toText correctAnswer = .ok text) →
    ∃ json, correctAnswer.json = some json ∧ json ≠ .null ∧ json ≠ .undefined

theorem sendable_of_isJson {correctAnswer : JsValue} (json : correctAnswer.IsJson) :
    Sendable cloud correctAnswer := by
  rintro asked -
  refine ⟨correctAnswer, json, ?_, ?_⟩
  all_goals
    rintro rfl
    cases asked

theorem acknowledgement_correct (correctAnswer : JsValue) :
    acknowledgement true correctAnswer =
      ⟨200, [("correct", .boolean true), ("correctAnswer", .null)]⟩ :=
  rfl

theorem acknowledgement_incorrect {correctAnswer json : JsValue}
    (written : correctAnswer.json = some json) (sent : json ≠ .undefined) :
    acknowledgement false correctAnswer =
      ⟨200, [("correct", .boolean false), ("correctAnswer", json)]⟩ := by
  cases json <;>
    simp_all [acknowledgement, JsValue.jsonMembers, JsValue.json]

theorem acknowledgement_nothing {correctAnswer : JsValue}
    (written : correctAnswer.json = some .undefined) :
    acknowledgement false correctAnswer = ⟨200, [("correct", .boolean false)]⟩ := by
  simp [acknowledgement, JsValue.jsonMembers, JsValue.json, written]

/-- Where JSON cannot write the correct answer, the reply fails. -/
theorem acknowledgement_unwritten {correctAnswer : JsValue} (unwritten : correctAnswer.json = none) :
    (acknowledgement false correctAnswer).status = 500 := by
  simp [acknowledgement, JsValue.jsonMembers, JsValue.json, unwritten]

/-- What the handler does for one request: `getQuestion` reads the questions collection. -/
structure RecordsWhatItSends (getQuestion : JsValue → Except JsThrown (Option (String → JsValue)))
    (body : JsValue) (exchange : Exchange) : Prop where
  once : exchange.replies.length = 1
  recorded : ∀ reply ∈ exchange.replies,
    exchange.added.length = if reply.status = 200 then 1 else 0
  request : ∀ reply ∈ exchange.replies, reply.status = 200 → ∀ document ∈ exchange.added,
    ∀ name ∈ ["userId", "date", "userAnswer"],
      ∃ value, body.property name = .ok value ∧ document.lookup name = some value
  outcome : ∀ reply ∈ exchange.replies, reply.status = 200 → ∀ document ∈ exchange.added,
    ∃ correct, document.lookup "correct" = some (.boolean correct) ∧
      reply.json.lookup "correct" = some (.boolean correct) ∧
      (reply.json.lookup "correctAnswer" = some .null ↔ correct = true) ∧
      (correct = false → ∃ date question, body.property "date" = .ok date ∧
        getQuestion date = .ok (some question) ∧
        reply.json.lookup "correctAnswer" = (question "correctAnswer").json)

/-- Every request is recorded as it is acknowledged, however its calls end. -/
def RecordsAllItSends (cloud : Cloud)
    (getQuestion : JsValue → Except JsThrown (Option (String → JsValue))) : Prop :=
  ∀ addResponse body, JsValue.IsJson body → RecordsWhatItSends getQuestion body
    (submitAnswerHandler cloud ⟨getQuestion, addResponse⟩ body)

variable {getQuestion : JsValue → Except JsThrown (Option (String → JsValue))}
variable {addResponse : JsFields → Except JsThrown Unit}

theorem refused_recordsWhatItSends {reply : HttpReply} (failed : reply.status ≠ 200) :
    RecordsWhatItSends getQuestion body { replies := [reply] } := by
  constructor <;> simp [failed]

theorem acknowledged_recordsWhatItSends {document json : JsFields} {correct : Bool}
    (request : ∀ name ∈ ["userId", "date", "userAnswer"],
      ∃ value, body.property name = .ok value ∧ document.lookup name = some value)
    (stored : document.lookup "correct" = some (.boolean correct))
    (sent : json.lookup "correct" = some (.boolean correct))
    (no_answer : json.lookup "correctAnswer" = some .null ↔ correct = true)
    (answer : correct = false → ∃ date question, body.property "date" = .ok date ∧
      getQuestion date = .ok (some question) ∧
      json.lookup "correctAnswer" = (question "correctAnswer").json) :
    RecordsWhatItSends getQuestion body { replies := [⟨200, json⟩], added := [document] } where
  once := rfl
  recorded := by simp
  request reply _ _ recorded present := by
    obtain rfl := List.mem_singleton.mp present
    exact request
  outcome reply replied _ recorded present := by
    obtain rfl := List.mem_singleton.mp replied
    obtain rfl := List.mem_singleton.mp present
    exact ⟨correct, stored, sent, no_answer, answer⟩

/-- A request is recorded as it is acknowledged if the answer at its date can be sent. -/
theorem handler_recordsWhatItSends (json : body.IsJson)
    (sendable : ∀ date question, JsValue.IsJson date → date.isTruthy →
      getQuestion date = .ok (some question) → Sendable cloud (question "correctAnswer")) :
    RecordsWhatItSends getQuestion body
      (submitAnswerHandler cloud ⟨getQuestion, addResponse⟩ body) := by
  have handled := handler_handled cloud ⟨getQuestion, addResponse⟩ body
  generalize submitAnswerHandler cloud ⟨getQuestion, addResponse⟩ body = exchange at handled ⊢
  cases handled with
  | refused failed => exact refused_recordsWhatItSends failed
  | @stored userId userAnswer date question correct isCorrect userIdOf userAnswerOf dateOf dated
      read asked text =>
    have request : ∀ name ∈ ["userId", "date", "userAnswer"], ∃ value,
        body.property name = .ok value ∧
          (responseOf userId userAnswer date isCorrect).lookup name = some value := by
      intro name sent
      simp only [List.mem_cons, List.not_mem_nil, or_false] at sent
      rcases sent with rfl | rfl | rfl
      · exact ⟨userId, userIdOf, rfl⟩
      · exact ⟨date, dateOf, rfl⟩
      · exact ⟨userAnswer, userAnswerOf, rfl⟩
    cases isCorrect with
    | true =>
      rw [acknowledgement_correct]
      apply acknowledged_recordsWhatItSends request rfl rfl
      · exact ⟨fun _ => rfl, fun _ => rfl⟩
      · exact nofun
    | false =>
      obtain ⟨answer, written, not_null, sent⟩ :=
        sendable date question (isJson_property json dateOf) dated read asked ⟨correct, text⟩
      rw [acknowledgement_incorrect written sent]
      apply acknowledged_recordsWhatItSends request rfl rfl
      · exact ⟨fun null => absurd (Option.some.inj null) not_null, nofun⟩
      · exact fun _ => ⟨date, question, dateOf, read, written.symm⟩

/-- The request of a player who answers the question at a date. -/
def answerRequest (answer : String) (date : JsValue) : JsValue :=
  .object [("userId", .string "annie"), ("userAnswer", .string answer), ("date", date)]

theorem answerRequest_isJson {answer : String} {date : JsValue} (json : date.IsJson)
    (dated : date.isTruthy) : (answerRequest answer date).IsJson := by
  have written : date.json = some date := json
  simp only [answerRequest, JsValue.IsJson, JsValue.json, JsValue.jsonMembers, written,
    Option.bind_some, Option.map_some]
  cases date with
  | undefined => cases dated
  | _ => rfl

/-- A wrong answer is recorded also where the correct one cannot be sent. -/
theorem handler_incorrect {date : JsValue} {question : String → JsValue} {answer correct : String}
    (answered : answer ≠ "") (dated : date.isTruthy) (read : getQuestion date = .ok (some question))
    (asked : (question "correctAnswer").isTruthy)
    (text : cloud.toText (question "correctAnswer") = .ok correct)
    (wrong : cloud.toLowerCase (cloud.trim answer) ≠ cloud.toLowerCase (cloud.trim correct)) :
    submitAnswerHandler cloud ⟨getQuestion, fun _ => .ok ()⟩ (answerRequest answer date) = {
      replies := [acknowledgement false (question "correctAnswer")]
      added := [responseOf (.string "annie") (.string answer) date false] } :=
  handler_stored rfl rfl rfl ⟨rfl, isTruthy_string.mpr answered, dated⟩ read asked rfl text
    (beq_eq_false_iff_ne.mpr wrong) rfl

/-- A question whose answer cannot be sent has an answer that is not recorded as acknowledged. -/
theorem sendable_of_recordsWhatItSends
    (cleans : cloud.toLowerCase (cloud.trim "a") ≠ cloud.toLowerCase (cloud.trim "b"))
    (records : RecordsAllItSends cloud getQuestion)
    {date : JsValue} {question : String → JsValue} (json : date.IsJson) (dated : date.isTruthy)
    (read : getQuestion date = .ok (some question)) :
    Sendable cloud (question "correctAnswer") := by
  rintro asked ⟨correct, text⟩
  -- one of two answers is wrong
  obtain ⟨answer, answered, wrong⟩ : ∃ answer, answer ≠ "" ∧
      cloud.toLowerCase (cloud.trim answer) ≠ cloud.toLowerCase (cloud.trim correct) := by
    by_cases first : cloud.toLowerCase (cloud.trim "a") = cloud.toLowerCase (cloud.trim correct)
    · exact ⟨"b", by decide, fun second => cleans (first.trans second.symm)⟩
    · exact ⟨"a", by decide, first⟩
  have recorded := records (fun _ => .ok ()) (answerRequest answer date)
    (answerRequest_isJson json dated)
  rw [handler_incorrect answered dated read asked text wrong] at recorded
  have acknowledged := recorded.recorded _ (List.mem_singleton_self _)
  cases written : (question "correctAnswer").json with
  | none =>
    -- the reply is an error, but the answer is recorded
    rw [acknowledgement_unwritten written] at acknowledged
    cases acknowledged
  | some sent =>
    refine ⟨sent, rfl, ?_, ?_⟩
    · rintro rfl
      rw [acknowledgement_incorrect written nofun] at recorded
      obtain ⟨isCorrect, -, sent, null, -⟩ :=
        recorded.outcome _ (List.mem_singleton_self _) rfl _ (List.mem_singleton_self _)
      cases null.mp rfl
      cases sent
    · rintro rfl
      rw [acknowledgement_nothing written] at recorded
      obtain ⟨isCorrect, -, sent, -, answer⟩ :=
        recorded.outcome _ (List.mem_singleton_self _) rfl _ (List.mem_singleton_self _)
      cases sent
      obtain ⟨_, found, dateOf, again, missing⟩ := answer rfl
      cases dateOf
      cases read.symm.trans again
      rw [written] at missing
      cases missing

/-- The handler records what it acknowledges exactly if JSON can write every correct answer that
it accepts. -/
theorem handler_records_iff_sendable
    (cleans : cloud.toLowerCase (cloud.trim "a") ≠ cloud.toLowerCase (cloud.trim "b")) :
    RecordsAllItSends cloud getQuestion ↔
      ∀ date question, JsValue.IsJson date → date.isTruthy →
        getQuestion date = .ok (some question) → Sendable cloud (question "correctAnswer") := by
  constructor
  · intro records date question json dated read
    exact sendable_of_recordsWhatItSends cleans records json dated read
  · intro sendable addResponse body json
    exact handler_recordsWhatItSends json sendable

/-- A collection with one question for every date. -/
def everyDay (correctAnswer : JsValue) : JsValue → Except JsThrown (Option (String → JsValue)) :=
  fun _ => .ok (some fun name => if name = "correctAnswer" then correctAnswer else .undefined)

theorem handler_records_paris : RecordsAllItSends plainCloud (everyDay (.string "Paris")) := by
  apply (handler_records_iff_sendable (by decide +kernel)).mpr
  rintro date question - - read
  cases read
  have json : (JsValue.string "Paris").IsJson := rfl
  exact sendable_of_isJson json

/-- Infinity is stored as an answer, and JSON writes it as null. -/
theorem infiniteAnswer_notAcknowledged :
    (answerRequest "Paris" (.string "20250301")).IsJson ∧
    ¬ RecordsWhatItSends (everyDay (.number (.infinite false)))
      (answerRequest "Paris" (.string "20250301"))
      (submitAnswerHandler plainCloud ⟨everyDay (.number (.infinite false)), fun _ => .ok ()⟩
        (answerRequest "Paris" (.string "20250301"))) := by
  refine ⟨rfl, fun records => ?_⟩
  rw [handler_incorrect (by decide) rfl rfl rfl rfl (by decide +kernel)] at records
  obtain ⟨isCorrect, -, sent, null, -⟩ :=
    records.outcome _ (List.mem_singleton_self _) rfl _ (List.mem_singleton_self _)
  cases null.mp rfl
  cases sent

end DailyTrivia
