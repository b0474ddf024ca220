import DailyTrivia.App
import DailyTrivia.CloudFunction

/-!
Submissions by both paths. The app stores an answer under responses/{username}/responses/{day},
where the app also looks for it. The cloud function adds one to responses, under a new id and in
fields of other names, where nothing looks for it.

A run of submissions is observed to keep every accepted one, so that what the readers find can be
compared with the last submission of a username for a day.
-/
namespace DailyTrivia

open Documents Runs Function

/-! ## The cloud function on the store -/

/-- What JavaScript reads of a stored value. -/
def JsValue.ofValue : Value → JsValue
  | .null => .null
  | .string text => .string text
  | .int value => .number (.finite value)
  | .double value => .number value
  | .bool flag => .boolean flag
  | .strings texts => .array (texts.map .string)
  | .timestamp => .object []

/-- The values that a request with three strings stores. -/
def JsValue.toValue : JsValue → Option Value
  | .string text => some (.string text)
  | .boolean flag => some (.bool flag)
  | .serverTimestamp => some .timestamp
  | _ => none

/-- `questionDoc.data()` -/
def snapshotData (document : Doc) (name : String) : JsValue :=
  ((document name).map JsValue.ofValue).getD .undefined

/-- The document that is added. -/
def addedDocument (data : JsFields) : Doc := fun name => (data.lookup name).bind JsValue.toValue

/-- The two calls on the store, neither of which is rejected. -/
def storedCalls (cloud : Cloud) (documents : Store CollectionRef) : FirestoreCalls where
  getQuestion
    | .string path =>
      match cloud.questionDoc path with
      | some ref => .ok ((get documents ref).map snapshotData)
      | none => .error (.error "Invalid document path")
    | _ => .error (.error "Invalid document path")
  addResponse _ := .ok ()

/-- A request with three strings, handled on the store. -/
def handled (cloud : Cloud) (documents : Store CollectionRef)
    (userId userAnswer date : String) : Exchange :=
  submitAnswerHandler cloud (storedCalls cloud documents) (stringRequest userId userAnswer date)

/-! ## Submissions -/

/-- A submission whose calls are executed. -/
inductive Submission where
  /-- `GameService.submitAnswer`, on a day. -/
  | app (question : TriviaQuestion) (answerText username day : String)
  /-- A request to the cloud function; the id is what a response would be added under. -/
  | http (userId userAnswer date id : String)

/-- An accepted submission. -/
structure Submitted where
  username : String
  day : String
  answerText : String
  outcome : Bool
  deriving DecidableEq

/-- What is accepted, if the submission is. -/
def accepted (platform : Platform) (cloud : Cloud) (documents : Store CollectionRef) :
    Submission → Option Submitted
  | .app question answerText username day =>
    some ⟨username, day, answerText, isCorrect platform question answerText⟩
  | .http userId userAnswer date _ =>
    (handled cloud documents userId userAnswer date).replies.head?.bind fun reply =>
      match reply.status, reply.json.lookup "correct" with
      | 200, some (.boolean outcome) => some ⟨userId, date, userAnswer, outcome⟩
      | _, _ => none

def submit (platform : Platform) (cloud : Cloud) (documents : Store CollectionRef) :
    Submission → Option (Store CollectionRef)
  | .app question answerText username day => some
    (set documents (responseRef username day) (responseData platform question answerText username))
  | .http userId userAnswer date id =>
    if (get documents ⟨.allResponses, id⟩).isSome then none
    else some ((handled cloud documents userId userAnswer date).added.foldl
      (fun documents data => set documents ⟨.allResponses, id⟩ (addedDocument data)) documents)

def observeSubmitted (platform : Platform) (cloud : Cloud) (log : List Submitted)
    (documents : Store CollectionRef) (submission : Submission) : List Submitted :=
  log ++ (accepted platform cloud documents submission).toList

/-- The store and the accepted submissions. -/
abbrev submissionStep (platform : Platform) (cloud : Cloud) :
    Store CollectionRef × List Submitted → Submission →
      Option (Store CollectionRef × List Submitted) :=
  Observed (submit platform cloud) (observeSubmitted platform cloud)

/-- The last accepted submission of a username for a day. -/
def lastFor (log : List Submitted) (username day : String) : Option Submitted :=
  (log.filter fun submitted => submitted.username = username ∧ submitted.day = day).getLast?

/-! ## Readers -/

/-- A game view that has just opened. -/
def openedView : Device := { views := update (fun _ => none) 0 (some {}) }

/-- What `checkResponseExists` finds on a day. -/
def foundAnswer (documents : Store CollectionRef) (username day : String) :
    Option SubmittedAnswer :=
  match openedView.checkResponseExists 0 day (get documents (responseRef username day)) with
  | .ok checked => checked.submittedAnswer 0
  | .error _ => none

/-- The days whose response the query for correct answers returns. -/
def correctDays (documents : Store CollectionRef) (username : String) : List String :=
  ((documents (.responses username)).entries.filter fun entry =>
    entry.2 "answerOutcome" == some (.bool true)).map Sigma.fst

/-- Nobody has responded yet. -/
def NoResponses (documents : Store CollectionRef) : Prop :=
  ∀ username day, get documents (responseRef username day) = none

/-- The readers find the last accepted submission of every username and day. -/
structure RecordsSeen (platform : Platform) (cloud : Cloud)
    (allowed : String → String → Store CollectionRef → Submission → Prop) : Prop where
  found : ∀ (start : Store CollectionRef) (after : Store CollectionRef × List Submitted)
    (submissions : List Submission) (username day : String), NoResponses start →
    Run (submissionStep platform cloud) (fun s => allowed username day s.1) (start, [])
      submissions after →
    (foundAnswer after.1 username day).map (fun answer => (answer.userAnswer, answer.answerOutcome)) =
      (lastFor after.2 username day).map fun last => (last.answerText, last.outcome)
  counted : ∀ (start : Store CollectionRef) (after : Store CollectionRef × List Submitted)
    (submissions : List Submission) (username day : String), NoResponses start →
    Run (submissionStep platform cloud) (fun s => allowed username day s.1) (start, [])
      submissions after →
    (day ∈ correctDays after.1 username ↔
      ∃ last, lastFor after.2 username day = some last ∧ last.outcome = true)

/-- A complete request, about a question with a correct answer. -/
def Answerable (cloud : Cloud) (documents : Store CollectionRef)
    (userId userAnswer date : String) : Prop :=
  userId ≠ "" ∧ userAnswer ≠ "" ∧ date ≠ "" ∧ ∃ ref question, cloud.questionDoc date = some ref ∧
    get documents ref = some question ∧ (snapshotData question "correctAnswer").isTruthy = true

/-- A username's answers for a day go through the app, as answers to the question of that day. -/
def ThroughApp (cloud : Cloud) (username day : String) (documents : Store CollectionRef) :
    Submission → Prop
  | .app question _ user today => user = username → today = day → question.date = day
  | .http userId userAnswer date _ => userId = username → date = day →
    ¬ Answerable cloud documents userId userAnswer date

variable {platform : Platform} {cloud : Cloud} {documents documents' : Store CollectionRef}
variable {log : List Submitted} {username day : String} {submission : Submission}

/-- The app's submission is the write of its task. -/
theorem submit_app (backend : Backend) (v : ℕ) (question : TriviaQuestion)
    (answerText username day : String) :
    (serve platform backend (call platform
      (.submit v (.writeResponse question answerText username day)))).map
        (fun served => served.1.documents) =
    submit platform cloud backend.documents (.app question answerText username day) := rfl

theorem lastFor_append (submitted : Submitted) :
    lastFor (log ++ [submitted]) username day =
      if submitted.username = username ∧ submitted.day = day then some submitted
      else lastFor log username day := by
  unfold lastFor
  rw [List.filter_append]
  split
  · simp [*]
  · simp [*]

theorem mem_correctDays : day ∈ correctDays documents username ↔ ∃ document,
    get documents (responseRef username day) = some document ∧
      document "answerOutcome" = some (.bool true) := by
  simp only [correctDays, List.mem_map, List.mem_filter, beq_iff_eq]
  constructor
  · rintro ⟨⟨id, document⟩, ⟨listed, correct⟩, rfl⟩
    exact ⟨document, AList.mem_lookup_iff.mpr listed, correct⟩
  · rintro ⟨document, stored, correct⟩
    exact ⟨⟨day, document⟩, ⟨AList.mem_lookup_iff.mp stored, correct⟩, rfl⟩

/-- A response of the day is found as it was submitted. -/
theorem foundAnswer_of_response {question : TriviaQuestion} {answerText : String}
    (stored : get documents (responseRef username day) =
      some (responseData platform question answerText username)) (dated : question.date = day) :
    foundAnswer documents username day = some (submitted platform question answerText) := by
  have today : (responseData platform question answerText username).string "date" = some day := by
    rw [← dated]
    rfl
  simp [foundAnswer, stored, Device.checkResponseExists, today, decode_responseData, openedView,
    Device.onView, Device.submittedAnswer]

theorem foundAnswer_of_none (stored : get documents (responseRef username day) = none) :
    foundAnswer documents username day = none := by
  rw [foundAnswer, stored]
  rfl

/-- What is stored for a username and a day is the last submission, if it went through the app. -/
def LastStored (platform : Platform) (documents : Store CollectionRef) (log : List Submitted)
    (username day : String) : Prop :=
  (lastFor log username day = none ∧ get documents (responseRef username day) = none) ∨
  ∃ question answerText, question.date = day ∧
    lastFor log username day =
      some ⟨username, day, answerText, isCorrect platform question answerText⟩ ∧
    get documents (responseRef username day) =
      some (responseData platform question answerText username)

theorem get_of_added (added : List JsFields) (id : String) :
    get (added.foldl (fun documents data =>
      set documents ⟨.allResponses, id⟩ (addedDocument data)) documents) (responseRef username day) =
    get documents (responseRef username day) := by
  induction added generalizing documents with
  | nil => rfl
  | cons data rest ih => rw [List.foldl_cons, ih, get_set_ne (by simp [responseRef])]

/-- A request adds no response where the app looks for one. -/
theorem get_of_http {userId userAnswer date id : String}
    (submits : submit platform cloud documents (.http userId userAnswer date id) = some documents') :
    get documents' (responseRef username day) = get documents (responseRef username day) := by
  simp only [submit] at submits
  split at submits
  · cases submits
  · obtain rfl := Option.some.inj submits
    exact get_of_added _ id

theorem accepted_http {userId userAnswer date id : String} {entry : Submitted}
    (accepts : accepted platform cloud documents (.http userId userAnswer date id) = some entry) :
    entry.username = userId ∧ entry.day = date := by
  obtain ⟨reply, _, accepts⟩ := Option.bind_eq_some_iff.mp accepts
  split at accepts <;> cases accepts
  exact ⟨rfl, rfl⟩

/-- A request is accepted only if it is complete and its question has a correct answer. -/
theorem answerable_of_accepted {userId userAnswer date id : String} {entry : Submitted}
    (accepts : accepted platform cloud documents (.http userId userAnswer date id) = some entry) :
    Answerable cloud documents userId userAnswer date := by
  simp only [accepted, handled] at accepts
  by_cases complete : (JsValue.string userId).isTruthy ∧ (JsValue.string userAnswer).isTruthy ∧
    (JsValue.string date).isTruthy
  · refine ⟨isTruthy_string.mp complete.1, isTruthy_string.mp complete.2.1,
      isTruthy_string.mp complete.2.2, ?_⟩
    cases named : cloud.questionDoc date with
    | none =>
      have read : (storedCalls cloud documents).getQuestion (.string date) =
          .error (.error "Invalid document path") := by
        simp [storedCalls, named]
      rw [handler_questionThrows rfl rfl rfl complete read] at accepts
      cases accepts
    | some ref =>
      have read : (storedCalls cloud documents).getQuestion (.string date) =
          .ok ((get documents ref).map snapshotData) := by
        simp [storedCalls, named]
      cases stored : get documents ref with
      | none =>
        rw [stored] at read
        rw [handler_notFound rfl rfl rfl complete read] at accepts
        cases accepts
      | some question =>
        rw [stored] at read
        refine ⟨ref, question, rfl, stored, ?_⟩
        by_contra missing
        rw [handler_noCorrectAnswer rfl rfl rfl complete read (Bool.eq_false_iff.mpr missing)]
          at accepts
        cases accepts
  · rw [handler_incomplete rfl rfl rfl complete] at accepts
    cases accepts

theorem lastStored_step (held : LastStored platform documents log username day)
    (through : ThroughApp cloud username day documents submission)
    (submits : submit platform cloud documents submission = some documents') :
    LastStored platform documents' (observeSubmitted platform cloud log documents submission)
      username day := by
  cases submission with
  | app question answerText user today =>
    obtain rfl := Option.some.inj submits
    simp only [observeSubmitted, accepted, Option.toList_some]
    by_cases here : user = username ∧ today = day
    · obtain ⟨rfl, rfl⟩ := here
      refine .inr ⟨question, answerText, through rfl rfl, ?_, get_set_self⟩
      rw [lastFor_append, if_pos ⟨rfl, rfl⟩]
    · have apart : responseRef username day ≠ responseRef user today := by
        intro same
        simp only [responseRef, Ref.mk.injEq, CollectionRef.responses.injEq] at same
        exact here ⟨same.1.symm, same.2.symm⟩
      rw [LastStored, lastFor_append, if_neg here, get_set_ne apart]
      exact held
  | http userId userAnswer date id =>
    have kept : lastFor (observeSubmitted platform cloud log documents
        (.http userId userAnswer date id)) username day = lastFor log username day := by
      cases accepts : accepted platform cloud documents (.http userId userAnswer date id) with
      | none => simp [observeSubmitted, accepts]
      | some entry =>
        obtain ⟨owner, dated⟩ := accepted_http accepts
        have elsewhere : ¬ (entry.username = username ∧ entry.day = day) := by
          rintro ⟨rfl, rfl⟩
          exact through owner.symm dated.symm (answerable_of_accepted accepts)
        rw [observeSubmitted, accepts, Option.toList_some, lastFor_append, if_neg elsewhere]
    rw [LastStored, kept, get_of_http submits]
    exact held

theorem lastStored_run {start : Store CollectionRef}
    {after : Store CollectionRef × List Submitted} {submissions : List Submission}
    (empty : NoResponses start) (run : Run (submissionStep platform cloud)
      (fun s => ThroughApp cloud username day s.1) (start, []) submissions after) :
    LastStored platform after.1 after.2 username day := by
  refine run.invariant (fun s => LastStored platform s.1 s.2 username day)
    (.inl ⟨rfl, empty username day⟩) ?_
  rintro before submission after held through moved
  obtain ⟨submits, recorded⟩ := observed_eq_some.mp moved
  rw [← recorded]
  exact lastStored_step held through submits

/-- What goes through the app is what the readers find. -/
theorem recordsSeen_of_throughApp (platform : Platform) (cloud : Cloud) :
    RecordsSeen platform cloud (ThroughApp cloud) where
  found start after submissions username day empty run := by
    rcases lastStored_run empty run with ⟨none, absent⟩ | ⟨question, answerText, dated, last, stored⟩
    · rw [none, foundAnswer_of_none absent]
      rfl
    · rw [last, foundAnswer_of_response stored dated]
      rfl
  counted start after submissions username day empty run := by
    rw [mem_correctDays]
    rcases lastStored_run empty run with ⟨none, absent⟩ | ⟨question, answerText, dated, last, stored⟩
    · simp [none, absent]
    · rw [last, stored]
      constructor
      · rintro ⟨document, same, correct⟩
        cases same
        exact ⟨_, rfl, Value.bool.inj (Option.some.inj correct)⟩
      · rintro ⟨entry, same, correct⟩
        cases same
        exact ⟨_, rfl, congrArg (fun outcome => some (Value.bool outcome)) correct⟩

/-- A correct answer over HTTP. -/
theorem answered_overHttp :
    (execute (submissionStep march plainCloud) ((firstLaunch [capital]).store.documents, [])
      [.http "annie" "Paris" "20250301" "auto"]).map (fun after =>
        ((foundAnswer after.1 "annie" "20250301").isSome,
          (lastFor after.2 "annie" "20250301").isSome)) = some (false, true) := by
  decide +kernel

/-- A submission that the cloud function has accepted is not found. -/
theorem not_recordsSeen : ¬ RecordsSeen march plainCloud fun _ _ => Any := by
  intro claim
  obtain ⟨after, ran, reached⟩ := Option.map_eq_some_iff.mp answered_overHttp
  obtain ⟨lost, submitted⟩ := Prod.mk.inj reached
  have found := claim.found _ after _ "annie" "20250301" (fun _ _ => rfl)
    (.of_execute (fun _ _ _ => trivial) ran)
  have both := congrArg Option.isSome found
  rw [Option.isSome_map, Option.isSome_map, lost, submitted] at both
  cases both

end DailyTrivia
