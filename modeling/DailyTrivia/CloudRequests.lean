import DailyTrivia.Acknowledgements
import DailyTrivia.Programs
import DailyTrivia.Submissions

/-!
Requests to the cloud function while everybody else goes on. A request is suspended at each of its
two Firestore calls, so the store may change between them, and an instance that is stopped ends its
requests without a reply. A request that comes to its end has nevertheless done what the handler
does in one go, with the question as it was at some moment.
-/
namespace DailyTrivia

open Documents Programs Runs

/-! ## The handler in three segments -/

/-- `db.collection("questions").doc(date)` -/
def questionDoc (cloud : Cloud) : JsValue → Except JsThrown DocumentRef
  | .string path =>
    match cloud.questionDoc path with
    | some ref => .ok ref
    | none => .error (.error "Invalid document path")
  | _ => .error (.error "Invalid document path")

/-- A request that asks for a question. -/
structure Asked where
  userId : JsValue
  userAnswer : JsValue
  date : JsValue
  question : DocumentRef

/-- A response that is to be added. -/
structure Graded where
  response : JsFields
  isCorrect : Bool
  correctAnswer : JsValue

/-- `submitAnswer` up to the read. -/
def beginSubmit (cloud : Cloud) (body : JsValue) : Handler (Option Asked) := do
  let userId ← orThrow (body.property "userId")
  let userAnswer ← orThrow (body.property "userAnswer")
  let date ← orThrow (body.property "date")
  if !userId.isTruthy || !userAnswer.isTruthy || !date.isTruthy then
    respond 400 [("error", .string "Missing required fields: userId, userAnswer, and date.")]
    return none
  let question ← orThrow (questionDoc cloud date)
  return some { userId, userAnswer, date, question }

/-- `submitAnswer` from the read to the write. -/
def gradeSubmit (cloud : Cloud) (asked : Asked) (snapshot : Option (String → JsValue)) :
    Handler (Option Graded) := do
  let some questionData := snapshot
    | respond 404 [("error", .string "No question found for the given date.")]
      return none
  let correctAnswer := questionData "correctAnswer"
  if !correctAnswer.isTruthy then
    respond 500
      [("error", .string "Question data is incomplete. Missing correctAnswer field.")]
    return none
  let userAnswerCleaned := cloud.toLowerCase (← orThrow (asked.userAnswer.trim cloud))
  let correctAnswerCleaned := cloud.toLowerCase (cloud.trim (← orThrow (cloud.toText correctAnswer)))
  let isCorrect := userAnswerCleaned == correctAnswerCleaned
  return some {
    response := [("userId", asked.userId), ("date", asked.date), ("userAnswer", asked.userAnswer),
      ("correct", .boolean isCorrect), ("timestamp", .serverTimestamp)]
    isCorrect
    correctAnswer }

/-- `submitAnswer` after the write. -/
def endSubmit (graded : Graded) : Handler Unit := do
  modify fun exchange => { exchange with added := exchange.added ++ [graded.response] }
  respond 200 [("correct", .boolean graded.isCorrect),
    ("correctAnswer", if graded.isCorrect then .null else graded.correctAnswer)]

/-- A segment inside the catch-all: what it leaves of the exchange, and its value. -/
def attempt {α : Type} (segment : Handler α) (exchange : Exchange) : Exchange × Option α :=
  match segment.run.run exchange with
  | (.ok value, exchange) => (exchange, some value)
  | (.error thrown, exchange) => ({ exchange with
      replies := exchange.replies ++ [⟨500, [("error", .string "Internal server error"),
        ("details", .string thrown.message)]⟩] }, none)

/-- The calls of a request whose read and write end like this. -/
def answeredCalls (cloud : Cloud) (read : DocumentRef → Except JsThrown (Option (String → JsValue)))
    (added : Except JsThrown Unit) : FirestoreCalls where
  getQuestion date := (questionDoc cloud date).bind read
  addResponse _ := added

/-! ## The function as a machine -/

/-- A request and what has been done for it. The id is the one a response is added under. -/
structure HttpRequest where
  body : JsValue
  id : String
  exchange : Exchange := {}

/-- A request is named after the call it awaits. -/
inductive RequestTask where
  | getQuestion (asked : Asked)
  | addResponse (graded : Graded) (id : String)

inductive CloudCall where
  | get (ref : DocumentRef)
  | add (id : String) (data : JsFields)

inductive CloudReply where
  | rejected
  | snapshot (data : Option (String → JsValue))
  | added

def RequestTask.call : RequestTask → CloudCall
  | .getQuestion asked => .get asked.question
  | .addResponse graded id => .add id graded.response

section Machine

variable (cloud : Cloud) (toDocument : JsFields → Doc) (rejection : JsThrown)

/-- The id of an added document is new. -/
def serveCloud (backend : Backend) : CloudCall → Option (Backend × CloudReply)
  | .get ref => some (backend, .snapshot ((get backend.documents ref).map snapshotData))
  | .add id data =>
    if (get backend.documents ⟨.allResponses, id⟩).isSome then none
    else some ({ backend with
      documents := set backend.documents ⟨.allResponses, id⟩ (toDocument data) }, .added)

def HttpRequest.proceed {α : Type} (request : HttpRequest) (segment : Handler α) :
    HttpRequest × Option α :=
  ({ request with exchange := (attempt segment request.exchange).1 },
    (attempt segment request.exchange).2)

def RequestTask.resume (task : RequestTask) (reply : CloudReply) (request : HttpRequest) :
    HttpRequest × Option RequestTask :=
  match task, reply with
  | .getQuestion asked, .snapshot data =>
    ((request.proceed (gradeSubmit cloud asked data)).1,
      (request.proceed (gradeSubmit cloud asked data)).2.join.map fun graded =>
        .addResponse graded request.id)
  | .addResponse graded _, .added => ((request.proceed (endSubmit graded)).1, none)
  | _, _ => ((request.proceed (throw rejection : Handler Unit)).1, none)

inductive CloudEvent where
  | request (body : JsValue) (id : String)

def reactCloud (event : CloudEvent) (site : Option HttpRequest) :
    Option (Option HttpRequest × Option RequestTask) :=
  match event, site with
  | .request body id, none =>
    some (some (HttpRequest.proceed { body, id } (beginSubmit cloud body)).1,
      (HttpRequest.proceed { body, id } (beginSubmit cloud body)).2.join.map .getQuestion)
  | _, some _ => none

/-- The cloud function, a site for each request. `toDocument` is how the Admin SDK stores fields, and
`rejection` what a failed call is rejected with. -/
def cloudFunction : Async.Machine Backend (Option HttpRequest) CloudCall CloudReply RequestTask
    CloudEvent where
  call := RequestTask.call
  serve := serveCloud toDocument
  refused := .rejected
  resume task reply site :=
    match site with
    | some request =>
      (some (task.resume cloud rejection reply request).1,
        (task.resume cloud rejection reply request).2)
    | none => (none, none)
  react := reactCloud cloud
  restart _ := none

end Machine

/-! ## The segments make up the handler -/

variable {cloud : Cloud} {body : JsValue} {exchange : Exchange} {α β : Type}
variable {read : DocumentRef → Except JsThrown (Option (String → JsValue))}
variable {added : Except JsThrown Unit}

theorem orThrow_ok (value : α) : orThrow (.ok value) = pure value := rfl

/-- The handler is its segments with the two calls between them. -/
theorem submitAnswerTry_segments (cloud : Cloud) (body : JsValue)
    (read : DocumentRef → Except JsThrown (Option (String → JsValue)))
    (added : Except JsThrown Unit) :
    submitAnswerTry cloud (answeredCalls cloud read added) body = (do
      let some asked ← beginSubmit cloud body | return
      let snapshot ← orThrow (read asked.question)
      let some graded ← gradeSubmit cloud asked snapshot | return
      orThrow added
      endSubmit graded) := by
  simp only [submitAnswerTry, beginSubmit]
  rcases body.property "userId" with thrown | userId
  · rfl
  rcases body.property "userAnswer" with thrown | userAnswer
  · rfl
  rcases body.property "date" with thrown | date
  · rfl
  simp only [orThrow_ok, pure_bind]
  by_cases missing : (!userId.isTruthy || !userAnswer.isTruthy || !date.isTruthy) = true
  · simp [missing]
  simp only [missing, Bool.false_eq_true, if_false, answeredCalls]
  rcases questionDoc cloud date with thrown | ref
  · rfl
  simp only [Except.bind, orThrow_ok, pure_bind]
  rcases read ref with thrown | snapshot
  · rfl
  simp only [orThrow_ok, pure_bind, gradeSubmit]
  rcases snapshot with _ | questionData
  · simp
  by_cases asked : (questionData "correctAnswer").isTruthy = true
  case neg => simp [asked]
  simp only [asked, Bool.not_true, Bool.false_eq_true, if_false]
  rcases userAnswer.trim cloud with thrown | answer
  · rfl
  rcases cloud.toText (questionData "correctAnswer") with thrown | correct
  · rfl
  rfl

/-- A segment that throws ends the handler; otherwise the next one goes on. -/
theorem attempt_bind (segment : Handler α) (next : α → Handler β) (exchange : Exchange) :
    attempt (segment >>= next) exchange =
      match attempt segment exchange with
      | (middle, some value) => attempt (next value) middle
      | (middle, none) => (middle, none) := by
  have run : (segment >>= next).run.run exchange =
      match segment.run.run exchange with
      | (.ok value, middle) => (next value).run.run middle
      | (.error thrown, middle) => (.error thrown, middle) := by
    simp only [ExceptT.run_bind, StateT.run_bind]
    rcases segment.run.run exchange with ⟨thrown | value, middle⟩ <;> rfl
  simp only [attempt, run]
  rcases segment.run.run exchange with ⟨thrown | value, middle⟩ <;> rfl

theorem handler_attempt (cloud : Cloud) (calls : FirestoreCalls) (body : JsValue) :
    submitAnswerHandler cloud calls body = (attempt (submitAnswerTry cloud calls body) {}).1 := by
  simp only [submitAnswerHandler, attempt]
  rcases (submitAnswerTry cloud calls body).run.run {} with ⟨thrown | value, exchange⟩ <;> rfl

theorem attempt_pure (value : α) (exchange : Exchange) :
    attempt (pure value) exchange = (exchange, some value) := rfl

/-- The end of a request whose answer is graded. -/
def afterWrite (graded : Graded) (added : Except JsThrown Unit) (exchange : Exchange) : Exchange :=
  match added with
  | .error thrown => (attempt (throw thrown : Handler Unit) exchange).1
  | .ok () => (attempt (endSubmit graded) exchange).1

/-- The rest of a request that has asked for its question. -/
def afterRead (cloud : Cloud) (asked : Asked) (question : Except JsThrown (Option (String → JsValue)))
    (added : Except JsThrown Unit) (exchange : Exchange) : Exchange :=
  match question with
  | .error thrown => (attempt (throw thrown : Handler Unit) exchange).1
  | .ok data =>
    match attempt (gradeSubmit cloud asked data) exchange with
    | (middle, some (some graded)) => afterWrite graded added middle
    | (middle, _) => middle

theorem handler_eq (cloud : Cloud) (body : JsValue)
    (read : DocumentRef → Except JsThrown (Option (String → JsValue)))
    (added : Except JsThrown Unit) :
    submitAnswerHandler cloud (answeredCalls cloud read added) body =
      match attempt (beginSubmit cloud body) {} with
      | (middle, some (some asked)) => afterRead cloud asked (read asked.question) added middle
      | (middle, _) => middle := by
  rw [handler_attempt, submitAnswerTry_segments, attempt_bind]
  rcases attempt (beginSubmit cloud body) {} with ⟨middle, _ | _ | asked⟩
  · rfl
  · rfl
  simp only [afterRead, attempt_bind]
  rcases read asked.question with thrown | data
  · rfl
  simp only [orThrow_ok, attempt_pure]
  rcases attempt (gradeSubmit cloud asked data) middle with ⟨middle, _ | _ | graded⟩
  · rfl
  · rfl
  simp only [attempt_bind, afterWrite]
  rcases added with thrown | ⟨⟨⟩⟩
  · rfl
  · rfl

/-! ## What a segment adds -/

/-- The segment adds no document. -/
def AddsNothing (segment : Handler α) : Prop :=
  ∀ exchange, (attempt segment exchange).1.added = exchange.added

theorem addsNothing_orThrow (result : Except JsThrown α) : AddsNothing (orThrow result) := by
  intro exchange
  cases result <;> rfl

theorem addsNothing_respond (status : ℕ) (json : JsFields) : AddsNothing (respond status json) := by
  intro exchange
  unfold respond
  split <;> rfl

theorem AddsNothing.bind {segment : Handler α} {next : α → Handler β} (first : AddsNothing segment)
    (second : ∀ value, AddsNothing (next value)) : AddsNothing (segment >>= next) := by
  intro exchange
  have before := first exchange
  rw [attempt_bind]
  cases ran : attempt segment exchange with
  | mk middle value =>
    rw [ran] at before
    cases value with
    | none => exact before
    | some value => exact (second value middle).trans before

theorem addsNothing_beginSubmit (cloud : Cloud) (body : JsValue) :
    AddsNothing (beginSubmit cloud body) := by
  apply (addsNothing_orThrow _).bind
  intro userId
  apply (addsNothing_orThrow _).bind
  intro userAnswer
  apply (addsNothing_orThrow _).bind
  intro date
  split
  · exact (addsNothing_respond _ _).bind fun _ _ => rfl
  · exact (addsNothing_orThrow _).bind fun _ _ => rfl

theorem addsNothing_gradeSubmit (cloud : Cloud) (asked : Asked)
    (snapshot : Option (String → JsValue)) : AddsNothing (gradeSubmit cloud asked snapshot) := by
  cases snapshot with
  | none => exact (addsNothing_respond _ _).bind fun _ _ => rfl
  | some questionData =>
    simp only [gradeSubmit]
    split
    · exact (addsNothing_respond _ _).bind fun _ _ => rfl
    · apply (addsNothing_orThrow _).bind
      intro answer
      exact (addsNothing_orThrow _).bind fun _ _ => rfl

theorem added_endSubmit (graded : Graded) (exchange : Exchange) :
    (attempt (endSubmit graded) exchange).1.added = exchange.added ++ [graded.response] := by
  have rest := addsNothing_respond 200 [("correct", .boolean graded.isCorrect),
    ("correctAnswer", if graded.isCorrect then .null else graded.correctAnswer)]
    { exchange with added := exchange.added ++ [graded.response] }
  rw [endSubmit, attempt_bind]
  exact rest

/-! ## What has become of a request

`Been` are the stores that there have been, and `store` is the one that there is. -/

section Faithful

variable (cloud : Cloud) (toDocument : JsFields → Doc) (rejection : JsThrown)
variable (Been : Backend → Prop) (store : Backend)

/-- A read of the question as it is at one moment. -/
def momentary (backend : Backend) : DocumentRef → Except JsThrown (Option (String → JsValue)) :=
  fun ref => .ok ((get backend.documents ref).map snapshotData)

/-- The handler has run in one go, with a read that is rejected or of one moment and a write that
is rejected or not; and the store has what was added. -/
structure HandledAtOnce (request : HttpRequest) : Prop where
  handled : ∃ read added,
    ((read = fun _ => .error rejection) ∨ ∃ backend, Been backend ∧ read = momentary backend) ∧
    (added = .error rejection ∨ added = .ok ()) ∧
    request.exchange = submitAnswerHandler cloud (answeredCalls cloud read added) request.body
  recorded : ∀ data ∈ request.exchange.added,
    get store.documents ⟨.allResponses, request.id⟩ = some (toDocument data)

/-- The request has come to this await. -/
def RequestTask.At (request : HttpRequest) : RequestTask → Prop
  | .getQuestion asked =>
    attempt (beginSubmit cloud request.body) {} = (request.exchange, some (some asked))
  | .addResponse graded id => id = request.id ∧ ∃ asked middle backend, Been backend ∧
    attempt (beginSubmit cloud request.body) {} = (middle, some (some asked)) ∧
    attempt (gradeSubmit cloud asked ((get backend.documents asked.question).map snapshotData))
      middle = (request.exchange, some (some graded))

/-- What was read was so at some moment, and what was added is in the store. -/
def RequestTask.HasReply : RequestTask → CloudReply → Prop
  | .getQuestion asked, .snapshot data => ∃ backend, Been backend ∧
    data = (get backend.documents asked.question).map snapshotData
  | .addResponse graded id, .added =>
    get store.documents ⟨.allResponses, id⟩ = some (toDocument graded.response)
  | _, _ => True

end Faithful

variable {toDocument : JsFields → Doc} {rejection : JsThrown} {Been Been' : Backend → Prop}
variable {store store' : Backend} {request request' : HttpRequest} {asked : Asked} {graded : Graded}
variable {task : RequestTask} {reply : CloudReply} {next : Option RequestTask}

/-- A request that asks for no question is handled. -/
theorem handledAtOnce_of_begin {id : String} {asks : Option (Option Asked)}
    (began : attempt (beginSubmit cloud body) {} = (exchange, asks)) (refused : asks.join = none) :
    HandledAtOnce cloud toDocument rejection Been store { body, id, exchange } where
  handled := by
    refine ⟨fun _ => .error rejection, .ok (), .inl rfl, .inr rfl, ?_⟩
    rw [handler_eq, began]
    rcases asks with _ | _ | asked
    · rfl
    · rfl
    · cases refused
  recorded := by
    have nothing := addsNothing_beginSubmit cloud body {}
    rw [began] at nothing
    intro data listed
    rw [show exchange.added = [] from nothing] at listed
    cases listed

/-- Up to the write nothing is added. -/
theorem added_of_at (here : task.At cloud Been request) : request.exchange.added = [] := by
  have first := addsNothing_beginSubmit cloud request.body {}
  cases task with
  | getQuestion asked =>
    rw [show attempt (beginSubmit cloud request.body) {} = _ from here] at first
    exact first
  | addResponse graded id =>
    obtain ⟨_, asked, middle, backend, _, began, graded⟩ := here
    have second := addsNothing_gradeSubmit cloud asked
      ((get backend.documents asked.question).map snapshotData) middle
    rw [began] at first
    rw [graded] at second
    exact second.trans first

/-- The handler in one go gets as far as the request. -/
theorem handler_of_getQuestion (here : (RequestTask.getQuestion asked).At cloud Been request)
    (read : DocumentRef → Except JsThrown (Option (String → JsValue)))
    (added : Except JsThrown Unit) :
    submitAnswerHandler cloud (answeredCalls cloud read added) request.body =
      afterRead cloud asked (read asked.question) added request.exchange := by
  rw [handler_eq, show attempt (beginSubmit cloud request.body) {} = _ from here]

theorem handler_of_addResponse {id : String}
    (here : (RequestTask.addResponse graded id).At cloud Been request) :
    ∃ backend, Been backend ∧ ∀ added,
      submitAnswerHandler cloud (answeredCalls cloud (momentary backend) added) request.body =
        afterWrite graded added request.exchange := by
  obtain ⟨_, asked, middle, backend, been, began, graded⟩ := here
  refine ⟨backend, been, fun added => ?_⟩
  simp only [handler_eq, began, momentary, afterRead, graded]

/-- A call that is rejected ends its request. -/
theorem handledAtOnce_of_rejected (here : task.At cloud Been request) :
    HandledAtOnce cloud toDocument rejection Been store
      (request.proceed (throw rejection : Handler Unit)).1 where
  handled := by
    cases task with
    | getQuestion asked =>
      refine ⟨fun _ => .error rejection, .ok (), .inl rfl, .inr rfl, ?_⟩
      exact (handler_of_getQuestion here (fun _ => .error rejection) (.ok ())).symm
    | addResponse graded id =>
      obtain ⟨backend, been, same⟩ := handler_of_addResponse here
      refine ⟨momentary backend, .error rejection, .inr ⟨backend, been, rfl⟩, .inl rfl, ?_⟩
      exact (same (.error rejection)).symm
  recorded := by
    have nothing : (request.proceed (throw rejection : Handler Unit)).1.exchange.added = [] :=
      (addsNothing_orThrow (.error rejection : Except JsThrown Unit) request.exchange).trans
        (added_of_at here)
    intro data listed
    rw [nothing] at listed
    cases listed

/-- A segment takes a request to its next await, or to its end. -/
theorem at_resume (here : task.At cloud Been request)
    (replied : task.HasReply toDocument Been store reply)
    (resumed : task.resume cloud rejection reply request = (request', next)) :
    (∀ task', next = some task' → task'.At cloud Been request') ∧
    (next = none → HandledAtOnce cloud toDocument rejection Been store request') := by
  cases task with
  | getQuestion asked =>
    cases reply with
    | rejected | added =>
      cases resumed
      exact ⟨nofun, fun _ => handledAtOnce_of_rejected here⟩
    | snapshot data =>
      obtain ⟨backend, been, rfl⟩ := replied
      have nothing := addsNothing_gradeSubmit cloud asked
        ((get backend.documents asked.question).map snapshotData) request.exchange
      have handler := handler_of_getQuestion here (momentary backend) (.ok ())
      cases ran : attempt (gradeSubmit cloud asked ((get backend.documents asked.question).map
          snapshotData)) request.exchange with
      | mk middle outcome =>
        simp only [RequestTask.resume, HttpRequest.proceed, ran, Prod.mk.injEq] at resumed
        obtain ⟨rfl, rfl⟩ := resumed
        rw [ran] at nothing
        simp only [momentary, afterRead, ran] at handler
        constructor
        · rintro task' goes
          obtain ⟨graded, found, rfl⟩ := Option.map_eq_some_iff.mp goes
          obtain rfl := Option.join_eq_some_iff.mp found
          exact ⟨rfl, asked, request.exchange, backend, been, here, ran⟩
        · intro ends
          refine ⟨⟨momentary backend, .ok (), .inr ⟨backend, been, rfl⟩, .inr rfl, ?_⟩, ?_⟩
          · rcases outcome with _ | _ | graded
            · exact handler.symm
            · exact handler.symm
            · cases ends
          · intro data listed
            rw [show middle.added = [] from nothing.trans (added_of_at here)] at listed
            cases listed
  | addResponse graded id =>
    cases reply with
    | rejected | snapshot data =>
      cases resumed
      exact ⟨nofun, fun _ => handledAtOnce_of_rejected here⟩
    | added =>
      cases resumed
      refine ⟨nofun, fun _ => ⟨?_, ?_⟩⟩
      · obtain ⟨backend, been, same⟩ := handler_of_addResponse here
        refine ⟨momentary backend, .ok (), .inr ⟨backend, been, rfl⟩, .inr rfl, ?_⟩
        exact (same (.ok ())).symm
      · intro data listed
        have now : (request.proceed (endSubmit graded)).1.exchange.added = [graded.response] := by
          simp [HttpRequest.proceed, added_endSubmit, added_of_at here]
        rw [now, List.mem_singleton] at listed
        obtain ⟨rfl, _⟩ := here
        rw [listed]
        exact replied

/-- A request that is written down is graded on the question of one moment. -/
theorem graded_of_addResponse {id : String}
    (here : (RequestTask.addResponse graded id).At cloud Been request) :
    id = request.id ∧ ∃ backend, Been backend ∧ (submitAnswerHandler cloud
      (answeredCalls cloud (momentary backend) (.ok ())) request.body).added = [graded.response] := by
  obtain ⟨backend, been, same⟩ := handler_of_addResponse here
  refine ⟨here.1, backend, been, ?_⟩
  rw [same]
  simp [afterWrite, added_endSubmit, added_of_at here]

/-! ### What has been stays so -/

/-- The documents of `responses` stay as they are. -/
def KeepsResponses (store store' : Backend) : Prop :=
  ∀ id document, get store.documents ⟨.allResponses, id⟩ = some document →
    get store'.documents ⟨.allResponses, id⟩ = some document

theorem HandledAtOnce.later (more : ∀ backend, Been backend → Been' backend)
    (keeps : KeepsResponses store store')
    (done : HandledAtOnce cloud toDocument rejection Been store request) :
    HandledAtOnce cloud toDocument rejection Been' store' request where
  handled := by
    obtain ⟨read, added, wasRead, wasAdded, same⟩ := done.handled
    exact ⟨read, added, wasRead.imp_right fun ⟨backend, been, same⟩ =>
      ⟨backend, more backend been, same⟩, wasAdded, same⟩
  recorded data listed := keeps _ _ (done.recorded data listed)

theorem at_later (more : ∀ backend, Been backend → Been' backend)
    (here : task.At cloud Been request) : task.At cloud Been' request := by
  cases task with
  | getQuestion asked => exact here
  | addResponse graded id =>
    obtain ⟨same, asked, middle, backend, been, came⟩ := here
    exact ⟨same, asked, middle, backend, more backend been, came⟩

theorem hasReply_later (more : ∀ backend, Been backend → Been' backend)
    (keeps : KeepsResponses store store') (replied : task.HasReply toDocument Been store reply) :
    task.HasReply toDocument Been' store' reply := by
  cases task with
  | getQuestion asked =>
    cases reply with
    | snapshot data =>
      obtain ⟨backend, been, read⟩ := replied
      exact ⟨backend, more backend been, read⟩
    | _ => trivial
  | addResponse graded id =>
    cases reply with
    | added => exact keeps _ _ replied
    | _ => trivial

theorem keepsResponses_of_served
    (served : serveCloud toDocument store task.call = some (store', reply)) :
    KeepsResponses store store' := by
  cases task with
  | getQuestion asked =>
    cases served
    exact fun _ _ present => present
  | addResponse graded id =>
    simp only [RequestTask.call, serveCloud] at served
    split at served
    · cases served
    · cases served
      intro other document present
      have apart : (⟨.allResponses, other⟩ : DocumentRef) ≠ ⟨.allResponses, id⟩ := by
        rintro ⟨⟩
        simp_all
      rwa [get_set_ne apart]

theorem hasReply_of_served (now : Been store)
    (served : serveCloud toDocument store task.call = some (store', reply)) :
    task.HasReply toDocument Been store' reply := by
  cases task with
  | getQuestion asked =>
    cases served
    exact ⟨store, now, rfl⟩
  | addResponse graded id =>
    simp only [RequestTask.call, serveCloud] at served
    split at served <;> cases served
    exact get_set_self

/-- A document that a call adds is its own. -/
theorem added_of_served (served : serveCloud toDocument store task.call = some (store', reply))
    {id : String} {document : Doc}
    (present : get store'.documents ⟨.allResponses, id⟩ = some document) :
    get store.documents ⟨.allResponses, id⟩ = some document ∨
    ∃ graded, task = .addResponse graded id ∧ document = toDocument graded.response := by
  cases task with
  | getQuestion asked =>
    cases served
    exact .inl present
  | addResponse graded own =>
    simp only [RequestTask.call, serveCloud] at served
    split at served <;> cases served
    by_cases here : id = own
    · subst here
      rw [get_set_self] at present
      exact .inr ⟨graded, rfl, (Option.some.inj present).symm⟩
    · have apart : (⟨.allResponses, id⟩ : DocumentRef) ≠ ⟨.allResponses, own⟩ := by
        rintro ⟨⟩
        exact here rfl
      rw [get_set_ne apart] at present
      exact .inl present

/-! ### The site of a request -/

/-- A request arrives at a site of its own. -/
theorem reactCloud_eq_some {event : CloudEvent} {site site' : Option HttpRequest}
    (reacted : reactCloud cloud event site = some (site', next)) :
    site = none ∧ ∃ body id exchange asks, event = .request body id ∧
      attempt (beginSubmit cloud body) {} = (exchange, asks) ∧
      site' = some { body, id, exchange } ∧ next = asks.join.map .getQuestion := by
  obtain ⟨body, id⟩ := event
  cases site with
  | some request => cases reacted
  | none =>
    cases reacted
    exact ⟨rfl, body, id, _, _, rfl, rfl, rfl, rfl⟩

/-- A segment does not touch what was sent. -/
theorem resume_sent (task : RequestTask) (reply : CloudReply) (request : HttpRequest) :
    (task.resume cloud rejection reply request).1.body = request.body ∧
    (task.resume cloud rejection reply request).1.id = request.id := by
  cases task <;> cases reply <;> exact ⟨rfl, rfl⟩

/-! ## Requests over whole runs -/

abbrev Requests := Async.World Backend (Option HttpRequest) RequestTask CloudReply

/-- Every request is at one await or has been handled, and every document of `responses` was there at
the `start` or grades a request that was `Sent`. -/
structure Faithful (cloud : Cloud) (toDocument : JsFields → Doc) (rejection : JsThrown)
    (Been : Backend → Prop) (start : Backend) (Sent : JsValue → String → Prop) (w : Requests) :
    Prop where
  sent : ∀ site request, w.sites site = some request → Sent request.body request.id
  awaits : ∀ number site task phase, w.pool number = some ⟨site, task, phase⟩ →
    ∃ request, w.sites site = some request ∧ task.At cloud Been request
  replied : ∀ number site task reply, w.pool number = some ⟨site, task, .answered reply⟩ →
    task.HasReply toDocument Been w.store reply
  once : ∀ number number' job job', w.pool number = some job → w.pool number' = some job' →
    job.site = job'.site → number = number'
  handled : ∀ site request, w.sites site = some request →
    (∀ number task phase, w.pool number ≠ some ⟨site, task, phase⟩) →
    HandledAtOnce cloud toDocument rejection Been w.store request
  origin : ∀ id document, get w.store.documents ⟨.allResponses, id⟩ = some document →
    get start.documents ⟨.allResponses, id⟩ = some document ∨
    ∃ body backend data, Sent body id ∧ Been backend ∧ document = toDocument data ∧
      (submitAnswerHandler cloud (answeredCalls cloud (momentary backend) (.ok ())) body).added = [data]

variable {start : Backend} {Sent Sent' : JsValue → String → Prop} {w w' : Requests}
variable {action : Async.Action CloudEvent}

theorem faithful_start (start : Backend) :
    Faithful cloud toDocument rejection Been start Sent ⟨start, fun _ => none, fun _ => none⟩ where
  sent _ _ present := by cases present
  awaits _ _ _ _ present := by cases present
  replied _ _ _ _ present := by cases present
  once _ _ _ _ present := by cases present
  handled _ _ present := by cases present
  origin _ _ present := .inl present

/-- Others may change the store, if they leave `responses` as it is. -/
theorem Faithful.elsewhere (more : ∀ backend, Been backend → Been' backend)
    (spares : ∀ id, get store'.documents ⟨.allResponses, id⟩ =
      get w.store.documents ⟨.allResponses, id⟩)
    (faithful : Faithful cloud toDocument rejection Been start Sent w) :
    Faithful cloud toDocument rejection Been' start Sent { w with store := store' } where
  sent := faithful.sent
  awaits number site task phase held := by
    obtain ⟨request, present, here⟩ := faithful.awaits _ _ _ _ held
    exact ⟨request, present, at_later more here⟩
  replied number site task reply held := by
    refine hasReply_later more (fun id document present => ?_) (faithful.replied _ _ _ _ held)
    exact (spares id).trans present
  once := faithful.once
  handled site request present idle := by
    refine (faithful.handled site request present idle).later more fun id document present => ?_
    exact (spares id).trans present
  origin id document present := by
    rcases faithful.origin id document ((spares id).symm.trans present) with before | added
    · exact .inl before
    · obtain ⟨body, backend, data, sent, been, same⟩ := added
      exact .inr ⟨body, backend, data, sent, more backend been, same⟩

/-- More requests may have been sent. -/
theorem Faithful.mail (mail : ∀ body id, Sent body id → Sent' body id)
    (faithful : Faithful cloud toDocument rejection Been start Sent w) :
    Faithful cloud toDocument rejection Been start Sent' w where
  sent site request present := mail _ _ (faithful.sent site request present)
  awaits := faithful.awaits
  replied := faithful.replied
  once := faithful.once
  handled := faithful.handled
  origin id document present := by
    refine (faithful.origin id document present).imp_right ?_
    rintro ⟨body, backend, data, sent, been, same⟩
    exact ⟨body, backend, data, mail _ _ sent, been, same⟩

/-- What a step leaves of the documents of `responses`. -/
theorem keepsResponses_step
    (moved : Async.Move (cloudFunction cloud toDocument rejection) w action w') :
    KeepsResponses w.store w'.store := by
  rcases moved.store with same | ⟨number, site, task, reply, _, _, answers⟩
  · exact fun id document present => same ▸ present
  · exact keepsResponses_of_served answers

/-- A job was there before the step, or its request has just arrived. -/
theorem before_step (moved : Async.Move (cloudFunction cloud toDocument rejection) w action w')
    {number : ℕ} {job : Async.Job RequestTask CloudReply} (present : w'.pool number = some job) :
    (∃ task phase, w.pool number = some ⟨job.site, task, phase⟩) ∨
    (w.sites job.site = none ∧ ∃ event, action = .react job.site event number) := by
  cases moved.pool present with
  | kept held _ => exact .inl ⟨job.task, job.phase, held⟩
  | served held _ | failed held | resumed held _ => exact .inl ⟨_, _, held⟩
  | spawned reacted _ => exact .inr ⟨(reactCloud_eq_some reacted).1, _, rfl⟩

/-- The site of a job that does not move is left as it is. -/
theorem site_of_kept (moved : Async.Move (cloudFunction cloud toDocument rejection) w action w')
    (faithful : Faithful cloud toDocument rejection Been start Sent w) {number site : ℕ}
    {phase : Async.Phase CloudReply} (held : w.pool number = some ⟨site, task, phase⟩)
    (unmoved : action.moved ≠ some number) (present : w'.pool number = some ⟨site, task, phase⟩) :
    w'.sites site = w.sites site := by
  obtain ⟨request, shown, _⟩ := faithful.awaits _ _ _ _ held
  cases moved.memory site with
  | kept same => exact same
  | reacted reacted =>
    rw [(reactCloud_eq_some reacted).1] at shown
    cases shown
  | resumed other _ =>
    obtain rfl := faithful.once _ _ _ _ held other rfl
    exact absurd rfl unmoved
  | restarted _ =>
    cases moved with
    | restart => exact absurd rfl (Async.restarted_some.mp present).2

/-- What a job leaves at its site when it goes on. -/
theorem site_of_resumed {site number : ℕ} {memory : Option HttpRequest}
    (faithful : Faithful cloud toDocument rejection Been start Sent w)
    (held : w.pool number = some ⟨site, task, .answered reply⟩)
    (resumed : (cloudFunction cloud toDocument rejection).resume task reply (w.sites site) =
      (memory, next)) :
    ∃ request request', w.sites site = some request ∧ memory = some request' ∧
      request'.body = request.body ∧ request'.id = request.id ∧
      (∀ task', next = some task' → task'.At cloud Been request') ∧
      (next = none → HandledAtOnce cloud toDocument rejection Been w.store request') := by
  obtain ⟨request, shown, here⟩ := faithful.awaits _ _ _ _ held
  simp only [cloudFunction, shown, Prod.mk.injEq] at resumed
  obtain ⟨rfl, rfl⟩ := resumed
  obtain ⟨body, id⟩ := @resume_sent cloud rejection task reply request
  exact ⟨request, _, shown, rfl, body, id, at_resume here (faithful.replied _ _ _ _ held) rfl⟩

theorem faithful_step (moved : Async.Move (cloudFunction cloud toDocument rejection) w action w')
    (more : ∀ backend, Been backend → Been' backend) (now : Been' w.store)
    (arrives : ∀ site body id number, action = .react site (.request body id) number → Sent body id)
    (faithful : Faithful cloud toDocument rejection Been start Sent w) :
    Faithful cloud toDocument rejection Been' start Sent w' where
  sent site request present := by
    cases moved.memory site with
    | kept same => exact faithful.sent site request (same ▸ present)
    | reacted reacted =>
      obtain ⟨_, body, id, exchange, asks, rfl, _, here, _⟩ := reactCloud_eq_some reacted
      obtain rfl := Option.some.inj (present.symm.trans here)
      exact arrives site body id _ rfl
    | resumed held resumed =>
      obtain ⟨before, request', shown, same, body, id, _⟩ := site_of_resumed faithful held resumed
      obtain rfl := Option.some.inj (present.symm.trans same)
      rw [body, id]
      exact faithful.sent site before shown
    | restarted gone =>
      rw [gone] at present
      cases present
  awaits number site task phase present := by
    cases moved.pool present with
    | kept held unmoved =>
      obtain ⟨request, shown, here⟩ := faithful.awaits _ _ _ _ held
      exact ⟨request, (site_of_kept moved faithful held unmoved present).trans shown,
        at_later more here⟩
    | spawned reacted _ =>
      obtain ⟨_, body, id, exchange, asks, rfl, began, here, goes⟩ := reactCloud_eq_some reacted
      obtain ⟨asked, asks, rfl⟩ := Option.map_eq_some_iff.mp goes.symm
      obtain rfl := Option.join_eq_some_iff.mp asks
      exact ⟨_, here, began⟩
    | served held _ | failed held =>
      obtain ⟨request, shown, here⟩ := faithful.awaits _ _ _ _ held
      refine ⟨request, ?_, at_later more here⟩
      cases moved
      exact shown
    | resumed held resumed =>
      obtain ⟨_, request', _, same, _, _, goes, _⟩ := site_of_resumed faithful held resumed
      exact ⟨request', same, at_later more (goes task rfl)⟩
  replied number site task reply present := by
    cases moved.pool present with
    | kept held _ =>
      exact hasReply_later more (keepsResponses_step moved) (faithful.replied _ _ _ _ held)
    | served _ served => exact hasReply_of_served now served
    | failed _ => cases task <;> trivial
  once number number' job job' present present' same := by
    rcases before_step moved present with ⟨task, phase, held⟩ | ⟨vacant, event, rfl⟩
    · rcases before_step moved present' with ⟨task', phase', held'⟩ | ⟨vacant, _⟩
      · exact faithful.once _ _ _ _ held held' same
      · obtain ⟨request, shown, _⟩ := faithful.awaits _ _ _ _ held
        rw [same, vacant] at shown
        cases shown
    · rcases before_step moved present' with ⟨task', phase', held'⟩ | ⟨_, _, again⟩
      · obtain ⟨request, shown, _⟩ := faithful.awaits _ _ _ _ held'
        rw [← same, vacant] at shown
        cases shown
      · exact (Async.Action.react.inj again).2.2
  handled site request present idle := by
    by_cases before : ∃ number task phase, w.pool number = some ⟨site, task, phase⟩
    · obtain ⟨number, task, phase, held⟩ := before
      by_cases moves : action.moved = some number
      · cases moved.moved held moves with
        | served _ left | failed left => exact absurd left (idle number task _)
        | @resumed _ _ _ next resumed left =>
          cases next with
          | some next => exact absurd left (idle number next _)
          | none =>
            obtain ⟨_, request', _, same, _, _, _, done⟩ := site_of_resumed faithful held resumed
            obtain rfl := Option.some.inj (present.symm.trans same)
            exact (done rfl).later more (keepsResponses_step moved)
      · refine absurd (moved.stays held moves ?_) (idle number task phase)
        rintro here rfl rfl
        cases moved with
        | restart => simp [cloudFunction] at present
    · cases moved.memory site with
      | kept same =>
        refine (faithful.handled site request (same ▸ present) ?_).later more
          (keepsResponses_step moved)
        exact fun number task phase held => before ⟨number, task, phase, held⟩
      | reacted reacted =>
        obtain ⟨_, body, id, exchange, asks, rfl, began, here, goes⟩ := reactCloud_eq_some reacted
        obtain rfl := Option.some.inj (present.symm.trans here)
        cases refused : asks.join with
        | none => exact handledAtOnce_of_begin began refused
        | some asked =>
          rw [refused] at goes
          rw [goes] at reacted
          exact absurd (moved.begun reacted) (idle _ _ _)
      | resumed held _ => exact absurd ⟨_, _, _, held⟩ before
      | restarted gone =>
        rw [gone] at present
        cases present
  origin id document present := by
    have older : ∀ {document}, get w.store.documents ⟨.allResponses, id⟩ = some document →
        get start.documents ⟨.allResponses, id⟩ = some document ∨
        ∃ body backend data, Sent body id ∧ Been' backend ∧ document = toDocument data ∧
          (submitAnswerHandler cloud (answeredCalls cloud (momentary backend) (.ok ())) body).added =
            [data] := by
      intro document present
      refine (faithful.origin id document present).imp_right ?_
      rintro ⟨body, backend, data, sent, been, same⟩
      exact ⟨body, backend, data, sent, more _ been, same⟩
    rcases moved.store with same | ⟨number, site, task, reply, _, held, served⟩
    · exact older (same ▸ present)
    · rcases added_of_served served present with before | ⟨graded, rfl, rfl⟩
      · exact older before
      · obtain ⟨request, shown, here⟩ := faithful.awaits _ _ _ _ held
        obtain ⟨rfl, backend, been, same⟩ := graded_of_addResponse here
        exact .inr ⟨request.body, backend, graded.response, faithful.sent _ _ shown, more _ been,
          rfl, same⟩

/-! ## Requests beside anything else that changes the store -/

section Beside

variable {Own A : Type}

/-- The cloud function, and some program that shares the store with it. -/
abbrev withRequests (cloud : Cloud) (toDocument : JsFields → Doc) (rejection : JsThrown)
    (host : Program Backend Own A) :=
  beside host (ofMachine (cloudFunction cloud toDocument rejection))

/-- The request has arrived in a run, with the id for its response. -/
def SentIn (actions : List (A ⊕ Async.Action CloudEvent)) (body : JsValue) (id : String) : Prop :=
  ∃ site number, .inr (.react site (.request body id) number) ∈ actions

/-- The program never touches `responses`. -/
def SparesResponses (host : Program Backend Own A) : Prop :=
  ∀ state action after id, host state action = some after →
    get after.1.documents ⟨.allResponses, id⟩ = get state.1.documents ⟨.allResponses, id⟩

variable {host : Program Backend Own A}
variable {first after : Backend × Own × Tasks (Option HttpRequest) RequestTask CloudReply}
variable {actions : List (A ⊕ Async.Action CloudEvent)}

theorem faithful_of_run (spares : SparesResponses host)
    (idle : first.2.2 = (fun _ => none, fun _ => none))
    (run : Run (withRequests cloud toDocument rejection host) Any first actions after) :
    Faithful cloud toDocument rejection
      (PastStore (withRequests cloud toDocument rejection host) first actions) first.1
      (SentIn actions) (tasksOf after) := by
  refine invariant_of_run (fun actions been w =>
    Faithful cloud toDocument rejection been first.1 (SentIn actions) w) ?_ ?_ ?_ run
  · intro actions been been' w action own store' own' faithful more moved
    have mail : ∀ body id, SentIn actions body id → SentIn (actions ++ [.inl action]) body id :=
      fun body id ⟨site, number, sent⟩ => ⟨site, number, List.mem_append_left _ sent⟩
    exact (faithful.elsewhere more fun id => spares _ _ _ id moved).mail mail
  · intro actions been been' w action w' faithful more now moved
    have mail : ∀ body id, SentIn actions body id → SentIn (actions ++ [.inr action]) body id :=
      fun body id ⟨site, number, sent⟩ => ⟨site, number, List.mem_append_left _ sent⟩
    refine faithful_step moved more now ?_ (faithful.mail mail)
    rintro site body id number rfl
    exact ⟨site, number, List.mem_append_right _ List.mem_cons_self⟩
  · rw [tasksOf, idle]
    exact faithful_start first.1

/-- Whatever else changes the store meanwhile: a request that has come to its end has been handled
as in one go, and every new response grades a request on the question of one moment. -/
theorem requests_of_run (cloud : Cloud) (toDocument : JsFields → Doc) (rejection : JsThrown)
    (host : Program Backend Own A) (spares : SparesResponses host)
    (first after : Backend × Own × Tasks (Option HttpRequest) RequestTask CloudReply)
    (actions : List (A ⊕ Async.Action CloudEvent))
    (idle : first.2.2 = (fun _ => none, fun _ => none))
    (run : Run (withRequests cloud toDocument rejection host) Any first actions after) :
    (∀ site request, after.2.2.1 site = some request →
      (∀ number task phase, after.2.2.2 number ≠ some ⟨site, task, phase⟩) →
      HandledAtOnce cloud toDocument rejection
        (PastStore (withRequests cloud toDocument rejection host) first actions) after.1 request) ∧
    ∀ id document, get after.1.documents ⟨.allResponses, id⟩ = some document →
      get first.1.documents ⟨.allResponses, id⟩ = some document ∨
      ∃ body backend data, SentIn actions body id ∧
        PastStore (withRequests cloud toDocument rejection host) first actions backend ∧
        document = toDocument data ∧ (submitAnswerHandler cloud
          (answeredCalls cloud (momentary backend) (.ok ())) body).added = [data] := by
  have faithful := faithful_of_run spares idle run
  exact ⟨faithful.handled, faithful.origin⟩

end Beside

end DailyTrivia
