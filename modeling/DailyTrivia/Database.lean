import DailyTrivia.DocumentWrites

/-!
What the app stores, as typed tables. Firestore keeps untyped documents; the app writes them in
seven places. Each of these is an operation on a `Database`, and every store the app can reach is
the encoding of the database that its writes have built, in the order they were served. So a
reader of the store reads the database.

A users document may hold an account without a username, and a username without an account:
`submitUsername` also writes where there is none.
-/
namespace DailyTrivia

open Documents Runs Function

/-- A users document: the key that account creation has written, and the chosen username. -/
structure UserEntry where
  key : Option String
  username : Option String
  written : key.isSome = true ∨ username.isSome = true
  deriving DecidableEq

/-- A response: what it was mirrored in, and the text of the question. -/
structure Response where
  answer : SubmittedAnswer
  question : String
  deriving DecidableEq

/-- A review that is stored under the username it is for. -/
abbrev ReviewOf (username : String) := { review : ManualReview // review.username = username }

structure Database where
  users : String → Option UserEntry := fun _ => none
  streaks : String → Option Int := fun _ => none
  responses : String → String → Option Response := fun _ _ => none
  reviews : (username : String) → Option (ReviewOf username) := fun _ => none

/-- The writes of the app. -/
inductive Operation where
  /-- `createUserAccountIfNeeded` and `createUserAccountFromGoogleIfNeeded`. -/
  | createAccount (document key : String)
  | submitUsername (key username : String)
  | updateStreak (username : String) (streak : Int)
  | submitAnswer (username day : String) (response : Response)
  | submitForReview (review : ManualReview)
  deriving DecidableEq

/-- The account's fields are written whole, or the username is added to them. -/
def Database.apply (db : Database) : Operation → Database
  | .createAccount document key =>
    { db with users := update db.users document (some ⟨some key, none, .inl rfl⟩) }
  | .submitUsername key username => { db with
      users := update db.users key
        (some ⟨(db.users key).bind UserEntry.key, some username, .inr rfl⟩) }
  | .updateStreak username streak => { db with streaks := update db.streaks username (some streak) }
  | .submitAnswer username day response => { db with
      responses := update db.responses username
        (update (db.responses username) day (some response)) }
  | .submitForReview review =>
    { db with reviews := update db.reviews review.username (some ⟨review, rfl⟩) }

/-! ## The encoding -/

def UserEntry.document (entry : UserEntry) : Doc :=
  merge (entry.username.elim (fields []) usernameData) (entry.key.elim (fields []) userData)

def Response.document (username : String) (response : Response) : Doc :=
  fields [("username", .string username), ("date", .string response.answer.date),
    ("userAnswer", .string response.answer.userAnswer),
    ("answerOutcome", .bool response.answer.answerOutcome),
    ("question", .string response.question), ("timestamp", .timestamp)]

def ManualReview.document (review : ManualReview) : Doc :=
  fields [("username", .string review.username), ("date", .string review.date),
    ("question", .string review.question), ("correctAnswer", .string review.correctAnswer),
    ("submittedAnswer", .string review.submittedAnswer), ("outcome", .bool review.outcome),
    ("userNote", .string review.userNote), ("streak", .int review.streak)]

/-- The document stored at a reference. The app writes none of the quiz, and none directly into
`responses`. -/
def Database.document (db : Database) : DocumentRef → Option Doc
  | ⟨.users, key⟩ => (db.users key).map UserEntry.document
  | ⟨.streaks, username⟩ => (db.streaks username).map (streakData username)
  | ⟨.responses username, day⟩ => (db.responses username day).map (Response.document username)
  | ⟨.manualReviews, username⟩ => (db.reviews username).map fun review => review.1.document
  | ⟨.questions, _⟩ | ⟨.allResponses, _⟩ => none

/-- The quiz apart, the store is the encoding of the database. -/
def Encodes (db : Database) (documents : Store CollectionRef) : Prop :=
  ∀ ref : DocumentRef, ref.collection ≠ .questions → get documents ref = db.document ref

/-- The response that a submission writes. -/
def writtenResponse (platform : Platform) (question : TriviaQuestion) (answerText : String) :
    Response where
  answer := submitted platform question answerText
  question := question.question

/-- The review that a request writes. -/
def writtenReview (form : ReviewForm) (userNote date : String) : ManualReview where
  username := form.username
  date
  question := form.question
  correctAnswer := form.correctAnswer
  submittedAnswer := form.submittedAnswer.userAnswer
  userNote
  outcome := form.submittedAnswer.answerOutcome
  streak := form.streak

/-- The operation of a task whose call writes. -/
def Task.operation (platform : Platform) : Task → Option Operation
  | .signIn (.writeUserAccount user) =>
    some (.createAccount (sanitizedEmail user.email) (sanitizedEmail user.email))
  | .signIn (.writeGoogleAccount user) =>
    some (.createAccount (googleKey user) ((user.email.map sanitizedEmail).getD ""))
  | .signIn (.resetStreak _ username) => some (.updateStreak username 0)
  | .submit _ (.writeResponse question answerText username today) =>
    some (.submitAnswer username today (writtenResponse platform question answerText))
  | .submit _ (.writeStreak username streak) => some (.updateStreak username streak)
  | .enterUsername _ (.writeUsername key username) => some (.submitUsername key username)
  | .review _ (.writeReview form userNote today) =>
    some (.submitForReview (writtenReview form userNote today))
  | _ => none

/-- The operation that a step carries out. -/
def operation (platform : Platform) (w : World) : Action → Option Operation
  | .serve number =>
    match w.pool number with
    | some ⟨_, task, .issued⟩ => task.operation platform
    | _ => none
  | _ => none

/-- The operations of a run, in the order they are served. -/
def operations (platform : Platform) (start : World) (actions : List Action) : List Operation :=
  picked (step platform) (operation platform) start actions

/-- What the app's decoders and field reads make of a store is what the tables hold. -/
structure ReadsAs (db : Database) (documents : Store CollectionRef) : Prop where
  username : ∀ key, ((get documents (userRef key)).bind fun document =>
    document.string "username") = (db.users key).bind UserEntry.username
  user : ∀ key, (get documents (userRef key)).bind User.decode =
    (db.users key).bind fun entry => entry.key.map fun email =>
      { email, id := email, username := entry.username }
  streak : ∀ username, ((get documents (streakRef username)).bind fun document =>
    document.int "streak") = db.streaks username
  response : ∀ username day, (get documents (responseRef username day)).bind
    SubmittedAnswer.decode = (db.responses username day).map Response.answer
  review : ∀ username, (get documents (manualReviewRef username)).bind ManualReview.decode =
    (db.reviews username).map Subtype.val
  /-- The query for a player's reviews finds the one stored under the username. -/
  reviews : ∀ username,
    (whereField documents .manualReviews "username" (.string username)).map ManualReview.decode =
    ((db.reviews username).map fun review => some review.1).toList

variable {platform : Platform} {db : Database} {documents : Store CollectionRef}
variable {w w' : World} {action : Action} {task : Task} {ref : DocumentRef}
variable {change : Option Doc → Doc}

/-! ## A write is an operation -/

/-- Merging a username into an entry. -/
theorem document_named (entry : Option UserEntry) (username : String) :
    mergeInto (usernameData username) (entry.map UserEntry.document) =
      UserEntry.document ⟨entry.bind UserEntry.key, some username, .inr rfl⟩ := by
  funext name
  rcases entry with _ | ⟨key, before, written⟩
  · cases named : usernameData username name <;>
      simp [mergeInto, UserEntry.document, merge, named, fields]
  · have covered : ∀ value, (before.elim (fields []) usernameData) name = some value →
        (usernameData username name).isSome = true := by
      intro value there
      cases before with
      | none => cases there
      | some before =>
        simp only [Option.elim_some, usernameData, fields, List.lookup_cons, List.lookup_nil]
          at there ⊢
        split at there <;> simp_all
    cases named : usernameData username name with
    | some value => simp [mergeInto, UserEntry.document, merge, named]
    | none =>
      have unnamed : (before.elim (fields []) usernameData) name = none := by
        refine Option.eq_none_iff_forall_ne_some.mpr fun value there => ?_
        simp [named] at covered
        exact covered value there
      simp [mergeInto, UserEntry.document, merge, named, unnamed]

/-- Merging a streak into a streak document. -/
theorem streakData_merged (username : String) (before : Option Int) (streak : Int) :
    mergeInto (streakData username streak) (before.map (streakData username)) =
      streakData username streak := by
  cases before with
  | none => rfl
  | some before =>
    funext name
    simp only [Option.map_some, mergeInto, merge, streakData, fields, List.lookup_cons,
      List.lookup_nil]
    split
    · rfl
    · split <;> rfl

/-- An entry of a table is the document at its reference. -/
theorem document_users (key : String) (entry : UserEntry) :
    { db with users := update db.users key (some entry) }.document =
      update db.document (userRef key) (some entry.document) := by
  funext ⟨collection, id⟩
  cases collection with
  | users =>
    by_cases same : id = key
    · subst same
      simp [Database.document, userRef]
    · simp [Database.document, userRef, same]
  | _ => simp [Database.document, userRef]

theorem document_streaks (username : String) (streak : Int) :
    { db with streaks := update db.streaks username (some streak) }.document =
      update db.document (streakRef username) (some (streakData username streak)) := by
  funext ⟨collection, id⟩
  cases collection with
  | streaks =>
    by_cases same : id = username
    · subst same
      simp [Database.document, streakRef]
    · simp [Database.document, streakRef, same]
  | _ => simp [Database.document, streakRef]

theorem document_responses (username day : String) (response : Response) :
    (db.apply (.submitAnswer username day response)).document =
      update db.document (responseRef username day) (some (response.document username)) := by
  funext ⟨collection, id⟩
  cases collection with
  | responses responder =>
    by_cases same : responder = username
    · subst same
      by_cases today : id = day
      · subst today
        simp [Database.apply, Database.document, responseRef]
      · simp [Database.apply, Database.document, responseRef, today]
    · simp [Database.apply, Database.document, responseRef, same]
  | _ => simp [Database.apply, Database.document, responseRef]

theorem document_reviews (review : ManualReview) :
    (db.apply (.submitForReview review)).document =
      update db.document (manualReviewRef review.username) (some review.document) := by
  funext ⟨collection, id⟩
  cases collection with
  | manualReviews =>
    by_cases same : id = review.username
    · subst same
      simp [Database.apply, Database.document, manualReviewRef]
    · simp [Database.apply, Database.document, manualReviewRef, same]
  | _ => simp [Database.apply, Database.document, manualReviewRef]

/-- What a task writes is what its operation stores. -/
theorem document_of_write (db : Database) (wrote : Write platform task ref change) :
    ∃ operation, task.operation platform = some operation ∧
      (db.apply operation).document = update db.document ref (some (change (db.document ref))) := by
  cases wrote with
  | userAccount => exact ⟨_, rfl, document_users _ _⟩
  | googleAccount => exact ⟨_, rfl, document_users _ _⟩
  | @username view key username =>
    refine ⟨_, rfl, (document_users _ _).trans ?_⟩
    rw [← document_named]
    rfl
  | @resetStreak email username =>
    have merged : mergeInto (streakData username 0) (db.document (streakRef username)) = _ :=
      streakData_merged username (db.streaks username) 0
    rw [merged]
    exact ⟨_, rfl, document_streaks _ _⟩
  | @streak view username streak =>
    have merged : mergeInto (streakData username streak) (db.document (streakRef username)) = _ :=
      streakData_merged username (db.streaks username) streak
    rw [merged]
    exact ⟨_, rfl, document_streaks _ _⟩
  | response => exact ⟨_, rfl, document_responses _ _ _⟩
  | review => exact ⟨_, rfl, document_reviews _⟩

/-- No write is one of the quiz. -/
theorem collection_of_write (wrote : Write platform task ref change) :
    ref.collection ≠ .questions := by
  cases wrote <;> simp [userRef, streakRef, responseRef, manualReviewRef]

variable {store store' : Backend} {reply : Reply}

/-- A served call with an operation writes. -/
theorem write_of_operation {operation : Operation}
    (carries : task.operation platform = some operation)
    (served : serve platform store (call platform task) = some (store', reply)) :
    ∃ ref change, Write platform task ref change ∧
      store'.documents = set store.documents ref (change (get store.documents ref)) := by
  cases task with
  | signIn task =>
    cases task with
    | writeUserAccount user =>
      cases served
      exact ⟨_, _, .userAccount, rfl⟩
    | writeGoogleAccount user =>
      cases served
      exact ⟨_, _, .googleAccount, rfl⟩
    | resetStreak email username =>
      cases served
      exact ⟨_, _, .resetStreak, rfl⟩
    | _ => cases carries
  | submit v task =>
    cases task with
    | writeResponse question answerText username today =>
      cases served
      exact ⟨_, _, .response, rfl⟩
    | writeStreak username streak =>
      cases served
      exact ⟨_, _, .streak, rfl⟩
    | _ => cases carries
  | enterUsername v task =>
    cases task with
    | writeUsername key username =>
      cases served
      exact ⟨_, _, .username, rfl⟩
    | _ => cases carries
  | review v task =>
    cases task with
    | writeReview form userNote today =>
      cases served
      exact ⟨_, _, .review, rfl⟩
    | _ => cases carries
  | load v task => cases carries
  | logout v signOutThrows => cases carries

/-- A served write carries out its operation. -/
theorem encodes_of_operation {operation : Operation} (encodes : Encodes db store.documents)
    (carries : task.operation platform = some operation)
    (served : serve platform store (call platform task) = some (store', reply)) :
    Encodes (db.apply operation) store'.documents := by
  obtain ⟨ref, change, wrote, stored⟩ := write_of_operation carries served
  obtain ⟨_, carries', applied⟩ := document_of_write db wrote
  obtain rfl := Option.some.inj (carries.symm.trans carries')
  intro other stays
  rw [stored, applied]
  by_cases same : other = ref
  · subst same
    rw [get_set_self, update_self, encodes other stays]
  · rw [get_set_ne same, update_of_ne same, encodes other stays]

/-- A call without an operation leaves the documents alone. -/
theorem documents_of_serve (passes : task.operation platform = none)
    (served : serve platform store (call platform task) = some (store', reply)) :
    store'.documents = store.documents := by
  rcases serve_documents served with same | ⟨ref, change, wrote, _⟩
  · exact same
  · obtain ⟨_, carries, _⟩ := document_of_write {} wrote
    rw [passes] at carries
    cases carries

/-! ## Runs -/

theorem encodes_initial (initial : Initial w) : Encodes {} w.store.documents := by
  rintro ⟨collection, id⟩ stays
  rw [initial.noDocument _ stays]
  cases collection <;> rfl

/-- Every step carries out its operation, if it has one. -/
theorem encodes_step (moved : Move platform w action w') (encodes : Encodes db w.store.documents) :
    Encodes ((operation platform w action).elim db db.apply) w'.store.documents := by
  cases moved with
  | @serve site number task store reply held served =>
    simp only [operation, held]
    cases carries : task.operation platform with
    | some operation => exact encodes_of_operation encodes carries served
    | none =>
      simp only [Option.elim_none, documents_of_serve carries served]
      exact encodes
  | _ => exact encodes

/-- The store that a run leads to encodes the database its operations build. -/
theorem encodes_run {start after : World} {actions : List Action} (initial : Initial start)
    (run : Run (step platform) Any start actions after) :
    Encodes ((operations platform start actions).foldl Database.apply {}) after.store.documents := by
  have moves : ∀ (w : World) (db : Database) (action : Action) (w' : World)
      (chosen : Operation), Encodes db w.store.documents → Any w action →
      step platform w action = some w' → operation platform w action = some chosen →
      ∃ db', some (db.apply chosen) = some db' ∧ Encodes db' w'.store.documents := by
    intro w db action w' chosen encodes _ moved carries
    have stepped := encodes_step (Async.move_of_step moved) encodes
    rw [carries] at stepped
    exact ⟨_, rfl, stepped⟩
  have stays : ∀ (w : World) (db : Database) (action : Action) (w' : World),
      Encodes db w.store.documents → Any w action → step platform w action = some w' →
      operation platform w action = none → Encodes db w'.store.documents := by
    intro w db action w' encodes _ moved passes
    have stepped := encodes_step (Async.move_of_step moved) encodes
    rwa [passes] at stepped
  obtain ⟨db, executed, encodes⟩ := run.simulate moves stays (encodes_initial initial)
  rw [execute_total] at executed
  obtain rfl := Option.some.inj executed
  exact encodes

/-! ## Reading -/

theorem username_document (entry : UserEntry) :
    entry.document.string "username" = entry.username := by
  obtain ⟨key, username, _⟩ := entry
  cases key <;> cases username <;> rfl

theorem decode_userEntry (entry : UserEntry) : User.decode entry.document =
    entry.key.map fun email => { email, id := email, username := entry.username } := by
  obtain ⟨key, username, _⟩ := entry
  cases key <;> cases username <;> rfl

theorem decode_response (username : String) (response : Response) :
    SubmittedAnswer.decode (response.document username) = some response.answer := rfl

theorem decode_review (review : ManualReview) :
    ManualReview.decode review.document = some review := rfl

theorem readsAs_of_encodes (encodes : Encodes db documents) : ReadsAs db documents where
  username key := by
    rw [encodes _ (by simp [userRef])]
    simp only [Database.document, userRef, Option.bind_map]
    exact congrArg _ (funext username_document)
  user key := by
    rw [encodes _ (by simp [userRef])]
    simp only [Database.document, userRef, Option.bind_map]
    exact congrArg _ (funext decode_userEntry)
  streak username := by
    rw [encodes _ (by simp [streakRef])]
    cases stored : db.streaks username with
    | none => simp [Database.document, streakRef, stored]
    | some streak =>
      simp only [Database.document, streakRef, stored]
      rfl
  response username day := by
    rw [encodes _ (by simp [responseRef])]
    cases stored : db.responses username day with
    | none => simp [Database.document, responseRef, stored]
    | some response => simp [Database.document, responseRef, stored, decode_response]
  review username := by
    rw [encodes _ (by simp [manualReviewRef])]
    cases stored : db.reviews username with
    | none => simp [Database.document, manualReviewRef, stored]
    | some review => simp [Database.document, manualReviewRef, stored, decode_review]
  reviews username := by
    have keyed : ∀ id document, get documents ⟨.manualReviews, id⟩ = some document →
        (document "username" = some (.string username) ↔ id = username) := by
      intro id document stored
      rw [encodes _ (by simp)] at stored
      obtain ⟨review, _, rfl⟩ := Option.map_eq_some_iff.mp stored
      have named : review.1.document "username" = some (.string id) :=
        congrArg (fun name => some (Value.string name)) review.2
      simp [named]
    rw [whereField_of_id keyed, encodes _ (by simp)]
    cases stored : db.reviews username with
    | none => simp [Database.document, stored]
    | some review => simp [Database.document, stored, decode_review]

/-- Every store the app can reach reads as the tables that the writes of the run have built, in
the order they were served. -/
theorem readsAs_of_run (platform : Platform) (start after : World) (actions : List Action)
    (initial : Initial start) (run : Run (step platform) Any start actions after) :
    ReadsAs ((operations platform start actions).foldl Database.apply {})
      after.store.documents :=
  readsAs_of_encodes (encodes_run initial run)

/-- Annie's registration, as the tables see it. -/
theorem readsAs_signUp : ∃ after, execute (step march) (firstLaunch [capital])
      (signUp 0 "ann@example.com" "annie") = some after ∧
    ReadsAs ((operations march (firstLaunch [capital])
      (signUp 0 "ann@example.com" "annie")).foldl Database.apply {}) after.store.documents := by
  have possible : (execute (step march) (firstLaunch [capital])
      (signUp 0 "ann@example.com" "annie")).isSome = true := by decide +kernel
  obtain ⟨after, executed, run⟩ := Run.exists_of_execute possible
  exact ⟨after, executed, readsAs_of_run march _ _ _ (initial_firstLaunch _) run⟩

example : operations march (firstLaunch [capital]) (signUp 0 "ann@example.com" "annie") =
    [.createAccount "ann_example_com" "ann_example_com",
      .submitUsername "ann_example_com" "annie"] := by
  decide +kernel

end DailyTrivia
