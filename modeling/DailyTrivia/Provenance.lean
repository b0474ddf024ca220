import DailyTrivia.Players
import DailyTrivia.StreakRecords

/-!
Where what the app shows and records comes from. Nothing keeps a username, a streak or an answer
from being another account's, or from being out of date; but none of them is ever made up. The
question of a view is one of the quiz, an answer was stored as a response, a username and a streak
were stored as such, all at some moment. So is what a review request tells its reader.

`Been` are the stores that there have been.
-/
namespace DailyTrivia

open Documents Runs

section Genuine

variable (platform : Platform) (quiz : Backend) (Been : Backend → Prop)

def InQuiz (question : TriviaQuestion) : Prop :=
  ∃ day document, get quiz.documents (questionRef day) = some document ∧
    TriviaQuestion.decode document = some question

def WasAnswered (answer : SubmittedAnswer) : Prop :=
  ∃ backend username day document, Been backend ∧
    get backend.documents (responseRef username day) = some document ∧
    SubmittedAnswer.decode document = some answer

def WasNamed (username : String) : Prop :=
  ∃ backend key document, Been backend ∧ get backend.documents (userRef key) = some document ∧
    document.string "username" = some username

def WasStreak (streak : Int) : Prop :=
  ∃ backend username document, Been backend ∧
    get backend.documents (streakRef username) = some document ∧
    document.int "streak" = some streak

structure User.Genuine (user : User) : Prop where
  named : ∀ username, user.username = some username → WasNamed Been username
  counted : ∀ streak, user.streak = some streak → WasStreak Been streak

structure TriviaGameView.Genuine (view : TriviaGameView) : Prop where
  asked : ∀ question, view.currentQuestion = some question → InQuiz quiz question
  answered : ∀ answer, view.submittedAnswer = some answer → WasAnswered Been answer

/-- What a review request tells its reader. -/
structure ReviewForm.Genuine (form : ReviewForm) : Prop where
  asked : ∃ question, InQuiz quiz question ∧ form.question = question.question ∧
    form.correctAnswer = question.correctAnswer
  answered : WasAnswered Been form.submittedAnswer
  wrong : form.submittedAnswer.answerOutcome = false
  named : form.username = "unknown username" ∨ WasNamed Been form.username
  counted : form.streak = 0 ∨ WasStreak Been form.streak

def Task.Genuine : Task → Prop
  | .submit _ (.writeResponse question _ _ _) => InQuiz quiz question
  | .review _ task => task.form.Genuine quiz Been
  | _ => True

/-- The call has failed, or was served at some moment. -/
def WasServed (awaited : Call) (reply : Reply) : Prop :=
  reply = .refused ∨ ∃ before after, Been before ∧ Been after ∧
    serve platform before awaited = some (after, reply)

structure Device.Genuine (d : Device) : Prop where
  user : ∀ user, d.currentUser = some user → user.Genuine Been
  views : ∀ v view, d.views v = some view → view.Genuine quiz Been

/-- What is shown and what is recorded is genuine. -/
structure AllGenuine (w : World) : Prop where
  devices : ∀ site, (w.sites site).Genuine quiz Been
  tasks : ∀ number site task phase, w.pool number = some ⟨site, task, phase⟩ →
    task.Genuine quiz Been
  served : ∀ number site task reply, w.pool number = some ⟨site, task, .answered reply⟩ →
    WasServed platform Been (call platform task) reply
  responses : ∀ username day document,
    get w.store.documents (responseRef username day) = some document →
    ∃ question answerText, InQuiz quiz question ∧
      document = responseData platform question answerText username
  reviews : ∀ username document,
    get w.store.documents (manualReviewRef username) = some document →
    ∃ form userNote date, form.Genuine quiz Been ∧ document = reviewData form userNote date

/-- The quiz never changes, and every store is one that the app can write. -/
structure Past : Prop where
  quiz : ∀ backend, Been backend → backend.documents .questions = quiz.documents .questions
  written : ∀ backend, Been backend → ∃ db, Encodes db backend.documents

end Genuine

variable {platform : Platform} {quiz : Backend} {Been Been' : Backend → Prop}
variable {d d' : Device} {view : TriviaGameView} {user : User} {form : ReviewForm} {task : Task}
variable {reply : Reply} {w w' : World} {action : Action}

/-! ## What has been stays so -/

section Later

variable (more : ∀ backend, Been backend → Been' backend)

include more

theorem WasAnswered.later {answer : SubmittedAnswer} (was : WasAnswered Been answer) :
    WasAnswered Been' answer := by
  obtain ⟨backend, username, day, document, been, stored⟩ := was
  exact ⟨backend, username, day, document, more backend been, stored⟩

theorem WasNamed.later {username : String} (was : WasNamed Been username) :
    WasNamed Been' username := by
  obtain ⟨backend, key, document, been, stored⟩ := was
  exact ⟨backend, key, document, more backend been, stored⟩

theorem WasStreak.later {streak : Int} (was : WasStreak Been streak) : WasStreak Been' streak := by
  obtain ⟨backend, username, document, been, stored⟩ := was
  exact ⟨backend, username, document, more backend been, stored⟩

theorem WasServed.later {awaited : Call} (was : WasServed platform Been awaited reply) :
    WasServed platform Been' awaited reply := by
  refine was.imp_right ?_
  rintro ⟨before, after, been, been', served⟩
  exact ⟨before, after, more before been, more after been', served⟩

theorem ReviewForm.Genuine.later (genuine : form.Genuine quiz Been) : form.Genuine quiz Been' where
  asked := genuine.asked
  answered := genuine.answered.later more
  wrong := genuine.wrong
  named := genuine.named.imp_right (·.later more)
  counted := genuine.counted.imp_right (·.later more)

theorem Device.Genuine.later (genuine : d.Genuine quiz Been) : d.Genuine quiz Been' where
  user user present := by
    have known := genuine.user user present
    exact ⟨fun username named => (known.named username named).later more,
      fun streak counted => (known.counted streak counted).later more⟩
  views v view shown := by
    have known := genuine.views v view shown
    exact ⟨known.asked, fun answer answered => (known.answered answer answered).later more⟩

theorem genuine_later (genuine : task.Genuine quiz Been) : task.Genuine quiz Been' := by
  cases task with
  | submit v task => cases task <;> exact genuine
  | review v task => exact ReviewForm.Genuine.later more genuine
  | _ => trivial

end Later

/-! ## What a served call gives -/

/-- A document that was read was stored. -/
theorem stored_of_snapshot {awaited : Call} {ref : DocumentRef} {document : Doc}
    (reads : awaited = .getDocument ref)
    (served : WasServed platform Been awaited (.snapshot (some document))) :
    ∃ backend, Been backend ∧ get backend.documents ref = some document := by
  subst reads
  rcases served with refused | ⟨before, after, been, _, served⟩
  · cases refused
  simp only [serve, Option.some.injEq, Prod.mk.injEq, Reply.snapshot.injEq] at served
  exact ⟨before, been, served.2⟩

/-- A document that was written was stored. -/
theorem stored_of_written {ref : DocumentRef} {data : Doc}
    (served : WasServed platform Been (.setData ref data) .written) :
    ∃ backend, Been backend ∧ get backend.documents ref = some data := by
  rcases served with refused | ⟨before, after, _, been, served⟩
  · cases refused
  cases served
  exact ⟨_, been, get_set_self⟩

/-- So were the fields that were merged into one. -/
theorem stored_of_merged {ref : DocumentRef} {data : Doc}
    (served : WasServed platform Been (.mergeData ref data) .written) :
    ∃ backend before, Been backend ∧ get backend.documents ref = some (mergeInto data before) := by
  rcases served with refused | ⟨before, after, _, been, served⟩
  · cases refused
  cases served
  exact ⟨_, _, been, get_setMerging_self⟩

/-- A read gives a username only if one was stored. -/
theorem wasNamed_of_snapshot {awaited : Call} {key username : String} {snapshot : Option Doc}
    (reads : awaited = .getDocument (userRef key))
    (served : WasServed platform Been awaited (.snapshot snapshot))
    (named : (snapshot.bind fun document => document.string "username") = some username) :
    WasNamed Been username := by
  obtain ⟨document, rfl, named⟩ := Option.bind_eq_some_iff.mp named
  obtain ⟨backend, been, stored⟩ := stored_of_snapshot reads served
  exact ⟨backend, key, document, been, stored, named⟩

theorem wasNamed_of_written {key username : String}
    (served : WasServed platform Been (.mergeData (userRef key) (usernameData username)) .written) :
    WasNamed Been username := by
  obtain ⟨backend, before, been, stored⟩ := stored_of_merged served
  exact ⟨backend, key, _, been, stored, string_eq_some.mpr (mergeInto_of_some rfl)⟩

theorem wasStreak_of_written {username : String} {streak : Int}
    (served : WasServed platform Been (.mergeData (streakRef username) (streakData username streak))
      .written) : WasStreak Been streak := by
  obtain ⟨backend, before, been, stored⟩ := stored_of_merged served
  exact ⟨backend, username, _, been, stored, int_of_some (mergeInto_of_some rfl)⟩

/-- An account that is decoded has a username only if one was stored, and no streak. -/
theorem genuine_of_decoded (past : Past quiz Been) {key : String} {document : Doc}
    {awaited : Call} (reads : awaited = .getDocument (userRef key))
    (served : WasServed platform Been awaited (.snapshot (some document)))
    (decoded : User.decode document = some user) : user.Genuine Been := by
  obtain ⟨backend, been, stored⟩ := stored_of_snapshot reads served
  obtain ⟨db, encodes⟩ := past.written backend been
  have table := readsAs_of_encodes encodes
  have whole := table.user key
  rw [stored, Option.bind_some, decoded] at whole
  obtain ⟨entry, listed, whole⟩ := Option.bind_eq_some_iff.mp whole.symm
  obtain ⟨email, _, rfl⟩ := Option.map_eq_some_iff.mp whole
  refine ⟨fun username named => ⟨backend, key, document, been, stored, ?_⟩, nofun⟩
  have field := table.username key
  rw [stored, listed] at field
  exact field.trans named

/-! ## The account -/

/-- An account of which only the names are known. -/
theorem genuine_ofFirebaseUser (user : FirebaseUser) : (User.ofFirebaseUser user).Genuine Been :=
  ⟨nofun, nofun⟩

theorem genuine_ofGoogleUser (user : GIDGoogleUser) : (User.ofGoogleUser user).Genuine Been :=
  ⟨nofun, nofun⟩

/-- An assignment to a field of the account, whoever it is. -/
theorem genuine_assigned {change : User → User}
    (known : ∀ user, d.currentUser = some user → user.Genuine Been)
    (keeps : ∀ user, user.Genuine Been → (change user).Genuine Been) :
    ∀ user, d.currentUser.map change = some user → user.Genuine Been := by
  intro user present
  obtain ⟨before, known', rfl⟩ := Option.map_eq_some_iff.mp present
  exact keeps before (known before known')

theorem user_of_resume {next : Option Task} (past : Past quiz Been)
    (resumed : resume platform task reply d = (d', next))
    (served : WasServed platform Been (call platform task) reply)
    (known : ∀ user, d.currentUser = some user → user.Genuine Been) :
    ∀ user, d'.currentUser = some user → user.Genuine Been := by
  have naming : ∀ username, WasNamed Been username → ∀ user, (d.currentUser.map fun user =>
      { user with username := some username }) = some user → user.Genuine Been := by
    intro username was
    apply genuine_assigned known
    intro user genuine
    exact ⟨fun _ same => Option.some.inj same ▸ was, genuine.counted⟩
  have counting : ∀ streak, WasStreak Been streak → ∀ user, (d.currentUser.map fun user =>
      { user with streak := some streak }) = some user → user.Genuine Been := by
    intro streak was
    apply genuine_assigned known
    intro user genuine
    exact ⟨genuine.named, fun _ same => Option.some.inj same ▸ was⟩
  have assigned := assigned_of_resume resumed
  generalize d'.currentUser = account at assigned ⊢
  intro user present
  cases assigned with
  | kept => exact known user present
  | login | registered | restoredFirebase =>
    cases present
    exact genuine_ofFirebaseUser _
  | adopted | googleAccountWritten | restoredGoogle =>
    cases present
    exact genuine_ofGoogleUser _
  | accountFound decoded | googleAccountFound decoded =>
    cases present
    exact genuine_of_decoded past rfl served decoded
  | googleUsername named | username named =>
    exact naming _ (wasNamed_of_snapshot rfl served named) user present
  | named => exact naming _ (wasNamed_of_written served) user present
  | @streak email username snapshot streak counted =>
    obtain ⟨document, rfl, counted⟩ := Option.bind_eq_some_iff.mp counted
    obtain ⟨backend, been, stored⟩ := stored_of_snapshot rfl served
    exact counting _ ⟨backend, username, document, been, stored, counted⟩ user present
  | reset | counted => exact counting _ (wasStreak_of_written served) user present
  | loggedOut => cases present

/-! ## The views -/

/-- A change of a view that keeps it genuine. -/
theorem views_onView {u : ℕ} {change : TriviaGameView → TriviaGameView}
    (known : ∀ v view, d.views v = some view → view.Genuine quiz Been)
    (keeps : ∀ view, view.Genuine quiz Been → (change view).Genuine quiz Been) :
    ∀ v view, (d.onView u change).views v = some view → view.Genuine quiz Been := by
  intro v view shown
  by_cases here : v = u
  · subst here
    simp only [Device.onView, Function.update_self] at shown
    obtain ⟨before, there, rfl⟩ := Option.map_eq_some_iff.mp shown
    exact keeps before (known v before there)
  · simp only [Device.onView, Function.update_of_ne here] at shown
    exact known v view shown

/-- The other fields of a view do not matter. -/
theorem views_onView' {u : ℕ} {change : TriviaGameView → TriviaGameView}
    (known : ∀ v view, d.views v = some view → view.Genuine quiz Been)
    (asked : ∀ view, (change view).currentQuestion = view.currentQuestion)
    (answered : ∀ view, (change view).submittedAnswer = view.submittedAnswer) :
    ∀ v view, (d.onView u change).views v = some view → view.Genuine quiz Been :=
  views_onView known fun view genuine =>
    ⟨asked view ▸ genuine.asked, answered view ▸ genuine.answered⟩

/-- What `checkResponseExists` makes a view show is what it has read. -/
theorem checkResponse_decodes {v : ℕ} {today : String} {snapshot : Option Doc}
    (checked : d.checkResponseExists v today snapshot = .ok d') :
    d' = d ∨ ∃ document answer, snapshot = some document ∧
      SubmittedAnswer.decode document = some answer ∧
      d' = d.onView v fun view => { view with submittedAnswer := some answer } := by
  cases snapshot with
  | none =>
    cases checked
    exact .inl rfl
  | some document =>
    simp only [Device.checkResponseExists] at checked
    split at checked
    · split at checked <;> cases checked
      exact .inr ⟨document, _, rfl, ‹_›, rfl⟩
    · cases checked
      exact .inl rfl

theorem views_of_readResponse {v : ℕ} {username today : String}
    (served : WasServed platform Been (.getDocument (responseRef username today)) reply)
    (known : ∀ v view, d.views v = some view → view.Genuine quiz Been) :
    ∀ u view, ((LoadTask.readResponse username today).resume platform v reply d).1.views u =
      some view → view.Genuine quiz Been := by
  cases reply with
  | snapshot snapshot =>
    simp only [LoadTask.resume]
    split
    · rcases checkResponse_decodes ‹_› with rfl | ⟨document, answer, rfl, decoded, rfl⟩
      · exact views_onView' known (fun _ => rfl) fun _ => rfl
      · refine views_onView' (views_onView known ?_) (fun _ => rfl) fun _ => rfl
        intro view genuine
        obtain ⟨backend, been, stored⟩ := stored_of_snapshot rfl served
        refine ⟨genuine.asked, fun _ same => ?_⟩
        obtain rfl := Option.some.inj same
        exact ⟨backend, username, today, document, been, stored, decoded⟩
    · exact views_onView' known (fun _ => rfl) fun _ => rfl
  | refused => exact views_onView' known (fun _ => rfl) fun _ => rfl
  | _ => exact known

/-- A question that was loaded is one of the quiz. -/
theorem inQuiz_of_snapshot (past : Past quiz Been) {today : String} {document : Doc}
    {question : TriviaQuestion}
    (served : WasServed platform Been (.getDocument (questionRef today)) (.snapshot (some document)))
    (decoded : TriviaQuestion.decode document = some question) : InQuiz quiz question := by
  obtain ⟨backend, been, stored⟩ := stored_of_snapshot rfl served
  refine ⟨today, document, ?_, decoded⟩
  rw [← stored, Documents.get, Documents.get]
  exact congrArg (·.lookup today) (past.quiz backend been).symm

theorem wasAnswered_of_written {question : TriviaQuestion} {answerText username today : String}
    (served : WasServed platform Been (.setData (responseRef username today)
      (responseData platform question answerText username)) .written) :
    WasAnswered Been (submitted platform question answerText) := by
  obtain ⟨backend, been, stored⟩ := stored_of_written served
  exact ⟨backend, username, today, _, been, stored, decode_responseData _ _ _ _⟩

theorem views_of_resume {next : Option Task} (past : Past quiz Been)
    (resumed : resume platform task reply d = (d', next))
    (served : WasServed platform Been (call platform task) reply)
    (known : ∀ v view, d.views v = some view → view.Genuine quiz Been) :
    ∀ v view, d'.views v = some view → view.Genuine quiz Been := by
  obtain rfl : (resume platform task reply d).1 = d' := congrArg Prod.fst resumed
  cases viewed : task.view with
  | none =>
    cases task with
    | signIn task =>
      obtain ⟨_, _, _, _, same⟩ := signIn_frame task reply d
      simp only [resume, same]
      exact known
    | _ => cases viewed
  | some u =>
    by_cases reads : ∃ username today, task = .load u (.readResponse username today)
    · obtain ⟨username, today, rfl⟩ := reads
      exact views_of_readResponse served known
    have leaves := @leaves_of_resume platform u task viewed reply d
    generalize (resume platform task reply d).1 = left at leaves ⊢
    have opened : ∀ v view, (d.onView u fun view => { view with isLoading := true }).views v =
        some view → view.Genuine quiz Been := views_onView' known (fun _ => rfl) fun _ => rfl
    cases leaves with
    | kept => exact known
    | refreshed =>
      simp only [Device.refreshData]
      split
      · refine views_onView opened fun view _ => ⟨fun question asked => ?_, fun answer answered => ?_⟩
        · cases asked
        · cases answered
      · exact opened
    | loaded decoded =>
      refine views_onView known fun view genuine => ⟨fun question same => ?_, genuine.answered⟩
      obtain rfl := Option.some.inj same
      exact inQuiz_of_snapshot past served decoded
    | found _ => exact absurd ⟨_, _, rfl⟩ reads
    | answered =>
      refine views_onView known fun view genuine => ⟨genuine.asked, fun answer same => ?_⟩
      obtain rfl := Option.some.inj same
      exact wasAnswered_of_written served
    | counted | named => exact views_onView' known (fun _ => rfl) fun _ => rfl
    | loggedOut cleared =>
      refine views_onView' ?_ (fun view => by rw [cleared]) fun view => by rw [cleared]
      intro v view shown
      obtain ⟨before, there, rfl⟩ := Option.map_eq_some_iff.mp shown
      exact ⟨(opened v before there).asked, (opened v before there).answered⟩
    | _ => exact views_onView' known (fun _ => rfl) fun _ => rfl

/-- An event makes no view show anything. -/
theorem device_of_react {event : Event} {next : Option Task}
    (reacted : react platform event d = some (d', next)) (genuine : d.Genuine quiz Been) :
    d'.Genuine quiz Been := by
  cases reacts_of_react reacted with
  | kept _ => exact genuine
  | midnight | launched | observed => exact ⟨genuine.user, genuine.views⟩
  | @appeared u _ =>
    refine ⟨genuine.user, fun v view shown => ?_⟩
    by_cases here : v = u
    · subst here
      simp only [Function.update_self] at shown
      cases shown
      exact ⟨nofun, nofun⟩
    · simp only [Function.update_of_ne here] at shown
      exact genuine.views v view shown
  | typed => exact ⟨genuine.user, views_onView' genuine.views (fun _ => rfl) fun _ => rfl⟩

theorem genuine_relaunch (d : Device) : (relaunch d).Genuine quiz Been where
  user _ present := by cases present
  views _ _ shown := by cases shown

/-! ## The tasks -/

/-- The form that is filled in from what a view and the account show. -/
def Device.reviewForm (d : Device) (answer : SubmittedAnswer) (question : TriviaQuestion) :
    ReviewForm where
  submittedAnswer := answer
  correctAnswer := question.correctAnswer
  username := d.username.getD "unknown username"
  question := question.question
  streak := d.streak.getD 0

/-- A review is asked for where a wrong answer is shown. -/
theorem review_of_react {v : ℕ} {userNote : String} {next : Task}
    (reacted : react platform (.tapSubmitReview v userNote) d = some (d', some next)) :
    ∃ view answer question, d.uncovered v = some view ∧ view.submittedAnswer = some answer ∧
      view.currentQuestion = some question ∧ answer.answerOutcome = false ∧
      next = .review v (.submitReview (d.reviewForm answer question) userNote) := by
  simp only [react] at reacted
  split at reacted
  case h_2 => cases reacted
  case h_1 view shown =>
    split at reacted
    case h_2 => cases reacted
    case h_1 answer question answered asked =>
      split at reacted <;> cases reacted
      exact ⟨view, answer, question, shown, answered, asked, by simp_all, rfl⟩

theorem genuine_form (genuine : d.Genuine quiz Been) {answer : SubmittedAnswer}
    {question : TriviaQuestion} (answered : WasAnswered Been answer) (asked : InQuiz quiz question)
    (wrong : answer.answerOutcome = false) : (d.reviewForm answer question).Genuine quiz Been where
  asked := ⟨question, asked, rfl, rfl⟩
  answered := answered
  wrong := wrong
  named := by
    cases named : d.username with
    | none => exact .inl (by simp [Device.reviewForm, named])
    | some username =>
      obtain ⟨user, present, named'⟩ := Option.bind_eq_some_iff.mp named
      have was := (genuine.user user present).named username named'
      exact .inr (by simpa [Device.reviewForm, named] using was)
  counted := by
    cases counted : d.streak with
    | none => exact .inl (by simp [Device.reviewForm, counted])
    | some streak =>
      obtain ⟨user, present, counted'⟩ := Option.bind_eq_some_iff.mp counted
      have was := (genuine.user user present).counted streak counted'
      exact .inr (by simpa [Device.reviewForm, counted] using was)

theorem task_of_react {event : Event} {next : Task}
    (reacted : react platform event d = some (d', some next)) (genuine : d.Genuine quiz Been) :
    next.Genuine quiz Been := by
  cases begins_of_react reacted with
  | review _ _ =>
    obtain ⟨view, answer, question, shown, answered, asked, wrong, same⟩ := review_of_react reacted
    cases same
    obtain ⟨there, _⟩ := Option.filter_eq_some_iff.mp (Option.filter_eq_some_iff.mp shown).1
    have known := genuine.views _ view there
    exact genuine_form genuine (known.answered answer answered) (known.asked question asked) wrong
  | _ => trivial

theorem task_of_resume {next : Task} (resumed : resume platform task reply d = (d', some next))
    (device : d.Genuine quiz Been) (genuine : task.Genuine quiz Been) : next.Genuine quiz Been := by
  cases continues_of_resume resumed with
  | answer shown _ asked _ => exact (device.views _ _ shown).asked _ asked
  | review | reviewsRead _ | reviewComposed => exact genuine
  | _ => trivial

/-! ## Whole runs -/

theorem allGenuine_step (moved : Move platform w action w')
    (more : ∀ backend, Been backend → Been' backend) (now : Been' w.store) (next : Been' w'.store)
    (past : Past quiz Been) (genuine : AllGenuine platform quiz Been w) :
    AllGenuine platform quiz Been' w' where
  devices site := by
    cases moved.memory site with
    | kept same =>
      rw [same]
      exact (genuine.devices site).later more
    | reacted reacted => exact (device_of_react reacted (genuine.devices site)).later more
    | restarted gone =>
      rw [gone]
      exact genuine_relaunch _
    | resumed held resumed =>
      have known := genuine.devices site
      have served := genuine.served _ _ _ _ held
      have after : (w'.sites site).Genuine quiz Been :=
        ⟨user_of_resume past resumed served known.user,
          views_of_resume past resumed served known.views⟩
      exact after.later more
  tasks number site task phase present := by
    cases moved.pool present with
    | kept held _ | served held _ | failed held =>
      exact genuine_later more (genuine.tasks _ _ _ _ held)
    | spawned reacted _ => exact genuine_later more (task_of_react reacted (genuine.devices site))
    | resumed held resumed =>
      exact genuine_later more
        (task_of_resume resumed (genuine.devices site) (genuine.tasks _ _ _ _ held))
  served number site task reply present := by
    cases moved.pool present with
    | kept held _ => exact (genuine.served _ _ _ _ held).later more
    | served _ served => exact .inr ⟨w.store, w'.store, now, next, served⟩
    | failed _ => exact .inl rfl
  responses username day document stored := by
    rcases moved.store with same | ⟨_, _, task, _, _, held, served⟩
    · exact genuine.responses username day document (same ▸ stored)
    · rcases serve_response served username day with same | ⟨v, question, answerText, rfl, wrote⟩
      · exact genuine.responses username day document (same.symm.trans stored)
      · obtain rfl := Option.some.inj (stored.symm.trans wrote)
        exact ⟨question, answerText, genuine.tasks _ _ _ _ held, rfl⟩
  reviews username document stored := by
    have older : ∀ {document},
        get w.store.documents (manualReviewRef username) = some document →
        ∃ form userNote date, form.Genuine quiz Been' ∧ document = reviewData form userNote date := by
      intro document stored
      obtain ⟨form, userNote, date, known, same⟩ := genuine.reviews username document stored
      exact ⟨form, userNote, date, known.later more, same⟩
    rcases moved.store with same | ⟨_, _, task, _, _, held, served⟩
    · exact older (same ▸ stored)
    · rcases serve_review served username with same | ⟨v, form, userNote, today, rfl, _, wrote⟩
      · exact older (same.symm.trans stored)
      · obtain rfl := Option.some.inj (stored.symm.trans wrote)
        have known : form.Genuine quiz Been := genuine.tasks _ _ _ _ held
        exact ⟨form, userNote, today, known.later more, rfl⟩

/-- The stores of a run. -/
def PastBackend (platform : Platform) (start : World) (actions : List Action) (backend : Backend) :
    Prop :=
  ∃ w, Visited (step platform) start actions w ∧ w.store = backend

variable {start after : World} {actions : List Action}

theorem quiz_step (moved : Move platform w action w') :
    w'.store.documents .questions = w.store.documents .questions := by
  rcases moved.store with same | ⟨_, _, task, _, _, held, served⟩
  · rw [same]
  · rcases serve_documents served with same | ⟨ref, change, wrote, same⟩
    · rw [same]
    · rw [same, Documents.set]
      exact Function.update_of_ne (Ne.symm (collection_of_write wrote)) _ _

theorem past_of_run (initial : Initial start) :
    Past start.store (PastBackend platform start actions) where
  quiz := by
    rintro backend ⟨w, ⟨earlier, _, executed⟩, rfl⟩
    have run : Run (step platform) Any start earlier w := .of_execute (fun _ _ _ => trivial) executed
    refine run.invariant
      (fun w => w.store.documents .questions = start.store.documents .questions) rfl ?_
    intro before action after held _ moved
    exact (quiz_step (Async.move_of_step moved)).trans held
  written := by
    rintro backend ⟨w, ⟨earlier, _, executed⟩, rfl⟩
    exact ⟨_, encodes_run initial (.of_execute (fun _ _ _ => trivial) executed)⟩

theorem allGenuine_of_initial (initial : Initial w) : AllGenuine platform w.store Been w where
  devices site := by
    rw [initial.newInstallation]
    exact genuine_relaunch { day := (w.sites site).day }
  tasks number site task phase held := by
    rw [initial.noJob] at held
    cases held
  served number site task reply held := by
    rw [initial.noJob] at held
    cases held
  responses username day document stored := by
    have nothing := initial.noDocument (responseRef username day) nofun
    exact absurd (nothing.symm.trans stored) nofun
  reviews username document stored := by
    have nothing := initial.noDocument (manualReviewRef username) nofun
    exact absurd (nothing.symm.trans stored) nofun

theorem allGenuine_of_run (initial : Initial start)
    (run : Run (step platform) Any start actions after) :
    AllGenuine platform start.store (PastBackend platform start actions) after := by
  induction run with
  | nil => exact allGenuine_of_initial initial
  | @snoc actions before after action run _ moved ih =>
    have more : ∀ backend, PastBackend platform start actions backend →
        PastBackend platform start (actions ++ [action]) backend :=
      fun backend ⟨w, visited, same⟩ => ⟨w, visited.append [action], same⟩
    have longer : Run (step platform) Any start (actions ++ [action]) after :=
      .snoc run trivial moved
    exact allGenuine_step (Async.move_of_step moved) more
      (more _ ⟨before, visited_last run.execute, rfl⟩) ⟨after, visited_last longer.execute, rfl⟩
      (past_of_run initial) ih

/-- Annie and Ben play, and Ben asks for a review. -/
def benAppeals : List Action :=
  bothAnswer ++ ([.react 1 (.tapSubmitReview 0 "It is a big city.") 0] : List Action) ++ advance 0 ++
  advance 0 ++ advance 0 ++ advance 0

theorem benAppeals_runs : ∃ after,
    execute (step march) (firstLaunch [capital]) benAppeals = some after ∧
    Run (step march) Any (firstLaunch [capital]) benAppeals after :=
  Run.exists_of_execute (by decide +kernel)

/-- In every run, whatever a device shows has been stored, and the question is one of the quiz. -/
theorem shown_of_run (platform : Platform) (start after : World) (actions : List Action)
    (initial : Initial start) (run : Run (step platform) Any start actions after) (site : ℕ) :
    (∀ user, (after.sites site).currentUser = some user →
      user.Genuine (PastBackend platform start actions)) ∧
    ∀ v view, (after.sites site).views v = some view →
      view.Genuine start.store (PastBackend platform start actions) := by
  have genuine := (allGenuine_of_run initial run).devices site
  exact ⟨genuine.user, genuine.views⟩

theorem shown_benAppeals : ∃ after,
    execute (step march) (firstLaunch [capital]) benAppeals = some after ∧
    (∀ user, (after.sites 1).currentUser = some user →
      user.Genuine (PastBackend march (firstLaunch [capital]) benAppeals)) ∧
    ∀ v view, (after.sites 1).views v = some view →
      view.Genuine (firstLaunch [capital]).store
        (PastBackend march (firstLaunch [capital]) benAppeals) := by
  obtain ⟨after, executed, run⟩ := benAppeals_runs
  exact ⟨after, executed, shown_of_run march _ after _ (initial_firstLaunch _) run 1⟩

/-- In every run, every response grades a question of the quiz, and every review request tells its
reader a question of the quiz with its answer, and a wrong answer that has been stored. -/
theorem recorded_of_run (platform : Platform) (start after : World) (actions : List Action)
    (initial : Initial start) (run : Run (step platform) Any start actions after) :
    (∀ username day document,
      get after.store.documents (responseRef username day) = some document →
      ∃ question answerText, InQuiz start.store question ∧
        document = responseData platform question answerText username) ∧
    ∀ username document, get after.store.documents (manualReviewRef username) = some document →
      ∃ form userNote date, form.Genuine start.store (PastBackend platform start actions) ∧
        document = reviewData form userNote date := by
  have genuine := allGenuine_of_run initial run
  exact ⟨genuine.responses, genuine.reviews⟩

theorem recorded_benAppeals : ∃ after,
    execute (step march) (firstLaunch [capital]) benAppeals = some after ∧
    (∀ username day document,
      get after.store.documents (responseRef username day) = some document →
      ∃ question answerText, InQuiz (firstLaunch [capital]).store question ∧
        document = responseData march question answerText username) ∧
    ∀ username document, get after.store.documents (manualReviewRef username) = some document →
      ∃ form userNote date, form.Genuine (firstLaunch [capital]).store
          (PastBackend march (firstLaunch [capital]) benAppeals) ∧
        document = reviewData form userNote date := by
  obtain ⟨after, executed, run⟩ := benAppeals_runs
  exact ⟨after, executed, recorded_of_run march _ after _ (initial_firstLaunch _) run⟩

example : ((execute (step march) (firstLaunch [capital]) benAppeals).bind fun after =>
    (get after.store.documents (manualReviewRef "ben")).bind ManualReview.decode).map
      ManualReview.submittedAnswer = some "Lyon" := by decide +kernel

end DailyTrivia
