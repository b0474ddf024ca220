import DailyTrivia.Provenance

/-!
What is stored was entered. A task carries what it has read off a device to the write, and whoever
signs in or out meanwhile, the document says what stood on one device at one moment: a response what
was typed under its question, a users document a username its sheet accepted, a review request the
wrong answer it is about. Which account was signed in when the sheet was opened is not among it: the
sheet asks one account and may store the username under another.

`Been` are the states that there have been, and `Done` are the actions with the states they were
taken in.
-/
namespace DailyTrivia

open Documents Runs

section Authentic

variable (platform : Platform) (Been : World → Prop) (Done : World → Action → Prop)

/-- A view asked the question and had the answer typed in, on the day and by the player it is stored
for; a blank one had been warned about. -/
def WasTyped (question : TriviaQuestion) (answerText username today : String) : Prop :=
  ∃ w site v view, Been w ∧ (w.sites site).views v = some view ∧
    view.currentQuestion = some question ∧ view.answerText = answerText ∧
    (isBlank answerText = true → view.warnedAboutEmptyAnswer = true) ∧
    (w.sites site).username = some username ∧
    today = platform.dateFormattedForDb (w.sites site).day

/-- A sheet that was shown on the device was submitted with this username, which it accepted. -/
def WasEntered (site : ℕ) (username : String) : Prop :=
  isUsernameValid platform username = true ∧
  ∃ w v number view, Done w (.react site (.tapSubmitUsername v username) number) ∧
    (w.sites site).shown v = some view ∧ view.showUsernameEntry = true

/-- The device it was entered on has been signed in to the account of the key. -/
def WasChosen (key username : String) : Prop :=
  ∃ site, WasEntered platform Done site username ∧
    ∃ w email, Been w ∧ (w.sites site).account = some email ∧ key = sanitizedEmail email

/-- The request was submitted with this note where a wrong answer was shown. -/
def WasAppealed (form : ReviewForm) (userNote : String) : Prop :=
  ∃ w site v number view answer question,
    Done w (.react site (.tapSubmitReview v userNote) number) ∧
    (w.sites site).uncovered v = some view ∧ view.submittedAnswer = some answer ∧
    view.currentQuestion = some question ∧ answer.answerOutcome = false ∧
    form = (w.sites site).reviewForm answer question

/-- A device had this date. -/
def WasToday (today : String) : Prop :=
  ∃ w site, Been w ∧ today = platform.dateFormattedForDb (w.sites site).day

def Task.Authentic (site : ℕ) : Task → Prop
  | .submit _ (.writeResponse question answerText username today) =>
    WasTyped platform Been question answerText username today
  | .enterUsername _ (.submitUsername username) => WasEntered platform Done site username
  | .enterUsername _ (.writeUsername key username) => WasChosen platform Been Done key username
  | .review _ (.writeReview form userNote today) =>
    WasAppealed Done form userNote ∧ WasToday platform Been today
  | .review _ (.submitReview form userNote) | .review _ (.readReviews form userNote)
  | .review _ (.composeReview form userNote) => WasAppealed Done form userNote
  | _ => True

/-- What is stored was entered, and so was what is about to be stored. -/
structure Authentic (w : World) : Prop where
  tasks : ∀ number site task phase, w.pool number = some ⟨site, task, phase⟩ →
    task.Authentic platform Been Done site
  responses : ∀ username today document,
    get w.store.documents (responseRef username today) = some document →
    ∃ question answerText, WasTyped platform Been question answerText username today ∧
      document = responseData platform question answerText username
  usernames : ∀ key username, storedUsername w key = some username →
    WasChosen platform Been Done key username
  reviews : ∀ username document,
    get w.store.documents (manualReviewRef username) = some document →
    ∃ form userNote today, WasAppealed Done form userNote ∧ form.username = username ∧
      WasToday platform Been today ∧ document = reviewData form userNote today

end Authentic

variable {platform : Platform} {Been Been' : World → Prop} {Done Done' : World → Action → Prop}
variable {w w' start after : World}
variable {action : Action} {actions : List Action} {site : ℕ} {task : Task}

/-! ## What has been stays so -/

section Later

variable (more : ∀ w, Been w → Been' w) (further : ∀ w action, Done w action → Done' w action)

include more in
theorem WasTyped.later {question : TriviaQuestion} {answerText username today : String}
    (was : WasTyped platform Been question answerText username today) :
    WasTyped platform Been' question answerText username today := by
  obtain ⟨w, site, v, view, been, typed⟩ := was
  exact ⟨w, site, v, view, more w been, typed⟩

include further in
theorem WasEntered.later {username : String} (was : WasEntered platform Done site username) :
    WasEntered platform Done' site username := by
  obtain ⟨accepted, w, v, number, view, done, asked⟩ := was
  exact ⟨accepted, w, v, number, view, further w _ done, asked⟩

include more further in
theorem WasChosen.later {key username : String} (was : WasChosen platform Been Done key username) :
    WasChosen platform Been' Done' key username := by
  obtain ⟨site, entered, w, email, been, account⟩ := was
  exact ⟨site, entered.later further, w, email, more w been, account⟩

include further in
theorem WasAppealed.later {form : ReviewForm} {userNote : String}
    (was : WasAppealed Done form userNote) : WasAppealed Done' form userNote := by
  obtain ⟨w, site, v, number, view, answer, question, done, appealed⟩ := was
  exact ⟨w, site, v, number, view, answer, question, further w _ done, appealed⟩

include more in
theorem WasToday.later {today : String} (was : WasToday platform Been today) :
    WasToday platform Been' today := by
  obtain ⟨w, site, been, same⟩ := was
  exact ⟨w, site, more w been, same⟩

include more further in
theorem Task.Authentic.later (authentic : task.Authentic platform Been Done site) :
    task.Authentic platform Been' Done' site := by
  cases task with
  | submit v task =>
    cases task with
    | writeResponse => exact WasTyped.later more authentic
    | _ => trivial
  | enterUsername v task =>
    cases task with
    | submitUsername => exact WasEntered.later further authentic
    | writeUsername => exact WasChosen.later more further authentic
  | review v task =>
    cases task with
    | writeReview => exact ⟨authentic.1.later further, authentic.2.later more⟩
    | _ => exact WasAppealed.later further authentic
  | _ => trivial

end Later

/-! ## The tasks -/

/-- A task that begins has what is on the device. -/
theorem authentic_of_react {d' : Device} {event : Event} {number : ℕ}
    (now : Done w (.react site event number))
    (reacted : react platform event (w.sites site) = some (d', some task)) :
    task.Authentic platform Been Done site := by
  cases begins_of_react reacted with
  | username shown asks => exact ⟨chosen_of_react reacted, w, _, number, _, now, shown, asks⟩
  | review _ _ =>
    obtain ⟨view, answer, question, shown, answered, asked, wrong, same⟩ := review_of_react reacted
    cases same
    exact ⟨w, site, _, number, view, answer, question, now, shown, answered, asked, wrong, rfl⟩
  | _ => trivial

/-- A task that goes on has what it had and what is on the device. -/
theorem authentic_of_resume {d' : Device} {reply : Reply} {next : Task} (now : Been w)
    (resumed : resume platform task reply (w.sites site) = (d', some next))
    (authentic : task.Authentic platform Been Done site) :
    next.Authentic platform Been Done site := by
  cases continues_of_resume resumed with
  | @answer v view question username _ shown unwarned asked named =>
    refine ⟨w, site, v, view, now, shown, asked, rfl, fun blank => ?_, named, rfl⟩
    simpa [blank] using unwarned
  | submitUsername account => exact ⟨site, authentic, w, _, now, account, rfl⟩
  | review | reviewsRead _ => exact authentic
  | reviewComposed => exact ⟨authentic, w, site, now, rfl⟩
  | _ => trivial

/-! ## Whole runs -/

theorem authentic_step (moved : Move platform w action w') (more : ∀ w, Been w → Been' w)
    (further : ∀ w action, Done w action → Done' w action) (now : Been w) (taken : Done' w action)
    (authentic : Authentic platform Been Done w) : Authentic platform Been' Done' w' where
  tasks number site task phase present := by
    cases moved.pool present with
    | kept held _ | served held _ | failed held =>
      exact (authentic.tasks _ _ _ _ held).later more further
    | spawned reacted _ => exact authentic_of_react taken reacted
    | resumed held resumed =>
      exact (authentic_of_resume now resumed (authentic.tasks _ _ _ _ held)).later more further
  responses username today document stored := by
    have older : ∀ {document},
        get w.store.documents (responseRef username today) = some document →
        ∃ question answerText, WasTyped platform Been' question answerText username today ∧
          document = responseData platform question answerText username := by
      intro document stored
      obtain ⟨question, answerText, typed, same⟩ := authentic.responses username today document stored
      exact ⟨question, answerText, typed.later more, same⟩
    rcases moved.store with same | ⟨_, _, task, _, _, held, served⟩
    · exact older (same ▸ stored)
    · rcases serve_response served username today with same | ⟨v, question, answerText, rfl, wrote⟩
      · exact older (same.symm.trans stored)
      · obtain rfl := Option.some.inj (stored.symm.trans wrote)
        have typed : WasTyped platform Been question answerText username today :=
          authentic.tasks _ _ _ _ held
        exact ⟨question, answerText, typed.later more, rfl⟩
  usernames key username stored := by
    rcases storedUsername_origin moved stored with before | ⟨_, _, _, _, held⟩
    · exact (authentic.usernames key username before).later more further
    · have chosen : WasChosen platform Been Done key username := authentic.tasks _ _ _ _ held
      exact chosen.later more further
  reviews username document stored := by
    have older : ∀ {document},
        get w.store.documents (manualReviewRef username) = some document →
        ∃ form userNote today, WasAppealed Done' form userNote ∧ form.username = username ∧
          WasToday platform Been' today ∧ document = reviewData form userNote today := by
      intro document stored
      obtain ⟨form, userNote, today, appealed, named, dated, same⟩ :=
        authentic.reviews username document stored
      exact ⟨form, userNote, today, appealed.later further, named, dated.later more, same⟩
    rcases moved.store with same | ⟨_, _, task, _, _, held, served⟩
    · exact older (same ▸ stored)
    · rcases serve_review served username with same | ⟨v, form, userNote, today, rfl, named, wrote⟩
      · exact older (same.symm.trans stored)
      · obtain rfl := Option.some.inj (stored.symm.trans wrote)
        obtain ⟨appealed, dated⟩ : WasAppealed Done form userNote ∧ WasToday platform Been today :=
          authentic.tasks _ _ _ _ held
        exact ⟨form, userNote, today, appealed.later further, named, dated.later more, rfl⟩

theorem authentic_of_initial (initial : Initial w) : Authentic platform Been Done w where
  tasks number site task phase held := by
    rw [initial.noJob] at held
    cases held
  responses username today document stored := by
    have nothing := initial.noDocument (responseRef username today) nofun
    exact absurd (nothing.symm.trans stored) nofun
  usernames key username stored := by
    rw [storedUsername_of_initial initial] at stored
    cases stored
  reviews username document stored := by
    have nothing := initial.noDocument (manualReviewRef username) nofun
    exact absurd (nothing.symm.trans stored) nofun

theorem authentic_run (initial : Initial start)
    (run : Run (step platform) Any start actions after) :
    Authentic platform (Visited (step platform) start actions) (Taken (step platform) start actions)
      after := by
  induction run with
  | nil => exact authentic_of_initial initial
  | @snoc actions before after action run _ moved ih =>
    have more : ∀ w, Visited (step platform) start actions w →
        Visited (step platform) start (actions ++ [action]) w :=
      fun w visited => visited.append [action]
    have further : ∀ w done, Taken (step platform) start actions w done →
        Taken (step platform) start (actions ++ [action]) w done :=
      fun w done taken => taken.append [action]
    exact authentic_step (Async.move_of_step moved) more further (visited_last run.execute)
      (taken_last run.execute) ih

/-- In every run, every stored response was typed in under its question, by the player and on the
day it is stored for; every stored username was submitted in a sheet, which accepted it, on a device
that has been signed in to the account; and every stored review request was submitted, with its note,
where its wrong answer was shown. -/
theorem authentic_of_run (platform : Platform) (start after : World) (actions : List Action)
    (initial : Initial start) (run : Run (step platform) Any start actions after) :
    (∀ username today document,
      get after.store.documents (responseRef username today) = some document →
      ∃ question answerText,
        WasTyped platform (Visited (step platform) start actions) question answerText username today ∧
        document = responseData platform question answerText username) ∧
    (∀ key username, storedUsername after key = some username →
      WasChosen platform (Visited (step platform) start actions)
        (Taken (step platform) start actions) key username) ∧
    ∀ username document, get after.store.documents (manualReviewRef username) = some document →
      ∃ form userNote today, WasAppealed (Taken (step platform) start actions) form userNote ∧
        form.username = username ∧ WasToday platform (Visited (step platform) start actions) today ∧
        document = reviewData form userNote today := by
  have authentic := authentic_run initial run
  exact ⟨authentic.responses, authentic.usernames, authentic.reviews⟩

theorem authentic_benAppeals : ∃ after,
    execute (step march) (firstLaunch [capital]) benAppeals = some after ∧
    (∀ username today document,
      get after.store.documents (responseRef username today) = some document →
      ∃ question answerText,
        WasTyped march (Visited (step march) (firstLaunch [capital]) benAppeals) question answerText
          username today ∧
        document = responseData march question answerText username) ∧
    (∀ key username, storedUsername after key = some username →
      WasChosen march (Visited (step march) (firstLaunch [capital]) benAppeals)
        (Taken (step march) (firstLaunch [capital]) benAppeals) key username) ∧
    ∀ username document, get after.store.documents (manualReviewRef username) = some document →
      ∃ form userNote today,
        WasAppealed (Taken (step march) (firstLaunch [capital]) benAppeals) form userNote ∧
        form.username = username ∧
        WasToday march (Visited (step march) (firstLaunch [capital]) benAppeals) today ∧
        document = reviewData form userNote today := by
  obtain ⟨after, executed, run⟩ := benAppeals_runs
  exact ⟨after, executed, authentic_of_run march _ after _ (initial_firstLaunch _) run⟩

end DailyTrivia
