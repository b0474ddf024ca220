import DailyTrivia.App

/-!
A submission whose writes may fail. `submitAnswer` writes the response, mirrors it, then
writes the streak and mirrors that; an error is shown and ends it where it is thrown.

If nothing else acts between its awaits, a failed response write leaves everything as it was, and a
failed streak write leaves a response that is stored and shown but not counted. What others do
meanwhile, a logout or another submission, is left out here.
-/
namespace DailyTrivia

open Documents Runs

/-- Response, streak and their mirrors are as they were. -/
structure Unchanged (site v : ℕ) (before after : World) : Prop where
  store : after.store = before.store
  submittedAnswer : (after.sites site).submittedAnswer v = (before.sites site).submittedAnswer v
  streak : (after.sites site).streak = (before.sites site).streak

/-- The response is stored and mirrored in `submittedAnswer`. -/
structure Recorded (platform : Platform) (site v : ℕ) (question : TriviaQuestion)
    (answerText username : String) (before after : World) : Prop where
  response : get after.store.documents
    (responseRef username (platform.dateFormattedForDb (before.sites site).day)) =
      some (responseData platform question answerText username)
  submittedAnswer : (after.sites site).submittedAnswer v =
    some (submitted platform question answerText)

/-- The streak an answer leads to. -/
def nextStreak (correct : Bool) (streak : Option Int) : Int :=
  if correct then streak.getD 0 + 1 else 0

/-- The matching streak update is stored and mirrored in `currentUser`. -/
structure Counted (site : ℕ) (correct : Bool) (username : String) (before after : World) :
    Prop where
  stored : get after.store.documents (streakRef username) = some (mergeInto
    (streakData username (nextStreak correct (before.sites site).streak))
    (get before.store.documents (streakRef username)))
  mirrored : (after.sites site).streak = some (nextStreak correct (before.sites site).streak)

/-- No streak document has changed, and the mirror is as it was. -/
structure Uncounted (site : ℕ) (before after : World) : Prop where
  stored : ∀ username, get after.store.documents (streakRef username) =
    get before.store.documents (streakRef username)
  mirrored : (after.sites site).streak = (before.sites site).streak

/-- What view `v` is about to submit. -/
def Submits (w : World) (site v : ℕ) (question : TriviaQuestion) (answerText username : String) :
    Prop :=
  ((w.sites site).submitAnswer v).2 = some (question, answerText, username)

/-- A submission is all or nothing, whichever of its writes fail. -/
def AllOrNothing (platform : Platform) : Prop :=
  ∀ (start before after : World) (actions : List Action) (number site v : ℕ) (served : List Bool),
    Initial start → Run (step platform) Any start actions before →
    before.pool number = some ⟨site, .submit v .submitAnswer, .issued⟩ →
    execute (step platform) before (Async.awaits number served) = some after →
    after.pool number = none →
    Unchanged site v before after ∨ ∃ question answerText username,
      Submits before site v question answerText username ∧
      Recorded platform site v question answerText username before after ∧
      Counted site (isCorrect platform question answerText) username before after

/-- What is left of a submission that has ended, by how its calls were answered: its turn, the
response, the turn of the streak update, the streak. -/
inductive Outcome (platform : Platform) (site v : ℕ) (before after : World) : List Bool → Prop where
  /-- Nothing was submitted. -/
  | returned {turn : Bool} : Unchanged site v before after → Outcome platform site v before after [turn]
  | responseFailed {turn : Bool} : Unchanged site v before after →
      Outcome platform site v before after [turn, false]
  | streakFailed {turn back : Bool} {question : TriviaQuestion} {answerText username : String} :
      Submits before site v question answerText username →
      Recorded platform site v question answerText username before after →
      Uncounted site before after →
      Outcome platform site v before after [turn, true, back, false]
  | stored {turn back : Bool} {question : TriviaQuestion} {answerText username : String} :
      Submits before site v question answerText username →
      Recorded platform site v question answerText username before after →
      Counted site (isCorrect platform question answerText) username before after →
      Outcome platform site v before after [turn, true, back, true]

/-- What the failures of a submission leave behind. -/
structure SubmissionFailures (platform : Platform) : Prop where
  outcome : ∀ (before after : World) (number site v : ℕ) (served : List Bool),
    before.pool number = some ⟨site, .submit v .submitAnswer, .issued⟩ →
    execute (step platform) before (Async.awaits number served) = some after →
    after.pool number = none → Outcome platform site v before after served
  /-- A submission ends after any of its writes that fails, and when both are done. -/
  ends : ∀ (before : World) (number site v : ℕ) (question : TriviaQuestion)
    (answerText username : String) (counted : Bool),
    before.pool number = some ⟨site, .submit v .submitAnswer, .issued⟩ →
    Submits before site v question answerText username →
    (∃ after, execute (step platform) before (Async.awaits number [true, false]) = some after ∧
      after.pool number = none) ∧
    ∃ after, execute (step platform) before (Async.awaits number [true, true, true, counted]) =
      some after ∧ after.pool number = none

variable {platform : Platform} {v : ℕ} {d last : Device} {backend after : Backend}
variable {served : List Bool} {question : TriviaQuestion} {answerText username : String}

/-! ## The course of a submission -/

/-- `submitAnswer` changes no account and no answer before the write. -/
theorem submitAnswer_keeps (d : Device) (v : ℕ) :
    (d.submitAnswer v).1.currentUser = d.currentUser ∧ (d.submitAnswer v).1.day = d.day ∧
    (d.submitAnswer v).1.submittedAnswer v = d.submittedAnswer v := by
  cases shown : d.views v with
  | none => simp [Device.submitAnswer, shown]
  | some view =>
    simp only [Device.submitAnswer, shown]
    split <;> simp [Device.onView, Device.submittedAnswer, shown]

/-- A view that submits is there, and so is the username. -/
theorem submits_shown (submits : (d.submitAnswer v).2 = some (question, answerText, username)) :
    ((d.submitAnswer v).1.views v).isSome = true ∧ d.username = some username := by
  cases shown : d.views v with
  | none => simp [Device.submitAnswer, shown] at submits
  | some view =>
    simp only [Device.submitAnswer, shown] at submits ⊢
    split at submits
    · cases submits
    · split at submits <;> cases submits
      refine ⟨?_, ‹_›⟩
      split <;> simp [Device.onView, shown]

theorem resume_submitAnswer (platform : Platform)
    (submits : (d.submitAnswer v).2 = some (question, answerText, username)) (reply : Reply) :
    (app platform).resume (.submit v .submitAnswer) reply d = ((d.submitAnswer v).1,
      some (.submit v (.writeResponse question answerText username
        (platform.dateFormattedForDb d.day)))) := by
  obtain ⟨_, day, _⟩ := submitAnswer_keeps d v
  cases asked : d.submitAnswer v with
  | mk memory submission =>
    rw [asked] at submits day
    cases submits
    replace day : memory.day = d.day := day
    simp [app, resume, SubmitTask.resume, asked, day]

theorem resume_updateStreak (platform : Platform) (v : ℕ) (named : d.username = some username)
    (streak : Int) (reply : Reply) :
    (app platform).resume (.submit v (.updateStreak streak)) reply d =
      (d, some (.submit v (.writeStreak username streak))) := by
  simp [app, resume, SubmitTask.resume, Device.updateCurrentUsersStreak, named]

theorem alone_writeStreak {streak : Int} (ran : Async.alone (app platform) served backend d
      (.submit v (.writeStreak username streak)) = some (after, last)) :
    (served = [false] ∧ after = backend ∧ last = d.alert v (.error .service)) ∨
    (served = [true] ∧ last = (d.assignStreak streak).onView v
        (fun view => { view with isLoading := false }) ∧
      after.documents =
        setMerging backend.documents (streakRef username) (streakData username streak)) := by
  obtain ⟨first, rest, middle, reply, rfl, answered, ⟨_, rfl, rfl, rfl⟩ | ⟨next, goes, _⟩⟩ :=
    Async.alone_eq_some.mp ran
  · cases first with
    | false =>
      cases answered
      exact .inl ⟨rfl, rfl, rfl⟩
    | true =>
      cases answered
      exact .inr ⟨rfl, rfl, rfl⟩
  · cases first <;> cases answered <;> cases goes

theorem alone_updateStreak {streak : Int} (named : d.username = some username)
    (ran : Async.alone (app platform) served backend d (.submit v (.updateStreak streak)) =
      some (after, last)) :
    ∃ back rest, served = back :: rest ∧ Async.alone (app platform) rest backend d
      (.submit v (.writeStreak username streak)) = some (after, last) := by
  obtain ⟨back, rest, middle, reply, rfl, answered, going⟩ := Async.alone_eq_some.mp ran
  rw [resume_updateStreak platform v named] at going
  rcases going with ⟨ends, _⟩ | ⟨next, goes, ran⟩
  · cases ends
  · cases goes
    cases back <;> cases answered <;> exact ⟨_, _, rfl, ran⟩

/-- The device once a response is written: the answer is mirrored. -/
def Device.mirrorAnswer (platform : Platform) (d : Device) (v : ℕ) (question : TriviaQuestion)
    (answerText : String) : Device :=
  d.onView v fun view => { view with
    submittedAnswer := some (submitted platform question answerText) }

@[simp] theorem mirrorAnswer_username :
    (d.mirrorAnswer platform v question answerText).username = d.username := rfl

@[simp] theorem mirrorAnswer_streak :
    (d.mirrorAnswer platform v question answerText).streak = d.streak := rfl

/-- A mirrored answer is the view's answer. -/
theorem mirrorAnswer_submittedAnswer (platform : Platform) (question : TriviaQuestion)
    (answerText : String) (shown : (d.views v).isSome = true) :
    (d.mirrorAnswer platform v question answerText).submittedAnswer v =
      some (submitted platform question answerText) := by
  obtain ⟨view, shown⟩ := Option.isSome_iff_exists.mp shown
  simp [Device.mirrorAnswer, Device.onView, Device.submittedAnswer, shown]

theorem resume_writeResponse {today : String} :
    (app platform).resume (.submit v (.writeResponse question answerText username today))
      .written d = (d.mirrorAnswer platform v question answerText, some (.submit v
        (.updateStreak (nextStreak (isCorrect platform question answerText) d.streak)))) := rfl

theorem alone_writeResponse {today : String} (named : d.username = some username)
    (ran : Async.alone (app platform) served backend d
      (.submit v (.writeResponse question answerText username today)) = some (after, last)) :
    (served = [false] ∧ after = backend ∧ last = d.alert v (.error .service)) ∨
    ∃ back rest written, served = true :: back :: rest ∧
      written.documents = set backend.documents (responseRef username today)
        (responseData platform question answerText username) ∧
      Async.alone (app platform) rest written (d.mirrorAnswer platform v question answerText)
        (.submit v (.writeStreak username
          (nextStreak (isCorrect platform question answerText) d.streak))) = some (after, last) := by
  obtain ⟨first, rest, middle, reply, rfl, answered, going⟩ := Async.alone_eq_some.mp ran
  cases first with
  | false =>
    cases answered
    rcases going with ⟨_, rfl, rfl, rfl⟩ | ⟨next, goes, _⟩
    · exact .inl ⟨rfl, rfl, rfl⟩
    · cases goes
  | true =>
    cases answered
    rcases going with ⟨ends, _⟩ | ⟨next, goes, ran⟩
    · cases ends
    · cases goes
      have still : (d.mirrorAnswer platform v question answerText).username = some username := named
      obtain ⟨back, rest, rfl, more⟩ := alone_updateStreak still ran
      exact .inr ⟨back, rest, _, rfl, rfl, more⟩

theorem alone_submitAnswer (ran : Async.alone (app platform) served backend d
      (.submit v .submitAnswer) = some (after, last)) :
    (∃ turn, served = [turn] ∧ after = backend ∧ last = (d.submitAnswer v).1) ∨
    ∃ turn rest question answerText username, served = turn :: rest ∧
      (d.submitAnswer v).2 = some (question, answerText, username) ∧
      Async.alone (app platform) rest backend (d.submitAnswer v).1 (.submit v
        (.writeResponse question answerText username (platform.dateFormattedForDb d.day))) =
          some (after, last) := by
  obtain ⟨turn, rest, middle, reply, rfl, answered, going⟩ := Async.alone_eq_some.mp ran
  have same : middle = backend := by cases turn <;> cases answered <;> rfl
  subst same
  cases submits : (d.submitAnswer v).2 with
  | none =>
    have resumed : (app platform).resume (.submit v .submitAnswer) reply d =
        ((d.submitAnswer v).1, none) := by
      cases asked : d.submitAnswer v with
      | mk memory submission =>
        rw [asked] at submits
        cases submits
        simp [app, resume, SubmitTask.resume, asked]
    rw [resumed] at going
    rcases going with ⟨_, rfl, rfl, rfl⟩ | ⟨next, goes, _⟩
    · exact .inl ⟨turn, rfl, rfl, rfl⟩
    · cases goes
  | some submission =>
    obtain ⟨question, answerText, username⟩ := submission
    rw [resume_submitAnswer platform submits] at going
    rcases going with ⟨ends, _⟩ | ⟨next, goes, ran⟩
    · cases ends
    · cases goes
      exact .inr ⟨turn, rest, question, answerText, username, rfl, rfl, ran⟩

/-! ## What it leaves -/

theorem submission_outcome {before after : World} {number site : ℕ}
    (held : before.pool number = some ⟨site, .submit v .submitAnswer, .issued⟩)
    (executed : execute (step platform) before (Async.awaits number served) = some after)
    (ended : after.pool number = none) : Outcome platform site v before after served := by
  obtain ⟨store, memory, ran, rfl⟩ := (Async.execute_awaits held).mp ⟨executed, ended⟩
  obtain ⟨user, day, answer⟩ := submitAnswer_keeps (before.sites site) v
  have streak : ((before.sites site).submitAnswer v).1.streak = (before.sites site).streak := by
    simp only [Device.streak, user]
  rcases alone_submitAnswer ran with ⟨turn, rfl, rfl, rfl⟩ |
    ⟨turn, rest, question, answerText, username, rfl, submits, ran⟩
  · refine .returned ⟨rfl, ?_, ?_⟩
    · simpa using answer
    · simpa using streak
  obtain ⟨shown, named⟩ := submits_shown submits
  have still : ((before.sites site).submitAnswer v).1.username = some username := by
    simpa only [Device.username, user] using named
  rcases alone_writeResponse still ran with ⟨rfl, rfl, rfl⟩ |
    ⟨back, rest, written, rfl, wrote, ran⟩
  · refine .responseFailed ⟨rfl, ?_, ?_⟩
    · simpa using answer
    · simpa using streak
  have mirrored := mirrorAnswer_submittedAnswer platform question answerText shown
  rcases alone_writeStreak ran with ⟨rfl, rfl, rfl⟩ | ⟨rfl, rfl, counted⟩
  · refine .streakFailed submits ⟨?_, ?_⟩ ⟨fun name => ?_, ?_⟩
    · simp only [wrote, get_set_self]
    · simpa using mirrored
    · simp only [wrote]
      exact get_set_ne (streakRef_ne_responseRef _ _ _)
    · simpa using streak
  · obtain ⟨signedIn, present, _⟩ := Option.bind_eq_some_iff.mp named
    refine .stored submits ⟨?_, ?_⟩ ⟨?_, ?_⟩
    · simp only [counted]
      rw [get_setMerging_ne (streakRef_ne_responseRef _ _ _).symm, wrote, get_set_self]
    · simp only [Function.update_self]
      refine (Device.onView_submittedAnswer ?_).trans mirrored
      intro view
      rfl
    · simp only [counted, get_setMerging_self, wrote, streak]
      rw [get_set_ne (streakRef_ne_responseRef _ _ _)]
    · simp only [Function.update_self, streak]
      exact Device.assignStreak_streak _ (user.trans present) _

/-- The streak write is the last await of a submission. -/
theorem alone_counted (backend : Backend) (d : Device) (username : String) (streak : Int)
    (counted : Bool) : ∃ store memory, Async.alone (app platform) [counted] backend d
      (.submit v (.writeStreak username streak)) = some (store, memory) := by
  cases counted <;> exact ⟨_, _, rfl⟩

/-- A submission ends after any of its writes that fails, and when both are done. -/
theorem submission_ends {before : World} {number site : ℕ}
    (held : before.pool number = some ⟨site, .submit v .submitAnswer, .issued⟩)
    (submits : Submits before site v question answerText username) (counted : Bool)
    (course : served = [true, false] ∨ served = [true, true, true, counted]) :
    ∃ after, execute (step platform) before (Async.awaits number served) = some after ∧
      after.pool number = none := by
  have begins := resume_submitAnswer platform submits .resumed
  obtain ⟨user, _, _⟩ := submitAnswer_keeps (before.sites site) v
  have still : (((before.sites site).submitAnswer v).1.mirrorAnswer platform v question
      answerText).username = some username := by
    rw [mirrorAnswer_username]
    simpa only [Device.username, user] using (submits_shown submits).2
  have counts := resume_updateStreak platform v still
    (nextStreak (isCorrect platform question answerText)
      ((before.sites site).submitAnswer v).1.streak) .resumed
  have ran : ∃ store memory, Async.alone (app platform) served before.store (before.sites site)
      (.submit v .submitAnswer) = some (store, memory) := by
    rcases course with rfl | rfl
    · rw [Async.alone_goes rfl begins]
      exact ⟨_, _, rfl⟩
    · rw [Async.alone_goes rfl begins, Async.alone_goes rfl resume_writeResponse,
        Async.alone_goes rfl counts]
      exact alone_counted _ _ username _ counted
  obtain ⟨store, memory, ran⟩ := ran
  exact ⟨_, (Async.execute_awaits held).mpr ⟨store, memory, ran, rfl⟩⟩

/-- A submission with a failing write leaves everything as it was, or a response that is not
counted. -/
theorem submissionFailures (platform : Platform) : SubmissionFailures platform where
  outcome _ _ _ _ _ _ held executed ended := submission_outcome held executed ended
  ends _ _ _ _ _ _ _ counted held submits :=
    ⟨submission_ends held submits counted (.inl rfl), submission_ends held submits counted (.inr rfl)⟩

/-- Ann answers the first question, and her submission is about to begin. -/
def answering : List Action :=
  signUp 0 "ann@example.com" "annie" ++
  ([.react 0 (.tapSubmitAnswer 0 "Paris") 0] : List Action)

theorem answering_streakFails :
    ((execute (step march) (firstLaunch [capital]) answering).bind fun before =>
      (execute (step march) before (Async.awaits 0 [true, true, true, false])).map fun after =>
        (((before.pool 0).bind Async.Job.awaited, (after.pool 0).isNone),
          (before.sites 0).submittedAnswer 0, ((after.sites 0).submittedAnswer 0).isSome,
          (after.sites 0).streak)) =
      some ((some (0, .submit 0 .submitAnswer), true), none, true, none) := by
  decide +kernel

/-- A failed streak write leaves a stored response behind that is not counted. -/
theorem not_allOrNothing : ¬ AllOrNothing march := by
  intro claim
  obtain ⟨before, ran, more⟩ := Option.bind_eq_some_iff.mp answering_streakFails
  obtain ⟨after, later, outcome⟩ := Option.map_eq_some_iff.mp more
  simp only [Prod.mk.injEq] at outcome
  obtain ⟨⟨waiting, ended⟩, unanswered, answered, uncounted⟩ := outcome
  rcases claim (firstLaunch [capital]) before after answering 0 0 0 _ (initial_firstLaunch _)
    (.of_execute (fun _ _ _ => trivial) ran) (Async.issued_of_awaited waiting) later
    (Option.isNone_iff_eq_none.mp ended) with
    unchanged | ⟨question, answerText, username, submits, recorded, counted⟩
  · rw [unchanged.submittedAnswer, unanswered] at answered
    cases answered
  · have mirrored := counted.mirrored
    rw [uncounted] at mirrored
    cases mirrored

end DailyTrivia
