import DailyTrivia.DocumentWrites
import DailyTrivia.TaskFlow

/-!
Review requests that were accepted. `submitAnswerForManualReview` looks for a request of the
day by a query over usernames, and then replaces the whole document of the username, so a
request of another day is overwritten. The log holds the requests whose calls returned true;
`ReviewsSpared` is what keeps them.
-/
namespace DailyTrivia

open Documents Runs

/-- What is recorded of a review. -/
def request (form : ReviewForm) (userNote date : String) : ManualReview where
  username := form.username
  date := date
  question := form.question
  correctAnswer := form.correctAnswer
  submittedAnswer := form.submittedAnswer.userAnswer
  userNote := userNote
  outcome := form.submittedAnswer.answerOutcome
  streak := form.streak

theorem decode_request (form : ReviewForm) (userNote date : String) :
    ManualReview.decode (reviewData form userNote date) = some (request form userNote date) := rfl

/-- The requests whose calls have returned true, in order. -/
def observeReviews (accepted : List ManualReview) (w : World) : Action → List ManualReview
  | .resume number =>
    match w.pool number with
    | some ⟨_, .review _ (.writeReview form userNote today), .answered .written⟩ =>
      accepted ++ [request form userNote today]
    | _ => accepted
  | _ => accepted

/-- The app and the requests it has accepted. -/
abbrev reviewStep (platform : Platform) :
    World × List ManualReview → Action → Option (World × List ManualReview) :=
  Observed (step platform) observeReviews

/-- The request is stored in `manualReviews`. -/
def Filed (documents : Store CollectionRef) (review : ManualReview) : Prop :=
  ∃ id document, get documents ⟨.manualReviews, id⟩ = some document ∧
    ManualReview.decode document = some review

/-- Every accepted request is stored from then on. -/
def NoReviewLost (platform : Platform) (allowed : World → Action → Prop) : Prop :=
  ∀ (start : World) (after : World × List ManualReview) (actions : List Action), Initial start →
    Run (reviewStep platform) (fun s => allowed s.1) (start, []) actions after →
    ∀ review ∈ after.2, Filed after.1.store.documents review

/-- A request is written where no other one is stored. -/
def ReviewsSpared (w : World) (action : Action) : Prop :=
  ∀ number site v form userNote today document, action = .serve number →
    w.pool number = some ⟨site, .review v (.writeReview form userNote today), .issued⟩ →
    get w.store.documents (manualReviewRef form.username) = some document →
    document = reviewData form userNote today

/-- Accepted requests are stored, and so are those that are about to be accepted. -/
structure ReviewsKept (w : World) (accepted : List ManualReview) : Prop where
  accepted : ∀ review ∈ accepted, ∃ document,
    get w.store.documents (manualReviewRef review.username) = some document ∧
    ManualReview.decode document = some review
  written : ∀ number site v form userNote today, w.pool number =
      some ⟨site, .review v (.writeReview form userNote today), .answered .written⟩ →
    get w.store.documents (manualReviewRef form.username) = some (reviewData form userNote today)

variable {platform : Platform} {w w' : World} {action : Action} {accepted : List ManualReview}

/-- A review document changes when a request of its username is written. -/
theorem review_step (moved : Move platform w action w') (username : String) :
    get w'.store.documents (manualReviewRef username) =
      get w.store.documents (manualReviewRef username) ∨
    ∃ number site v form userNote today, action = .serve number ∧
      w.pool number = some ⟨site, .review v (.writeReview form userNote today), .issued⟩ ∧
      form.username = username ∧
      get w'.store.documents (manualReviewRef username) =
        some (reviewData form userNote today) := by
  rcases moved.store with same | ⟨number, site, task, reply, rfl, held, served⟩
  · exact .inl (by rw [same])
  · rcases serve_review served username with
      same | ⟨v, form, userNote, today, rfl, named, stored⟩
    · exact .inl same
    · exact .inr ⟨number, site, v, form, userNote, today, rfl, held, named, stored⟩

/-- A call that is answered that its write is done was a moment ago, or has just been served. -/
theorem writtenReview_step {number site v : ℕ} {form : ReviewForm} {userNote today : String}
    (moved : Move platform w action w') (held : w'.pool number =
      some ⟨site, .review v (.writeReview form userNote today), .answered .written⟩) :
    (w.pool number = some ⟨site, .review v (.writeReview form userNote today), .answered .written⟩ ∧
      action.moved ≠ some number) ∨
    (action = .serve number ∧
      w.pool number = some ⟨site, .review v (.writeReview form userNote today), .issued⟩ ∧
      get w'.store.documents (manualReviewRef form.username) =
        some (reviewData form userNote today)) := by
  cases moved.pool held with
  | kept before unmoved => exact .inl ⟨before, unmoved⟩
  | served before served =>
    refine .inr ⟨rfl, before, ?_⟩
    obtain ⟨stored, -⟩ := Prod.mk.inj (Option.some.inj served)
    rw [← stored]
    exact get_set_self

/-- A call returns true after its write, or the log stays. -/
theorem observeReviews_cases (accepted : List ManualReview) (w : World) (action : Action) :
    observeReviews accepted w action = accepted ∨
    ∃ number site v form userNote today, action = .resume number ∧ w.pool number =
        some ⟨site, .review v (.writeReview form userNote today), .answered .written⟩ ∧
      observeReviews accepted w action = accepted ++ [request form userNote today] := by
  unfold observeReviews
  split
  · split
    · exact .inr ⟨_, _, _, _, _, _, rfl, ‹_›, rfl⟩
    · exact .inl rfl
  · exact .inl rfl

theorem reviewsKept_step (moved : Move platform w action w') (spared : ReviewsSpared w action)
    (kept : ReviewsKept w accepted) : ReviewsKept w' (observeReviews accepted w action) := by
  have stays : ∀ username document,
      get w.store.documents (manualReviewRef username) = some document →
      get w'.store.documents (manualReviewRef username) = some document := by
    intro username document stored
    rcases review_step moved username with
      same | ⟨number, site, v, form, userNote, today, rfl, held, rfl, written⟩
    · rw [same, stored]
    · rw [written, spared number site v form userNote today document rfl held stored]
  constructor
  case accepted =>
    intro review logged
    have before : ∃ document,
        get w.store.documents (manualReviewRef review.username) = some document ∧
        ManualReview.decode document = some review := by
      rcases observeReviews_cases accepted w action with
        same | ⟨number, site, v, form, userNote, today, rfl, held, grown⟩
      · rw [same] at logged
        exact kept.accepted review logged
      · rw [grown] at logged
        rcases List.mem_append.mp logged with earlier | now
        · exact kept.accepted review earlier
        · obtain rfl := List.mem_singleton.mp now
          exact ⟨_, kept.written number site v form userNote today held, decode_request _ _ _⟩
    obtain ⟨document, stored, decoded⟩ := before
    exact ⟨document, stays _ document stored, decoded⟩
  case written =>
    intro number site v form userNote today held
    rcases writtenReview_step moved held with ⟨before, -⟩ | ⟨-, -, stored⟩
    · exact stays _ _ (kept.written number site v form userNote today before)
    · exact stored

/-- No accepted request is lost as long as none is written over another. -/
theorem noReviewLost_of_reviewsSpared (platform : Platform) :
    NoReviewLost platform ReviewsSpared := by
  intro start after actions initial run review logged
  have kept : ReviewsKept after.1 after.2 := by
    refine run.invariant (fun s => ReviewsKept s.1 s.2) ⟨by simp, ?_⟩ ?_
    · intro number site v form userNote today held
      rw [initial.noJob number] at held
      cases held
    · rintro before action after kept spared moved
      obtain ⟨moved, recorded⟩ := observed_eq_some.mp moved
      rw [← recorded]
      exact reviewsKept_step (Async.move_of_step moved) spared kept
  obtain ⟨document, stored, decoded⟩ := kept.accepted review logged
  exact ⟨review.username, document, stored, decoded⟩

/-- Annie's wrong answer to the question in view and her request to review it. -/
def wrongAnswer (userNote : String) : List Action :=
  ([.react 0 (.tapSubmitAnswer 0 "London") 0] : List Action) ++ advance 0 ++ advance 0 ++
  advance 0 ++ advance 0 ++
  ([.react 0 (.tapSubmitReview 0 userNote) 0] : List Action) ++ advance 0 ++ advance 0 ++
  advance 0 ++ advance 0

/-- Annie asks for a review on two days. -/
def reviewedTwice : List Action :=
  signUp 0 "ann@example.com" "annie" ++ wrongAnswer "first" ++
  ([.react 0 .midnight 0, .react 0 (.gameViewAppears 0) 0] : List Action) ++ advance 0 ++
  advance 0 ++ advance 0 ++ advance 0 ++ advance 0 ++ wrongAnswer "second"

/-- The notes of the requests in the log and of those that are stored. -/
def reviewNotes (s : World × List ManualReview) : List String × List (Option String) :=
  (s.2.map ManualReview.userNote, ((s.1.store.documents .manualReviews).entries.map Sigma.snd).map
    fun document => (ManualReview.decode document).map ManualReview.userNote)

theorem reviewedTwice_notes :
    (execute (reviewStep march)
      (firstLaunch [capital, { capital with date := march.dateFormattedForDb 1 }], [])
      reviewedTwice).map reviewNotes = some (["first", "second"], [some "second"]) := by
  decide +kernel

/-- A request of the next day replaces the one that was accepted. -/
theorem not_noReviewLost : ¬ NoReviewLost march Any := by
  intro claim
  obtain ⟨after, ran, reached⟩ := Option.map_eq_some_iff.mp reviewedTwice_notes
  obtain ⟨logged, stored⟩ := Prod.mk.inj reached
  have first : "first" ∈ after.2.map ManualReview.userNote := by simp [logged]
  obtain ⟨review, member, note⟩ := List.mem_map.mp first
  obtain ⟨id, document, found, decoded⟩ := claim _ after reviewedTwice (initial_firstLaunch _)
    (.of_execute (fun _ _ _ => trivial) ran) review member
  have listed : document ∈ (after.1.store.documents .manualReviews).entries.map Sigma.snd :=
    List.mem_map.mpr ⟨⟨id, document⟩, AList.mem_lookup_iff.mp found, rfl⟩
  have lost : some "first" ∈ ((after.1.store.documents .manualReviews).entries.map Sigma.snd).map
      fun document => (ManualReview.decode document).map ManualReview.userNote :=
    List.mem_map.mpr ⟨document, listed, by rw [decoded, Option.map_some, note]⟩
  rw [stored] at lost
  simp at lost

end DailyTrivia
