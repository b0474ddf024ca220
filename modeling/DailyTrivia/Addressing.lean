import DailyTrivia.AmongOthers
import DailyTrivia.UsernameKeys

/-!
The other modules take an id as it is. In the runs in which users sign in to accounts whose keys are
segments, and choose usernames that are, that is right: whatever a task asks for then, Firestore's
client makes the reference, and it names the document the id stands for.

Keys and usernames spread from what is entered, as those of one party do. So the segments are made a
party here, and every other text belongs to another one.
-/
namespace DailyTrivia

open Runs

/-- The reference the app makes to a document. -/
def reference : DocumentRef → Except InvalidArgument ResourcePath
  | ⟨.users, key⟩ => usersDocument key
  | ⟨.streaks, username⟩ => streaksDocument username
  | ⟨.manualReviews, username⟩ => manualReviewsDocument username
  | ⟨.responses username, day⟩ => responseDocument username day
  | ⟨.questions, day⟩ => questionsDocument day
  | ⟨.allResponses, id⟩ => responsesDocument id

def Call.ref : Call → Option DocumentRef
  | .getDocument ref | .setData ref _ | .mergeData ref _ => some ref
  | _ => none

/-- The keys and usernames that a user enters are segments. -/
def EntersSegments (platform : Platform) : Action → Prop
  | .react _ (.tapLogin email _) _ | .react _ (.tapRegister email _) _ =>
    IsSegment (sanitizedEmail (platform.firebaseUser email).email)
  | .react _ (.tapGoogle user) _ => IsSegment (User.ofGoogleUser user).email
  | .react _ (.tapSubmitUsername _ username) _ => IsSegment username
  | _ => True

/-- The segments are the party `true`. -/
def segmentParties : Parties Bool where
  site _ := true
  account key := decide (IsSegment key)
  username username := decide (IsSegment username)

/-- The day a task has read off the clock for a reference. -/
def Task.today : Task → Option String
  | .load _ (.readQuestion today) | .load _ (.readResponse _ today)
  | .submit _ (.writeResponse _ _ _ today) => some today
  | _ => none

/-- The days that tasks refer to are days. -/
def OnDays (platform : Platform) (w : World) : Prop :=
  ∀ number site task phase today, w.pool number = some ⟨site, task, phase⟩ →
    task.today = some today → ∃ day, today = platform.dateFormattedForDb day

variable {platform : Platform} {ref : DocumentRef} {w w' start after : World} {action : Action}
variable {actions : List Action} {task : Task}

/-! ## References -/

/-- Segments make a reference, to the document they stand for. -/
theorem reference_of_isSegment (segment : IsSegment ref.id)
    (nested : ∀ username, ref.collection = .responses username → IsSegment username) :
    reference ref = .ok (childPath ref) := by
  obtain ⟨collection, id⟩ := ref
  have child := document_path_iff.mpr segment
  cases collection with
  | users => exact (usersDocument_eq id).trans child
  | streaks => exact (streaksDocument_eq id).trans child
  | manualReviews => exact (manualReviewsDocument_eq id).trans child
  | questions => exact (questionsDocument_eq id).trans child
  | allResponses => exact (responsesDocument_eq id).trans child
  | responses username => exact (responseDocument_eq (nested username rfl) id).trans child

/-- What a task refers to. -/
theorem ref_cases (refers : (call platform task).ref = some ref) :
    (∃ key, ref = userRef key) ∨ (∃ username, ref = streakRef username) ∨
    (∃ username, ref = manualReviewRef username) ∨
    (∃ today, ref = questionRef today ∧ task.today = some today) ∨
    ∃ username today, ref = responseRef username today ∧ task.today = some today := by
  cases task with
  | signIn task =>
    cases task <;> cases refers
    all_goals first
      | exact .inl ⟨_, rfl⟩
      | exact .inr (.inl ⟨_, rfl⟩)
  | load v task =>
    cases task <;> cases refers
    · exact .inr (.inr (.inr (.inl ⟨_, rfl, rfl⟩)))
    · exact .inr (.inr (.inr (.inr ⟨_, _, rfl, rfl⟩)))
  | submit v task =>
    cases task <;> cases refers
    · exact .inr (.inr (.inr (.inr ⟨_, _, rfl, rfl⟩)))
    · exact .inr (.inl ⟨_, rfl⟩)
  | enterUsername v task =>
    cases task <;> cases refers
    exact .inl ⟨_, rfl⟩
  | review v task =>
    cases task <;> cases refers
    exact .inr (.inr (.inl ⟨_, rfl⟩))
  | logout v signOutThrows => cases refers

/-! ## Days -/

theorem onDays_step (moved : Move platform w action w') (onDays : OnDays platform w) :
    OnDays platform w' := by
  intro number site task phase today present read
  cases moved.pool present with
  | kept held _ | served held _ | failed held => exact onDays _ _ _ _ _ held read
  | spawned reacted _ => cases begins_of_react reacted <;> cases read
  | resumed held resumed =>
    cases continues_of_resume resumed <;> cases read
    all_goals exact ⟨_, rfl⟩

theorem onDays_of_initial (initial : Initial w) : OnDays platform w := by
  intro number site task phase today present
  rw [initial.noJob] at present
  cases present

/-! ## Runs -/

/-- Who has no username asks for reviews under a segment as well. -/
theorem permits_of_entersSegments (confined : segmentParties.Confined platform w)
    (enters : EntersSegments platform action) :
    segmentParties.permits platform w action = true := by
  cases action with
  | react site event number =>
    cases event with
    | tapSubmitReview v userNote =>
      cases named : (w.sites site).username with
      | none => simp [Parties.permits, segmentParties, named, unknownUsername, IsSegment]
      | some username => simpa [Parties.permits, named] using (confined.devices site).username named
    | tapLogin email password | tapRegister email password =>
      exact decide_eq_true (decide_eq_true enters)
    | tapGoogle user => exact decide_eq_true (decide_eq_true enters)
    | tapSubmitUsername v username => exact decide_eq_true (decide_eq_true enters)
    | _ => rfl
  | _ => rfl

/-- What a task refers to belongs to the segments, or to nobody. -/
theorem owner_of_isOwn {g : Bool} (own : segmentParties.IsOwn platform g (call platform task))
    (refers : (call platform task).ref = some ref) :
    segmentParties.owner ref = some g ∨ segmentParties.owner ref = none := by
  generalize call platform task = awaited at own refers
  cases awaited with
  | getDocument ref =>
    cases refers
    exact own
  | setData ref data | mergeData ref data =>
    cases refers
    exact .inl own.1
  | _ => cases refers

/-- What a task refers to is named by its reference, if what users enter are segments. -/
theorem addressed_of_run (platform : Platform)
    (days : ∀ day, IsSegment (platform.dateFormattedForDb day)) (start after : World)
    (actions : List Action) (initial : Initial start)
    (run : Run (step platform) (fun _ => EntersSegments platform) start actions after)
    (number site : ℕ) (task : Task) (phase : Async.Phase Reply) (ref : DocumentRef)
    (held : after.pool number = some ⟨site, task, phase⟩)
    (refers : (call platform task).ref = some ref) : reference ref = .ok (childPath ref) := by
  obtain ⟨confined, onDays⟩ : segmentParties.Confined platform after ∧ OnDays platform after := by
    refine run.invariant (fun w => segmentParties.Confined platform w ∧ OnDays platform w)
      ⟨confined_of_initial initial, onDays_of_initial initial⟩ ?_
    rintro before action after ⟨confined, onDays⟩ enters moved
    have moved := Async.move_of_step moved
    exact ⟨confined_step moved (permits_of_entersSegments confined enters) confined,
      onDays_step moved onDays⟩
  have owned := owner_of_isOwn (isOwn_of_confined confined held) refers
  have today : ∀ {day}, task.today = some day → IsSegment day := by
    intro day read
    obtain ⟨day, rfl⟩ := onDays _ _ _ _ _ held read
    exact days day
  have ours : ∀ {text : String}, some (decide (IsSegment text)) = some true ∨
      some (decide (IsSegment text)) = none → IsSegment text := by
    intro text owned
    simpa using owned
  rcases ref_cases refers with ⟨key, rfl⟩ | ⟨username, rfl⟩ | ⟨username, rfl⟩ | ⟨day, rfl, read⟩ |
    ⟨username, day, rfl, read⟩
  · exact reference_of_isSegment (ours owned) nofun
  · exact reference_of_isSegment (ours owned) nofun
  · exact reference_of_isSegment (ours owned) nofun
  · exact reference_of_isSegment (today read) nofun
  · refine reference_of_isSegment (today read) ?_
    rintro _ ⟨⟩
    exact ours owned

/-- Annie's response is about to be written. -/
def responding : List Action :=
  signUp 0 "ann@example.com" "annie" ++
  ([.react 0 (.tapSubmitAnswer 0 "Paris") 0] : List Action) ++ advance 0

theorem addressed_responding :
    reference (responseRef "annie" (march.dateFormattedForDb 0)) =
      .ok (childPath (responseRef "annie" (march.dateFormattedForDb 0))) := by
  have awaited : ((execute (step march) (firstLaunch [capital]) responding).bind fun after =>
      (after.pool 0).bind Async.Job.awaited) = some (0, .submit 0
        (.writeResponse capital "Paris" "annie" (march.dateFormattedForDb 0))) := by
    decide +kernel
  obtain ⟨after, executed, waiting⟩ := Option.bind_eq_some_iff.mp awaited
  have enters : ∀ action ∈ responding, ∀ _ : World, EntersSegments march action := by
    have account : IsSegment (sanitizedEmail "ann@example.com") := by decide +kernel
    have username : IsSegment "annie" := by decide
    simp [responding, signUp, advance, Async.await, EntersSegments, march, account, username]
  exact addressed_of_run march isSegment_march _ after responding (initial_firstLaunch _)
    (.of_execute enters executed) 0 0 _ .issued _ (Async.issued_of_awaited waiting) rfl

end DailyTrivia
