import DailyTrivia.TaskFlow

/-!
What the steps of an installation do to its game views. A view is never removed while the
process runs; only `refreshData`, when a loading begins on a new day, takes away the answer
it shows, and only the end of a loading opens its username sheet. `Leaves` and `Reacts` list
what a segment of a task and an event leave of a device.
-/
namespace DailyTrivia

open Documents

/-- View `v` is changed in place. It keeps showing an answer if `kept` holds, and its username
sheet is not opened if `quiet` does. -/
def Changes (v : ℕ) (kept quiet : Prop) (d d' : Device) : Prop :=
  ∃ change : TriviaGameView → TriviaGameView, d'.views v = (d.views v).map change ∧
    (kept → ∀ view, view.submittedAnswer.isSome = true →
      (change view).submittedAnswer.isSome = true) ∧
    (quiet → ∀ view, (change view).showUsernameEntry = true → view.showUsernameEntry = true)

/-- The end of a loading. -/
def LoadTask.decides : LoadTask → Bool
  | .checkResponseExists | .readResponse _ _ => true
  | _ => false

/-- A view presents `CreateUsernameSheet`. -/
def Device.asks (d : Device) (v : ℕ) : Prop :=
  ∃ view, d.views v = some view ∧ view.showUsernameEntry = true

variable {platform : Platform} {v : ℕ} {kept quiet : Prop} {d d' d'' : Device} {reply : Reply}

namespace Changes

theorem of_same (same : d'.views = d.views) : Changes v kept quiet d d' :=
  ⟨id, by simp [same], fun _ _ shows => shows, fun _ _ asks => asks⟩

theorem trans (first : Changes v kept quiet d d') (second : Changes v kept quiet d' d'') :
    Changes v kept quiet d d'' := by
  obtain ⟨change, changed, keeps, spares⟩ := first
  obtain ⟨change', changed', keeps', spares'⟩ := second
  exact ⟨change' ∘ change, by rw [changed', changed, Option.map_map],
    fun held view shows => keeps' held _ (keeps held view shows),
    fun silent view asks => spares silent view (spares' silent _ asks)⟩

theorem onView {u : ℕ} {change : TriviaGameView → TriviaGameView}
    (keeps : kept → u = v → ∀ view, view.submittedAnswer.isSome = true →
      (change view).submittedAnswer.isSome = true)
    (spares : quiet → u = v → ∀ view, (change view).showUsernameEntry = true →
      view.showUsernameEntry = true) : Changes v kept quiet d (d.onView u change) := by
  by_cases same : u = v
  · exact ⟨change, by simp [Device.onView, same], fun held => keeps held same,
      fun silent => spares silent same⟩
  · exact ⟨id, by simp [Device.onView, Ne.symm same], fun _ _ shows => shows, fun _ _ asks => asks⟩

/-- A change of other fields of a view. -/
theorem onView' {u : ℕ} {change : TriviaGameView → TriviaGameView}
    (same : ∀ view, (change view).submittedAnswer = view.submittedAnswer)
    (same' : ∀ view, (change view).showUsernameEntry = view.showUsernameEntry) :
    Changes v kept quiet d (d.onView u change) :=
  .onView (fun _ _ view shows => by rwa [same]) fun _ _ view asks => by rwa [← same']

theorem alert {u : ℕ} {message : ErrorMessage} : Changes v kept quiet d (d.alert u message) :=
  .onView' (fun _ => rfl) fun _ => rfl

/-- Whoever has a username is not asked for one. -/
theorem finishLoading {u : ℕ} (named : quiet → u = v → d.username ≠ none) :
    Changes v kept quiet d (d.finishLoading u) := by
  refine .onView (fun _ _ _ shows => shows) fun silent same view asks => ?_
  simp [named silent same] at asks

/-- A view that was there is there. -/
theorem views (changes : Changes v kept quiet d d') (there : (d.views v).isSome = true) :
    (d'.views v).isSome = true := by
  obtain ⟨change, changed, _⟩ := changes
  simpa [changed] using there

/-- A view that showed an answer shows one. -/
theorem answers (changes : Changes v kept quiet d d') (held : kept)
    (shows : (d.submittedAnswer v).isSome = true) : (d'.submittedAnswer v).isSome = true := by
  obtain ⟨change, changed, keeps, _⟩ := changes
  cases shown : d.views v with
  | none => simp [Device.submittedAnswer, shown] at shows
  | some view =>
    simp only [Device.submittedAnswer, shown, Option.bind_some] at shows
    simpa [Device.submittedAnswer, changed, shown] using keeps held view shows

/-- A view that asks for a username asked before. -/
theorem asked (changes : Changes v kept quiet d d') (silent : quiet) (asks : d'.asks v) :
    d.asks v := by
  obtain ⟨change, changed, _, spares⟩ := changes
  obtain ⟨view', shown', asks⟩ := asks
  rw [changed] at shown'
  obtain ⟨view, shown, rfl⟩ := Option.map_eq_some_iff.mp shown'
  exact ⟨view, shown, spares silent view asks⟩

end Changes

/-- A step touches the game views of a device and nothing else. -/
def OnlyViews (d d' : Device) : Prop :=
  ∃ views lastSeenDate, d' = { d with views, lastSeenDate }

theorem OnlyViews.onView {u : ℕ} {change : TriviaGameView → TriviaGameView} :
    OnlyViews d (d.onView u change) := ⟨_, _, rfl⟩

theorem OnlyViews.currentUser (only : OnlyViews d d') : d'.currentUser = d.currentUser := by
  obtain ⟨_, _, rfl⟩ := only
  rfl

/-- A step that is no refresh touches the game views only. -/
def WithViews (d d' : Device) : Prop := ∃ views, d' = { d with views }

namespace WithViews

theorem refl : WithViews d d := ⟨_, rfl⟩

theorem trans (first : WithViews d d') (second : WithViews d' d'') : WithViews d d'' := by
  obtain ⟨_, rfl⟩ := first
  obtain ⟨_, rfl⟩ := second
  exact ⟨_, rfl⟩

theorem onView {u : ℕ} {change : TriviaGameView → TriviaGameView} :
    WithViews d (d.onView u change) := ⟨_, rfl⟩

theorem onlyViews (same : WithViews d d') : OnlyViews d d' := by
  obtain ⟨_, rfl⟩ := same
  exact ⟨_, _, rfl⟩

theorem lastSeenDate (same : WithViews d d') : d'.lastSeenDate = d.lastSeenDate := by
  obtain ⟨_, rfl⟩ := same
  rfl

end WithViews

/-! ## What the segments leave -/

theorem date_of_answer {document : Doc} {answer : SubmittedAnswer}
    (decoded : SubmittedAnswer.decode document = some answer) :
    document.string "date" = some answer.date := by
  simp only [SubmittedAnswer.decode, Option.bind_eq_bind, Option.bind_eq_some_iff] at decoded
  obtain ⟨_, dated, _, _, _, _, rest⟩ := decoded
  cases rest
  exact dated

/-- The check mirrors the answer of the day if it finds it, and does nothing else. -/
theorem checkResponse_cases {u : ℕ} {today : String} {snapshot : Option Doc}
    (checked : d.checkResponseExists u today snapshot = .ok d') :
    d' = d ∨ ∃ answer : SubmittedAnswer, answer.date = today ∧
      d' = d.onView u fun view => { view with submittedAnswer := some answer } := by
  cases snapshot with
  | none =>
    cases checked
    exact .inl rfl
  | some document =>
    simp only [Device.checkResponseExists] at checked
    split at checked
    · rename_i dated
      split at checked
      · rename_i answer decoded
        cases checked
        refine .inr ⟨answer, ?_, rfl⟩
        exact Option.some.inj ((date_of_answer decoded).symm.trans dated)
      · cases checked
    · cases checked
      exact .inl rfl

/-- `submitAnswer` warns about a blank answer, or begins to load. -/
theorem submitAnswer_cases (u : ℕ) (d : Device) :
    (d.submitAnswer u).1 = d ∨
    (d.submitAnswer u).1 = (d.onView u fun view => { view with
      errorMessage := some .blankAnswer, warnedAboutEmptyAnswer := true }) ∨
    (d.submitAnswer u).1 = d.onView u fun view => { view with isLoading := true } := by
  simp only [Device.submitAnswer]
  split
  · exact .inl rfl
  · split
    · exact .inr (.inl rfl)
    · exact .inr (.inr rfl)

/-- The first segment of a submission is `submitAnswer`. -/
theorem submitAnswer_segment (platform : Platform) (u : ℕ) (reply : Reply) (d : Device) :
    (SubmitTask.submitAnswer.resume platform u reply d).1 = (d.submitAnswer u).1 := by
  cases asked : d.submitAnswer u with
  | mk memory submission => cases submission <;> simp [SubmitTask.resume, asked]

/-- What a segment of a task of view `v` leaves of a device. -/
inductive Leaves (platform : Platform) (v : ℕ) (d : Device) : Task → Reply → Device → Prop where
  | kept {task : Task} {reply : Reply} : Leaves platform v d task reply d
  | failed {task : Task} {reply : Reply} {message : ErrorMessage} :
      task ≠ .load v .refreshData → Leaves platform v d task reply (d.alert v message)
  | refreshed {reply : Reply} : Leaves platform v d (.load v .refreshData) reply
      ((d.onView v fun view => { view with isLoading := true }).refreshData platform v)
  | loaded {today : String} {document : Doc} {question : TriviaQuestion} :
      TriviaQuestion.decode document = some question →
      Leaves platform v d (.load v (.readQuestion today)) (.snapshot (some document))
        (d.onView v fun view => { view with currentQuestion := some question })
  | finished {task : LoadTask} {reply : Reply} : task.decides = true →
      Leaves platform v d (.load v task) reply (d.finishLoading v)
  | found {username today : String} {answer : SubmittedAnswer} {reply : Reply} :
      answer.date = today → Leaves platform v d (.load v (.readResponse username today)) reply
        ((d.onView v fun view => { view with submittedAnswer := some answer }).finishLoading v)
  | warned {reply : Reply} : Leaves platform v d (.submit v .submitAnswer) reply
      (d.onView v fun view => { view with
        errorMessage := some .blankAnswer, warnedAboutEmptyAnswer := true })
  | begun {reply : Reply} : Leaves platform v d (.submit v .submitAnswer) reply
      (d.onView v fun view => { view with isLoading := true })
  | answered {question : TriviaQuestion} {answerText username today : String} :
      Leaves platform v d (.submit v (.writeResponse question answerText username today)) .written
        (d.onView v fun view => { view with
          submittedAnswer := some (submitted platform question answerText) })
  | counted {username : String} {streak : Int} :
      Leaves platform v d (.submit v (.writeStreak username streak)) .written
        ((d.assignStreak streak).onView v fun view => { view with isLoading := false })
  | submitting {username : String} {reply : Reply} :
      Leaves platform v d (.enterUsername v (.submitUsername username)) reply
        (d.onView v fun view => { view with isSubmitting := true })
  | named {key username : String} :
      Leaves platform v d (.enterUsername v (.writeUsername key username)) .written
        ((d.assign fun user => { user with username := some username }).onView v fun view =>
          { view with showUsernameEntry := false, isSubmitting := false })
  | reviewed {task : ReviewTask} {reply : Reply} {alert : ManualReviewAlert} :
      Leaves platform v d (.review v task) reply
        (d.onView v fun view => { view with activeAlert := some alert })
  | loggedOut {signOutThrows : Bool} {reply : Reply} {change : TriviaGameView → TriviaGameView} :
      (∀ view, change view = { view with
        isLoading := false, errorMessage := (change view).errorMessage }) →
      Leaves platform v d (.logout v signOutThrows) reply
        (((d.onView v fun view => { view with isLoading := true }).logout signOutThrows).onView v
          change)

theorem load_leaves (platform : Platform) (v : ℕ) (task : LoadTask) (reply : Reply) (d : Device) :
    Leaves platform v d (.load v task) reply (task.resume platform v reply d).1 := by
  cases task with
  | refreshData => exact .refreshed
  | loadQuestion => exact .kept
  | readQuestion today =>
    cases reply with
    | snapshot snapshot =>
      simp only [LoadTask.resume, Device.loadQuestion]
      split
      · exact .kept
      · split
        · exact .loaded ‹_›
        · exact .failed (by simp)
    | refused => exact .failed (by simp)
    | _ => exact .kept
  | checkResponseExists =>
    simp only [LoadTask.resume]
    split
    · exact .kept
    · exact .finished rfl
  | readResponse username today =>
    cases reply with
    | snapshot snapshot =>
      simp only [LoadTask.resume]
      split
      · rcases checkResponse_cases ‹_› with rfl | ⟨answer, dated, rfl⟩
        · exact .finished rfl
        · exact .found dated
      · exact .failed (by simp)
    | refused => exact .failed (by simp)
    | _ => exact .kept

theorem submit_leaves (platform : Platform) (v : ℕ) (task : SubmitTask) (reply : Reply)
    (d : Device) : Leaves platform v d (.submit v task) reply (task.resume platform v reply d).1 := by
  cases task with
  | submitAnswer =>
    rw [submitAnswer_segment]
    rcases submitAnswer_cases v d with same | warned | begun
    · rw [same]
      exact .kept
    · rw [warned]
      exact .warned
    · rw [begun]
      exact .begun
  | writeResponse question answerText username today =>
    cases reply with
    | written => exact .answered
    | refused => exact .failed (by simp)
    | _ => exact .kept
  | updateStreak streak =>
    simp only [SubmitTask.resume]
    split
    · exact .kept
    · exact .failed (by simp)
  | writeStreak username streak =>
    cases reply with
    | written => exact .counted
    | refused => exact .failed (by simp)
    | _ => exact .kept

theorem review_leaves (platform : Platform) (v : ℕ) (task : ReviewTask) (reply : Reply)
    (d : Device) : Leaves platform v d (.review v task) reply (task.resume platform v reply d).1 := by
  cases task with
  | readReviews form userNote =>
    cases reply with
    | documents found =>
      simp only [ReviewTask.resume]
      split
      · exact .reviewed
      · exact .kept
      · exact .reviewed
    | refused => exact .reviewed
    | _ => exact .kept
  | writeReview form userNote today =>
    cases reply with
    | written | refused => exact .reviewed
    | _ => exact .kept
  | _ => exact .kept

/-- The segments of the tasks that belong to a view. -/
theorem leaves_of_resume {task : Task} (viewed : task.view = some v) (reply : Reply) (d : Device) :
    Leaves platform v d task reply (resume platform task reply d).1 := by
  cases task with
  | signIn task => cases viewed
  | load u task =>
    cases viewed
    exact load_leaves platform v task reply d
  | submit u task =>
    cases viewed
    exact submit_leaves platform v task reply d
  | enterUsername u task =>
    cases viewed
    cases task with
    | submitUsername username => exact .submitting
    | writeUsername key username =>
      cases reply with
      | written => exact .named
      | _ => exact .kept
  | review u task =>
    cases viewed
    exact review_leaves platform v task reply d
  | logout u signOutThrows =>
    cases viewed
    cases signOutThrows with
    | true => exact .loggedOut fun _ => rfl
    | false => exact .loggedOut fun _ => rfl

theorem unrefreshed_frame (u : ℕ) (task : LoadTask) (reply : Reply) (d : Device)
    (other : task ≠ .refreshData) : WithViews d (task.resume platform u reply d).1 := by
  have leaves := load_leaves platform u task reply d
  generalize (task.resume platform u reply d).1 = left at leaves ⊢
  cases leaves with
  | kept => exact .refl
  | refreshed => exact absurd rfl other
  | failed _ | loaded _ | finished _ => exact .onView
  | found _ => exact WithViews.onView.trans .onView

theorem refreshed_frame (u : ℕ) (d : Device) : OnlyViews d
    ((d.onView u fun view => { view with isLoading := true }).refreshData platform u) := by
  simp only [Device.refreshData]
  split <;> exact ⟨_, _, rfl⟩

theorem load_frame (u : ℕ) (task : LoadTask) (reply : Reply) (d : Device) :
    OnlyViews d (task.resume platform u reply d).1 := by
  by_cases refresh : task = .refreshData
  · subst refresh
    exact refreshed_frame u d
  · exact (unrefreshed_frame u task reply d refresh).onlyViews

theorem submitAnswer_frame (u : ℕ) (d : Device) : WithViews d (d.submitAnswer u).1 := by
  rcases submitAnswer_cases u d with same | warned | begun
  · rw [same]
    exact .refl
  · rw [warned]
    exact .onView
  · rw [begun]
    exact .onView

theorem review_frame (u : ℕ) (task : ReviewTask) (reply : Reply) (d : Device) :
    WithViews d (task.resume platform u reply d).1 := by
  have leaves := review_leaves platform u task reply d
  generalize (task.resume platform u reply d).1 = left at leaves ⊢
  cases leaves with
  | kept => exact .refl
  | failed _ | reviewed => exact .onView

/-- A sign-in task changes nothing of a device but its accounts. -/
theorem signIn_frame (task : SignInTask) (reply : Reply) (d : Device) :
    ∃ firebaseUser googleUser savedGoogleUser currentUser, (task.resume reply d).1 =
      { d with firebaseUser, googleUser, savedGoogleUser, currentUser } := by
  have assigned : ∀ snapshot, ∃ currentUser, d.assignUsername snapshot = { d with currentUser } := by
    intro snapshot
    unfold Device.assignUsername
    split
    · exact ⟨_, rfl⟩
    · exact ⟨d.currentUser, rfl⟩
  have same : ∃ firebaseUser googleUser savedGoogleUser currentUser, d =
      { d with firebaseUser, googleUser, savedGoogleUser, currentUser } := ⟨_, _, _, _, rfl⟩
  cases task with
  | readUserAccount user | readGoogleAccount user =>
    cases reply with
    | snapshot document =>
      cases document with
      | none => exact same
      | some document =>
        simp only [SignInTask.resume]
        split
        · exact ⟨_, _, _, _, rfl⟩
        · exact same
    | _ => exact same
  | readGoogleUsername user | readUsername email =>
    cases reply with
    | snapshot snapshot =>
      obtain ⟨currentUser, assigned⟩ := assigned snapshot
      exact ⟨_, _, _, _, assigned⟩
    | _ => exact same
  | readStreak email username =>
    cases reply with
    | snapshot snapshot =>
      simp only [SignInTask.resume]
      split
      · exact ⟨_, _, _, _, rfl⟩
      · split <;> exact same
    | _ => exact same
  | _ => cases reply <;> exact ⟨_, _, _, _, rfl⟩

theorem refreshData_changes {u : ℕ} (spared : kept → u ≠ v) :
    Changes v kept quiet d (d.refreshData platform u) := by
  simp only [Device.refreshData]
  split
  · have dated : Changes v kept quiet d
        { d with lastSeenDate := platform.dateFormattedForDb d.day } := .of_same rfl
    refine dated.trans (.onView ?_ ?_)
    · exact fun held same => absurd same (spared held)
    · exact fun _ _ _ asks => asks
  · exact .of_same rfl

theorem logout_changes (signOutThrows : Bool) : Changes v kept quiet d (d.logout signOutThrows) :=
  ⟨fun view => { view with onScreen := false }, rfl, fun _ _ shows => shows, fun _ _ asks => asks⟩

/-- A segment of a task changes the views in place. -/
theorem resume_changes {task : Task} {next : Option Task}
    (resumed : resume platform task reply d = (d', next))
    (refresh : kept → task ≠ .load v .refreshData)
    (named : quiet → ∀ load, task = .load v load → load.decides = true → d.username ≠ none) :
    Changes v kept quiet d d' := by
  obtain rfl : (resume platform task reply d).1 = d' := congrArg Prod.fst resumed
  cases viewed : task.view with
  | none =>
    cases task with
    | signIn task =>
      obtain ⟨_, _, _, _, same⟩ := signIn_frame task reply d
      exact .of_same (by simp only [resume, same])
    | _ => cases viewed
  | some u =>
    have leaves := @leaves_of_resume platform u task viewed reply d
    generalize (resume platform task reply d).1 = left at leaves ⊢
    have opened : Changes v kept quiet d (d.onView u fun view => { view with isLoading := true }) :=
      .onView' (fun _ => rfl) fun _ => rfl
    cases leaves with
    | kept => exact .of_same rfl
    | failed _ => exact .alert
    | refreshed =>
      refine opened.trans (refreshData_changes ?_)
      rintro held rfl
      exact refresh held rfl
    | finished decides =>
      apply Changes.finishLoading
      rintro silent rfl
      exact named silent _ rfl decides
    | @found _ _ answer _ _ =>
      have shown : Changes v kept quiet d
          (d.onView u fun view => { view with submittedAnswer := some answer }) :=
        .onView (fun _ _ _ _ => rfl) fun _ _ _ asks => asks
      refine shown.trans (.finishLoading ?_)
      rintro silent rfl
      exact named silent _ rfl rfl
    | answered => exact .onView (fun _ _ _ _ => rfl) fun _ _ _ asks => asks
    | @counted _ streak =>
      have assigned : Changes v kept quiet d (d.assignStreak streak) := .of_same rfl
      exact assigned.trans (.onView' (fun _ => rfl) fun _ => rfl)
    | @named _ username =>
      have assigned : Changes v kept quiet d
        (d.assign fun user => { user with username := some username }) := .of_same rfl
      refine assigned.trans (.onView (fun _ _ _ shows => shows) ?_)
      intro _ _ view asks
      cases asks
    | loggedOut cleared =>
      refine (opened.trans (logout_changes _)).trans (.onView' ?_ ?_)
      · intro view
        rw [cleared]
      · intro view
        rw [cleared]
    | _ => exact .onView' (fun _ => rfl) fun _ => rfl

/-- What an event leaves of a device, beside the task it begins. -/
inductive Reacts (d : Device) : Event → Option Task → Device → Prop where
  | kept {event : Event} {task : Option Task} : event ≠ .midnight → Reacts d event task d
  | midnight : Reacts d .midnight none { d with day := d.day + 1 }
  | launched {task : Option Task} :
      Reacts d .loginViewAppears task { d with loginViewAppeared := false }
  | observed : Reacts d .currentUserChanges none
      { d with observedUser := d.account, isUserLoggedIn := d.currentUser.isSome }
  | appeared {v : ℕ} : d.views v = none → Reacts d (.gameViewAppears v)
      (some (.load v .refreshData)) { d with views := Function.update d.views v (some {}) }
  | typed {v : ℕ} {answerText : String} {task : Option Task} :
      Reacts d (.tapSubmitAnswer v answerText) task
        (d.onView v fun view => { view with answerText })

theorem reacts_of_react {event : Event} {task : Option Task}
    (reacted : react platform event d = some (d', task)) : Reacts d event task d' := by
  cases event with
  | midnight =>
    cases reacted
    exact .midnight
  | loginViewAppears =>
    simp only [react] at reacted
    split at reacted <;> cases reacted
    exact .launched
  | currentUserChanges =>
    simp only [react] at reacted
    split at reacted <;> cases reacted
    exact .observed
  | gameViewAppears v =>
    simp only [react] at reacted
    split at reacted
    · split at reacted
      · cases reacted
        exact .appeared ‹_›
      · split at reacted <;> cases reacted
        exact .kept (by simp)
    · cases reacted
  | tapSubmitAnswer v answerText =>
    simp only [react] at reacted
    split at reacted
    · split at reacted <;> cases reacted
      exact .typed
    · cases reacted
  | tapLogout v signOutThrows =>
    obtain ⟨_, _, reacted⟩ := Option.map_eq_some_iff.mp reacted
    cases reacted
    exact .kept (by simp)
  | _ =>
    simp only [react] at reacted
    repeat' split at reacted
    all_goals cases reacted
    exact .kept (by simp)

/-- An event adds a view or changes the text of one. -/
theorem react_changes {event : Event} {task : Option Task}
    (reacted : react platform event d = some (d', task)) :
    Changes v kept quiet d d' ∨ (d.views v = none ∧ d'.views v = some {}) := by
  cases reacts_of_react reacted with
  | @appeared u absent =>
    by_cases same : v = u
    · subst same
      exact .inr ⟨absent, by simp⟩
    · exact .inl ⟨id, by simp [same], fun _ _ shows => shows, fun _ _ asks => asks⟩
  | typed => exact .inl (.onView' (fun _ => rfl) fun _ => rfl)
  | _ => exact .inl (.of_same rfl)

/-- A view that is there is changed in place. -/
theorem react_changes' {event : Event} {task : Option Task}
    (reacted : react platform event d = some (d', task)) (there : (d.views v).isSome = true) :
    Changes v kept quiet d d' :=
  (react_changes reacted).resolve_right fun ⟨absent, _⟩ => by simp [absent] at there

theorem views_of_shown {view : TriviaGameView} (shown : d.shown v = some view) :
    (d.views v).isSome = true := by
  obtain ⟨present, _⟩ := Option.filter_eq_some_iff.mp shown
  simp [present]

theorem views_of_uncovered {view : TriviaGameView} (uncovered : d.uncovered v = some view) :
    (d.views v).isSome = true :=
  views_of_shown (Option.filter_eq_some_iff.mp uncovered).1

/-- The view of a task that begins is there. -/
theorem views_of_react {event : Event} {task : Task}
    (reacted : react platform event d = some (d', some task)) (viewed : task.view = some v) :
    (d'.views v).isSome = true := by
  cases begins_of_react reacted with
  | load loggedIn =>
    cases viewed
    cases shown : d.views v with
    | none =>
      simp only [react, loggedIn, if_true, shown] at reacted
      cases reacted
      simp
    | some view =>
      simp only [react, loggedIn, if_true, shown] at reacted
      split at reacted <;> cases reacted
      simp [shown]
  | submit shown _ _ | logout shown | review shown _ =>
    cases viewed
    have there := views_of_uncovered shown
    have changes : Changes v True True d d' := react_changes' reacted there
    exact changes.views there
  | username shown _ =>
    cases viewed
    have there := views_of_shown shown
    have changes : Changes v True True d d' := react_changes' reacted there
    exact changes.views there
  | _ => cases viewed

end DailyTrivia
