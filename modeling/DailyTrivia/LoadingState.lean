import DailyTrivia.GameViews

/-!
The loading state of a game view. `isLoading` is set when a loading, a submission or a logout
begins, and whoever has set it clears it again, also when a call fails; but a submission that
finds no question or no username has set it and returns.

`Attended` says that a view that is loading has a task that will clear it: a loading that has
not ended, or a submission that has found what it submits.
-/
namespace DailyTrivia

open Runs Function

/-- A task of the game view itself, not of one of its sheets. -/
def Task.ofGameView (v : ℕ) : Task → Bool
  | .load u _ | .submit u _ | .logout u _ => u = v
  | _ => false

/-- A view none of whose tasks is pending is not loading. -/
def LoadingEnds (platform : Platform) (allowed : World → Action → Prop) : Prop :=
  ∀ (start after : World) (actions : List Action) (site v : ℕ) (view : TriviaGameView),
    Initial start → Run (step platform) allowed start actions after →
    (after.sites site).views v = some view →
    (∀ number task phase, after.pool number = some ⟨site, task, phase⟩ →
      task.ofGameView v = false) →
    view.isLoading = false

/-- A submission warns about the answer, or finds a question and a username. -/
def Device.Ready (d : Device) (v : ℕ) : Prop :=
  ∀ view, d.views v = some view →
    (isBlank view.answerText = true ∧ view.warnedAboutEmptyAnswer = false) ∨
    (view.currentQuestion ≠ none ∧ d.username ≠ none)

/-- Every submission that begins is ready. -/
def SubmissionsReady (w : World) (action : Action) : Prop :=
  ∀ number site v reply, action = .resume number →
    w.pool number = some ⟨site, .submit v .submitAnswer, .answered reply⟩ →
    (w.sites site).Ready v

/-- The view shows the progress indicator. -/
def Device.loading (d : Device) (v : ℕ) : Bool := (d.views v).any TriviaGameView.isLoading

/-- However it goes on, the task clears `isLoading` of the view. -/
def Task.clears (v : ℕ) : Task → Bool
  | .load u _ => u = v
  | .submit _ .submitAnswer => false
  | .submit u _ => u = v
  | _ => false

def Attends (w : World) (site v : ℕ) : Prop :=
  ∃ number task phase, w.pool number = some ⟨site, task, phase⟩ ∧ task.clears v = true

structure Attended (platform : Platform) (w : World) : Prop where
  fit : Async.AnswersFit (app platform) w
  attended : ∀ site v, (w.sites site).loading v = true → Attends w site v

variable {platform : Platform} {w w' : World} {action : Action} {site u v : ℕ}
variable {d d' d'' : Device} {reply : Reply} {change : TriviaGameView → TriviaGameView}

/-! ## What sets and what clears `isLoading` -/

/-- The view does not begin to load. -/
def Quiet (v : ℕ) (d d' : Device) : Prop := d'.loading v = true → d.loading v = true

namespace Quiet

theorem of_same (same : d'.views = d.views) : Quiet v d d' := by
  intro loads
  simpa only [Device.loading, same] using loads

theorem trans (first : Quiet v d d') (second : Quiet v d' d'') : Quiet v d d'' :=
  fun loads => first (second loads)

theorem of_cleared (cleared : d'.loading v = false) : Quiet v d d' := by
  intro loads
  rw [cleared] at loads
  cases loads

theorem onView (quiet : u = v → ∀ view, (change view).isLoading = true → view.isLoading = true) :
    Quiet v d (d.onView u change) := by
  intro loads
  by_cases same : u = v
  · subst same
    cases shown : d.views u with
    | none => simp [Device.loading, Device.onView, shown] at loads
    | some view =>
      simp only [Device.loading, Device.onView, update_self, shown, Option.map_some,
        Option.any_some] at loads ⊢
      exact quiet rfl view loads
  · simpa [Device.loading, Device.onView, Ne.symm same] using loads

/-- A change of other fields of a view. -/
theorem onView' (same : ∀ view, (change view).isLoading = view.isLoading) :
    Quiet v d (d.onView u change) :=
  .onView fun _ view loads => by rwa [← same]

/-- A change that clears `isLoading`. -/
theorem onView_off (off : ∀ view, (change view).isLoading = false) :
    Quiet v d (d.onView u change) := by
  apply Quiet.onView
  intro _ view loads
  rw [off] at loads
  cases loads

theorem alert {message : ErrorMessage} : Quiet v d (d.alert u message) :=
  .onView_off fun _ => rfl

theorem finishLoading : Quiet v d (d.finishLoading u) :=
  .onView_off fun _ => rfl

end Quiet

theorem onView_cleared (cleared : ∀ view, (change view).isLoading = false) :
    (d.onView v change).loading v = false := by
  cases shown : d.views v with
  | none => simp [Device.loading, Device.onView, shown]
  | some view => simp [Device.loading, Device.onView, shown, cleared]

theorem alert_cleared (message : ErrorMessage) : (d.alert v message).loading v = false :=
  onView_cleared fun _ => rfl

theorem finishLoading_cleared : (d.finishLoading v).loading v = false :=
  onView_cleared fun _ => rfl

/-! ## The segments of the tasks -/

theorem refreshData_quiet (platform : Platform) (u : ℕ) (d : Device) :
    Quiet v d (d.refreshData platform u) := by
  simp only [Device.refreshData]
  split
  · have dated : Quiet v d { d with lastSeenDate := platform.dateFormattedForDb d.day } :=
      .of_same rfl
    exact dated.trans (.onView' fun _ => rfl)
  · exact .of_same rfl

theorem logout_quiet (signOutThrows : Bool) (d : Device) : Quiet v d (d.logout signOutThrows) := by
  intro loads
  simpa [Device.loading, Device.logout, Option.any_map] using loads

/-- Only a loading or a submission that begins sets `isLoading`, in its own view. -/
theorem resume_quiet (task : Task) (reply : Reply) (d : Device)
    (loading : task ≠ .load v .refreshData) (submitting : task ≠ .submit v .submitAnswer) :
    Quiet v d (resume platform task reply d).1 := by
  cases viewed : task.view with
  | none =>
    cases task with
    | signIn task =>
      obtain ⟨_, _, _, _, same⟩ := signIn_frame task reply d
      exact .of_same (by simp only [resume, same])
    | _ => cases viewed
  | some u =>
    have leaves := @leaves_of_resume platform u task viewed reply d
    generalize (resume platform task reply d).1 = left at leaves ⊢
    have opened : u ≠ v → Quiet v d (d.onView u fun view => { view with isLoading := true }) :=
      fun elsewhere => .onView fun here => absurd here elsewhere
    cases leaves with
    | kept => exact .of_same rfl
    | failed _ => exact .alert
    | refreshed =>
      have elsewhere : u ≠ v := by
        rintro rfl
        exact loading rfl
      exact (opened elsewhere).trans (refreshData_quiet platform u _)
    | finished _ => exact .finishLoading
    | @found _ _ answer _ _ =>
      have shown : Quiet v d
          (d.onView u fun view => { view with submittedAnswer := some answer }) :=
        .onView' fun _ => rfl
      exact shown.trans .finishLoading
    | begun =>
      apply opened
      rintro rfl
      exact submitting rfl
    | @counted _ streak =>
      have assigned : Quiet v d (d.assignStreak streak) := .of_same rfl
      exact assigned.trans (.onView_off fun _ => rfl)
    | @named _ username =>
      have assigned : Quiet v d (d.assign fun user => { user with username := some username }) :=
        .of_same rfl
      exact assigned.trans (.onView' fun _ => rfl)
    | loggedOut cleared =>
      -- A logout sets `isLoading` and clears it.
      have off : ∀ view, _ = false := fun view => congrArg TriviaGameView.isLoading (cleared view)
      by_cases same : u = v
      · subst same
        exact .of_cleared (onView_cleared off)
      · exact ((opened same).trans (logout_quiet _ _)).trans (.onView_off off)
    | _ => exact .onView' fun _ => rfl

/-- A read is answered with a snapshot, unless it fails. -/
theorem replies_read {ref : DocumentRef}
    (fits : Async.Replies (app platform) (.getDocument ref) reply) :
    reply = .refused ∨ ∃ snapshot, reply = .snapshot snapshot := by
  rcases fits with refused | ⟨before, after, served⟩
  · exact .inl refused
  · cases served
    exact .inr ⟨_, rfl⟩

theorem replies_write {call : Call} (writes : call.isWrite = true)
    (fits : Async.Replies (app platform) call reply) : reply = .refused ∨ reply = .written := by
  rcases fits with refused | ⟨before, after, served⟩
  · exact .inl refused
  · cases call <;> cases writes <;> cases served
    all_goals exact .inr rfl

/-- A loading ends with `isLoading` cleared. -/
theorem load_ends {task : LoadTask} (fits : Async.Replies (app platform) task.call reply)
    (ends : (task.resume platform v reply d).2 = none) :
    (task.resume platform v reply d).1.loading v = false := by
  cases task with
  | refreshData | loadQuestion => cases ends
  | readQuestion today =>
    rcases replies_read fits with rfl | ⟨snapshot, rfl⟩ <;> cases ends
  | checkResponseExists =>
    simp only [LoadTask.resume] at ends ⊢
    split at ends
    · cases ends
    · simp only [*]
      exact finishLoading_cleared
  | readResponse username today =>
    rcases replies_read fits with rfl | ⟨snapshot, rfl⟩
    · exact alert_cleared _
    · simp only [LoadTask.resume]
      split
      · exact finishLoading_cleared
      · exact alert_cleared _

/-- A submission that is ready and submits nothing has warned about the answer. -/
theorem submitAnswer_quiet (ready : d.Ready v) (nothing : (d.submitAnswer v).2 = none) :
    Quiet v d (d.submitAnswer v).1 := by
  cases shown : d.views v with
  | none => simp [Device.submitAnswer, shown, Quiet]
  | some view =>
    simp only [Device.submitAnswer, shown] at nothing ⊢
    split
    · exact .onView' fun _ => rfl
    · rcases ready view shown with ⟨blank, unwarned⟩ | ⟨asked, named⟩
      · simp_all
      · obtain ⟨question, asked⟩ := Option.ne_none_iff_exists'.mp asked
        obtain ⟨username, named⟩ := Option.ne_none_iff_exists'.mp named
        simp_all

/-- A submission that has found what it submits ends with `isLoading` cleared. -/
theorem submit_ends {task : SubmitTask}
    (fits : Async.Replies (app platform) (task.call platform) reply)
    (found : task ≠ .submitAnswer) (ends : (task.resume platform v reply d).2 = none) :
    (task.resume platform v reply d).1.loading v = false := by
  cases task with
  | submitAnswer => exact absurd rfl found
  | writeResponse question answerText username today =>
    rcases replies_write rfl fits with rfl | rfl
    · exact alert_cleared _
    · cases ends
  | updateStreak streak =>
    simp only [SubmitTask.resume] at ends ⊢
    split at ends
    · cases ends
    · simp only [*]
      exact alert_cleared _
  | writeStreak username streak =>
    rcases replies_write rfl fits with rfl | rfl
    · exact alert_cleared _
    · exact onView_cleared fun _ => rfl

/-- A segment that leaves a view loading goes on to clear it, or was not the one to clear it. -/
theorem loading_of_resume {task : Task} {next : Option Task}
    (resumed : resume platform task reply d = (d', next))
    (fits : Async.Replies (app platform) (call platform task) reply)
    (ready : task = .submit v .submitAnswer → d.Ready v) (loads : d'.loading v = true) :
    (∃ later, next = some later ∧ later.clears v = true) ∨
    (d.loading v = true ∧ task.clears v = false) := by
  obtain rfl : (resume platform task reply d).1 = d' := congrArg Prod.fst resumed
  obtain rfl : (resume platform task reply d).2 = next := congrArg Prod.snd resumed
  have quiet : task ≠ .load v .refreshData → task ≠ .submit v .submitAnswer → d.loading v = true :=
    fun loading submitting => resume_quiet task reply d loading submitting loads
  cases task with
  | signIn _ | enterUsername _ _ | review _ _ | logout _ _ =>
    exact .inr ⟨quiet (by simp) (by simp), rfl⟩
  | load u task =>
    by_cases same : u = v
    · subst same
      cases goes : (task.resume platform u reply d).2 with
      | some next => exact .inl ⟨.load u next, by simp [resume, goes], by simp [Task.clears]⟩
      | none =>
        have cleared := load_ends fits goes
        rw [show (task.resume platform u reply d).1.loading u = true from loads] at cleared
        cases cleared
    · exact .inr ⟨quiet (by simp [same]) (by simp), by simp [Task.clears, same]⟩
  | submit u task =>
    by_cases same : u = v
    · subst same
      cases goes : (task.resume platform u reply d).2 with
      | some next =>
        refine .inl ⟨.submit u next, by simp [resume, goes], ?_⟩
        cases submit_continues goes <;> simp [Task.clears]
      | none =>
        by_cases first : task = .submitAnswer
        · subst first
          have nothing : (d.submitAnswer u).2 = none := by
            cases asked : d.submitAnswer u with
            | mk memory submission => cases submission <;> simp_all [SubmitTask.resume]
          have quiet := submitAnswer_quiet (ready rfl) nothing
          rw [← submitAnswer_segment platform u reply d] at quiet
          exact .inr ⟨quiet loads, rfl⟩
        · have cleared := submit_ends fits first goes
          rw [show (task.resume platform u reply d).1.loading u = true from loads] at cleared
          cases cleared
    · refine .inr ⟨quiet (by simp) (by simp [same]), ?_⟩
      cases task <;> simp [Task.clears, same]

/-- An event that leaves a view loading that was not begins its loading. -/
theorem loading_of_react {event : Event} {task : Option Task}
    (reacted : react platform event d = some (d', task)) (loads : d'.loading v = true) :
    d.loading v = true ∨ ∃ begun, task = some begun ∧ begun.clears v = true := by
  cases reacts_of_react reacted with
  | @appeared u absent =>
    by_cases same : u = v
    · exact .inr ⟨_, rfl, by simp [Task.clears, same]⟩
    · left
      simpa [Device.loading, Ne.symm same] using loads
  | @typed u answerText _ =>
    have quiet : Quiet v d (d.onView u fun view => { view with answerText }) :=
      .onView' fun _ => rfl
    exact .inl (quiet loads)
  | _ => exact .inl loads

/-! ## The steps of the system -/

/-- The task that will clear a view is still there, unless its site restarts or it goes on. -/
theorem attends_stays (moved : Move platform w action w') (attends : Attends w site v)
    (running : action ≠ .restart site)
    (waits : ∀ number task reply, action = .resume number →
      w.pool number = some ⟨site, task, .answered reply⟩ → task.clears v = false) :
    Attends w' site v := by
  obtain ⟨number, task, phase, held, clears⟩ := attends
  by_cases moves : action.moved = some number
  · cases moved.moved held moves with
    | served _ now => exact ⟨number, task, _, now, clears⟩
    | failed now => exact ⟨number, task, _, now, clears⟩
    | resumed _ _ =>
      rw [waits number task _ rfl held] at clears
      cases clears
  · refine ⟨number, task, phase, moved.stays held moves ?_, clears⟩
    rintro here restarted rfl
    exact running restarted

theorem attended_step (attended : Attended platform w) (ready : SubmissionsReady w action)
    (moved : Move platform w action w') : Attended platform w' where
  fit := Async.answersFit_step moved attended.fit
  attended := by
    intro site v loads
    have running : action ≠ .restart site := by
      rintro rfl
      cases moved
      simp [app, relaunch, Device.loading] at loads
    by_cases resumes : ∃ number task reply, action = .resume number ∧
        w.pool number = some ⟨site, task, .answered reply⟩
    · obtain ⟨number, task, reply, rfl, held⟩ := resumes
      cases moved.moved held rfl with
      | resumed went now =>
        have prepared : task = .submit v .submitAnswer → (w.sites site).Ready v := by
          rintro rfl
          exact ready number site v reply rfl held
        rcases loading_of_resume went (attended.fit number site task reply held) prepared loads with
          ⟨later, rfl, clears⟩ | ⟨before, other⟩
        · exact ⟨number, later, .issued, now, clears⟩
        · apply attends_stays moved (attended.attended site v before) running
          intro number' task' reply' same held'
          cases same
          cases held.symm.trans held'
          exact other
    · have stays : Attends w site v → Attends w' site v := by
        intro attends
        apply attends_stays moved attends running
        intro number task reply same held
        exact absurd ⟨number, task, reply, same, held⟩ resumes
      cases moved.memory site with
      | kept same =>
        rw [same] at loads
        exact stays (attended.attended site v loads)
      | reacted went =>
        rcases loading_of_react went loads with before | ⟨begun, rfl, clears⟩
        · exact stays (attended.attended site v before)
        · exact ⟨_, begun, .issued, moved.begun went, clears⟩
      | resumed held went => exact absurd ⟨_, _, _, rfl, held⟩ resumes
      | restarted _ => exact absurd rfl running

theorem attended_of_initial (initial : Initial w) : Attended platform w where
  fit number site task reply held := by
    rw [initial.noJob] at held
    cases held
  attended site v loads := by
    rw [initial.newInstallation] at loads
    cases loads

theorem ofGameView_of_clears {task : Task} (clears : task.clears v = true) :
    task.ofGameView v = true := by
  cases task with
  | load u task => exact clears
  | submit u task => cases task <;> simp_all [Task.clears, Task.ofGameView]
  | _ => cases clears

/-- In a run whose submissions are ready when they begin, no view is left loading. -/
theorem loadingEnds_of_submissionsReady (platform : Platform) :
    LoadingEnds platform SubmissionsReady := by
  intro start after actions site v view initial run shown idle
  have attended : Attended platform after := by
    apply run.invariant (Attended platform) (attended_of_initial initial)
    intro before action next held ready moved
    exact attended_step held ready (Async.move_of_step moved)
  by_contra loads
  have loading : (after.sites site).loading v = true := by
    simpa [Device.loading, shown] using loads
  obtain ⟨number, task, phase, held, clears⟩ := attended.attended site v loading
  have pending := idle number task phase held
  rw [ofGameView_of_clears clears] at pending
  cases pending

/-- Annie signs in on another device with Google and answers while the sign-in goes on: her
account is replaced by one without a username before the answer is submitted. -/
def answeredWhileSigningIn : List Action :=
  signUp 0 "ann@example.com" "annie" ++
  ([.react 1 (.tapGoogle ⟨some "ann@example.com"⟩) 1] : List Action) ++ advance 1 ++ advance 1 ++
  ([.react 1 .currentUserChanges 2, .react 1 (.gameViewAppears 0) 2] : List Action) ++ advance 2 ++
  advance 2 ++ advance 2 ++ advance 2 ++ advance 2 ++ advance 1 ++
  ([.react 1 (.tapSubmitAnswer 0 "Paris") 2] : List Action) ++ advance 1 ++ advance 2 ++
  advance 1 ++ advance 1 ++ advance 1 ++ advance 1

theorem answeredWhileSigningIn_loads :
    ((execute (step march) (firstLaunch [capital]) answeredWhileSigningIn).map fun after =>
      (((after.pool 0).isNone, (after.pool 1).isNone, (after.pool 2).isNone),
        ((after.sites 1).views 0).map (·.isLoading), (after.sites 1).username)) =
      some ((true, true, true), some true, some "annie") := by
  decide +kernel

/-- A view can be left loading with no task under way and nothing failing. -/
theorem not_loadingEnds : ¬ LoadingEnds march Any := by
  intro claim
  obtain ⟨after, ran, reached⟩ := Option.map_eq_some_iff.mp answeredWhileSigningIn_loads
  simp only [Prod.mk.injEq, Option.isNone_iff_eq_none] at reached
  obtain ⟨⟨first, second, third⟩, loading, _⟩ := reached
  obtain ⟨view, shown, loads⟩ := Option.map_eq_some_iff.mp loading
  have run : Run (step march) Any (firstLaunch [capital]) answeredWhileSigningIn after :=
    .of_execute (fun _ _ _ => trivial) ran
  have idle : ∀ number, after.pool number = none := by
    intro number
    have taken : ∀ action ∈ answeredWhileSigningIn, action.takes.all (· < 3) = true := by
      decide +kernel
    obtain rfl | rfl | rfl | later : number = 0 ∨ number = 1 ∨ number = 2 ∨ 3 ≤ number := by omega
    · exact first
    · exact second
    · exact third
    · apply Async.free_of_run run rfl
      intro action performed takes
      have early := taken action performed
      simp only [takes, Option.all_some, decide_eq_true_eq] at early
      omega
  have ended := claim _ after _ 1 0 view (initial_firstLaunch _) run shown fun number _ _ held => by
    rw [idle number] at held
    cases held
  rw [loads] at ended
  cases ended

end DailyTrivia
