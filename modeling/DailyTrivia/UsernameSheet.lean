import DailyTrivia.GameViews

/-!
The username sheet. It cannot be dismissed, and it never clears its own `isSubmitting`: that goes
away only with the sheet, when a username is stored. So a submission that fails, or that nobody
answers, locks the sheet, and with it the view below, as long as the account stays without a
username and the user neither starts the app anew nor logs out in another window.
-/
namespace DailyTrivia

open Runs

/-- The view shows a username sheet that is submitting. -/
def Device.Locked (d : Device) (v : ℕ) : Prop :=
  ∃ view, d.views v = some view ∧ view.onScreen = true ∧ view.showUsernameEntry = true ∧
    view.isSubmitting = true

/-- The sheet is submitting, and no username of it has been stored. -/
structure Unstored (w : World) (site v : ℕ) : Prop where
  locked : (w.sites site).Locked v
  unwritten : ∀ number key username,
    w.pool number ≠ some ⟨site, .enterUsername v (.writeUsername key username), .answered .written⟩

/-- The write of the view's sheet is not served, the device has no username before the step, and its
user neither logs out nor starts the app anew. -/
def noUsername (site v : ℕ) (w : World) (action : Action) : Bool :=
  (w.sites site).username.isNone && match action with
    | .react _ _ _ | .fail _ => true
    | .serve number =>
      match w.pool number with
      | some ⟨here, .enterUsername u (.writeUsername _ _), .issued⟩ => !(here == site && u == v)
      | _ => true
    | .resume number =>
      match w.pool number with
      | some ⟨here, .logout _ _, _⟩ => here != site
      | _ => true
    | .restart here => here != site

variable {platform : Platform} {d d' : Device} {v u site : ℕ} {reply : Reply} {task : Task}
variable {w w' : World} {action : Action}

namespace Device.Locked

theorem of_same (same : d'.views = d.views) (locked : d.Locked v) : d'.Locked v := by
  rw [Device.Locked, same]
  exact locked

theorem onView {change : TriviaGameView → TriviaGameView}
    (keeps : u = v → ∀ view, view.onScreen = true → view.showUsernameEntry = true →
      view.isSubmitting = true → (change view).onScreen = true ∧
      (change view).showUsernameEntry = true ∧ (change view).isSubmitting = true)
    (locked : d.Locked v) : (d.onView u change).Locked v := by
  obtain ⟨view, shown, onScreen, asks, submits⟩ := locked
  by_cases same : u = v
  · obtain ⟨onScreen', asks', submits'⟩ := keeps same view onScreen asks submits
    exact ⟨change view, by simp [Device.onView, same, shown], onScreen', asks', submits'⟩
  · exact ⟨view, by simp [Device.onView, Ne.symm same, shown], onScreen, asks, submits⟩

/-- A change of other fields of a view. -/
theorem onView' {change : TriviaGameView → TriviaGameView}
    (onScreen : ∀ view, (change view).onScreen = view.onScreen)
    (asks : ∀ view, (change view).showUsernameEntry = view.showUsernameEntry)
    (submits : ∀ view, (change view).isSubmitting = view.isSubmitting)
    (locked : d.Locked v) : (d.onView u change).Locked v := by
  refine locked.onView fun _ view first second third => ⟨?_, ?_, ?_⟩
  · rwa [onScreen]
  · rwa [asks]
  · rwa [submits]

/-- The end of a loading opens the sheet again, which goes on submitting. -/
theorem finishLoading (unnamed : d.username = none) (locked : d.Locked v) :
    (d.finishLoading u).Locked v := by
  refine locked.onView fun _ view onScreen _ submits => ⟨onScreen, ?_, ?_⟩
  · simp [unnamed]
  · simp [unnamed, submits]

/-- Nothing but a stored username or a logout unlocks a sheet. -/
theorem resume {next : Option Task} (locked : d.Locked v) (unnamed : d.username = none)
    (unwritten : ∀ key username, task = .enterUsername v (.writeUsername key username) →
      reply ≠ .written)
    (staysIn : ∀ u signOutThrows, task ≠ .logout u signOutThrows)
    (resumed : DailyTrivia.resume platform task reply d = (d', next)) : d'.Locked v := by
  obtain rfl : (DailyTrivia.resume platform task reply d).1 = d' := congrArg Prod.fst resumed
  cases viewed : task.view with
  | none =>
    cases task with
    | signIn task =>
      obtain ⟨_, _, _, _, same⟩ := signIn_frame task reply d
      exact locked.of_same (by simp only [DailyTrivia.resume, same])
    | _ => cases viewed
  | some u =>
    have leaves := @leaves_of_resume platform u task viewed reply d
    generalize (DailyTrivia.resume platform task reply d).1 = left at leaves ⊢
    have opened : (d.onView u fun view => { view with isLoading := true }).Locked v :=
      locked.onView' (fun _ => rfl) (fun _ => rfl) fun _ => rfl
    cases leaves with
    | kept => exact locked
    | refreshed =>
      simp only [Device.refreshData]
      split
      · exact opened.onView' (fun _ => rfl) (fun _ => rfl) fun _ => rfl
      · exact opened
    | finished _ => exact locked.finishLoading unnamed
    | @found _ _ answer _ _ =>
      have shown : (d.onView u fun view => { view with submittedAnswer := some answer }).Locked v :=
        locked.onView' (fun _ => rfl) (fun _ => rfl) fun _ => rfl
      exact shown.finishLoading unnamed
    | @counted _ streak =>
      have assigned : (d.assignStreak streak).Locked v := locked
      exact assigned.onView' (fun _ => rfl) (fun _ => rfl) fun _ => rfl
    | submitting => exact locked.onView fun _ view onScreen asks _ => ⟨onScreen, asks, rfl⟩
    | @named key username =>
      have assigned : (d.assign fun user => { user with username := some username }).Locked v := locked
      refine assigned.onView fun same => ?_
      subst same
      exact absurd rfl (unwritten key username rfl)
    | loggedOut _ => exact absurd rfl (staysIn u _)
    | _ => exact locked.onView' (fun _ => rfl) (fun _ => rfl) fun _ => rfl

theorem react {event : Event} {next : Option Task} (locked : d.Locked v)
    (reacted : DailyTrivia.react platform event d = some (d', next)) : d'.Locked v := by
  cases reacts_of_react reacted with
  | @appeared u absent =>
    obtain ⟨view, shown, rest⟩ := locked
    have other : v ≠ u := by
      rintro rfl
      rw [absent] at shown
      cases shown
    exact ⟨view, by simp [Function.update_of_ne other, shown], rest⟩
  | typed => exact locked.onView' (fun _ => rfl) (fun _ => rfl) fun _ => rfl
  | _ => exact locked

/-- A locked view offers nothing. -/
theorem offers_nothing (locked : d.Locked v) (username answerText userNote : String)
    (signOutThrows : Bool) :
    DailyTrivia.react platform (.tapSubmitUsername v username) d = none ∧
    DailyTrivia.react platform (.tapSubmitAnswer v answerText) d = none ∧
    DailyTrivia.react platform (.tapSubmitReview v userNote) d = none ∧
    DailyTrivia.react platform (.tapLogout v signOutThrows) d = none := by
  obtain ⟨view, shown, onScreen, asks, submits⟩ := locked
  have here : d.shown v = some view := by simp [Device.shown, shown, onScreen]
  have covered : d.uncovered v = none := by simp [Device.uncovered, here, asks]
  simp [DailyTrivia.react, here, covered, asks, submits]

end Device.Locked

/-! ## Whole runs -/

theorem unstored_step (moved : Move platform w action w') (kept : noUsername site v w action = true)
    (unstored : Unstored w site v) : Unstored w' site v where
  locked := by
    have unnamed : (w.sites site).username = none := by
      simpa using (Bool.and_eq_true_iff.mp kept).1
    cases moved.memory site with
    | kept same =>
      rw [same]
      exact unstored.locked
    | reacted reacted => exact unstored.locked.react reacted
    | resumed held resumed =>
      refine unstored.locked.resume unnamed ?_ ?_ resumed
      · rintro key username rfl rfl
        exact unstored.unwritten _ key username held
      · rintro u signOutThrows rfl
        simp [noUsername, held] at kept
    | restarted _ => simp [noUsername] at kept
  unwritten number key username present := by
    cases moved.pool present with
    | kept held _ => exact unstored.unwritten number key username held
    | served held _ => simp [noUsername, held] at kept

/-- A username sheet that is submitting stays so, and its view offers nothing, in every run in which
no username is stored for it and none is assigned to the account. -/
theorem locked_of_run (platform : Platform) (site v : ℕ) (start after : World)
    (actions : List Action) (unstored : Unstored start site v)
    (run : Run (step platform) (noUsername site v · ·) start actions after) :
    (after.sites site).Locked v ∧
    ∀ username answerText userNote signOutThrows,
      react platform (.tapSubmitUsername v username) (after.sites site) = none ∧
      react platform (.tapSubmitAnswer v answerText) (after.sites site) = none ∧
      react platform (.tapSubmitReview v userNote) (after.sites site) = none ∧
      react platform (.tapLogout v signOutThrows) (after.sites site) = none := by
  have kept : Unstored after site v := by
    induction run with
    | nil => exact unstored
    | snoc _ permitted moved ih => exact unstored_step (Async.move_of_step moved) permitted ih
  exact ⟨kept.locked, fun _ _ _ _ => kept.locked.offers_nothing _ _ _ _⟩

/-- Annie registers and asks for a username. -/
def asksForUsername : List Action :=
  ([.react 0 (.tapRegister "ann@example.com" "password") 0] : List Action) ++ advance 0 ++ advance 0 ++
  advance 0 ++ advance 0 ++ advance 0 ++
  ([.react 0 .currentUserChanges 0, .react 0 (.gameViewAppears 0) 0] : List Action) ++ advance 0 ++
  advance 0 ++ advance 0 ++ advance 0 ++
  ([.react 0 (.tapSubmitUsername 0 "annie") 0] : List Action) ++ advance 0

/-- Her request fails; the next day the view appears again. -/
def afterFailure : List Action :=
  [.fail 0, .resume 0, .react 0 .midnight 0, .react 0 (.gameViewAppears 0) 0] ++ advance 0 ++
  advance 0 ++ advance 0 ++ advance 0

theorem locked_afterFailure : ∃ start after,
    execute (step march) (firstLaunch []) asksForUsername = some start ∧
    execute (step march) start afterFailure = some after ∧ (after.sites 0).Locked 0 := by
  have possible : ((execute (step march) (firstLaunch []) asksForUsername).bind fun start =>
      (start.pool 0).bind Async.Job.awaited |>.bind fun _ =>
        ((start.sites 0).shown 0).bind fun view =>
          if view.showUsernameEntry && view.isSubmitting then
            execute (guarded (noUsername 0 0) (step march)) start afterFailure
          else none).isSome = true := by decide +kernel
  obtain ⟨after, possible⟩ := Option.isSome_iff_exists.mp possible
  obtain ⟨start, asked, possible⟩ := Option.bind_eq_some_iff.mp possible
  obtain ⟨⟨site, task⟩, waiting, possible⟩ := Option.bind_eq_some_iff.mp possible
  obtain ⟨view, shown, possible⟩ := Option.bind_eq_some_iff.mp possible
  obtain ⟨sheet, executed⟩ := Option.ite_none_right_eq_some.mp possible
  obtain ⟨there, onScreen⟩ := Option.filter_eq_some_iff.mp shown
  obtain ⟨asks, submits⟩ := Bool.and_eq_true_iff.mp sheet
  have unwritten : ∀ number key username, start.pool number ≠
      some ⟨0, .enterUsername 0 (.writeUsername key username), .answered .written⟩ := by
    intro number key username held
    by_cases first : number = 0
    · subst first
      rw [Async.issued_of_awaited waiting] at held
      cases held
    · have ran : Run (step march) Any (firstLaunch []) asksForUsername start :=
        .of_execute (fun _ _ _ => trivial) asked
      have only : ∀ action ∈ asksForUsername, action.takes = none ∨ action.takes = some 0 := by
        decide +kernel
      have free : start.pool number = none := by
        refine Async.free_of_run ran rfl fun action performed takes => ?_
        rcases only action performed with nothing | zero
        · rw [nothing] at takes
          cases takes
        · rw [zero] at takes
          exact first (Option.some.inj takes).symm
      rw [free] at held
      cases held
  have unstored : Unstored start 0 0 := ⟨⟨view, there, onScreen, asks, submits⟩, unwritten⟩
  have run := Run.of_guarded executed
  exact ⟨start, after, asked, run.execute, (locked_of_run march 0 0 _ after _ unstored run).1⟩

end DailyTrivia
