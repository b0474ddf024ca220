import DailyTrivia.CurrentUser
import DailyTrivia.GameViews

/-!
One screen at a time. The app shows the login screen or the game, whichever `isUserLoggedIn` says,
while tasks of both go on behind it. Tasks of a sign-in set `currentUser` and nothing but a logout
clears it, so the game never stays without a session, and views that are left take no input.
-/
namespace DailyTrivia

open Documents Runs Function

inductive Screen where
  | login
  | game
  deriving DecidableEq

/-- The body of `daily_triviaApp`. -/
def Device.screen (d : Device) : Screen := if d.isUserLoggedIn then .game else .login

/-- The screen that an input comes from. -/
def Event.input : Event → Option Screen
  | .tapLogin _ _ | .tapRegister _ _ | .tapGoogle _ => some .login
  | .tapSubmitAnswer _ _ | .tapSubmitUsername _ _ | .tapLogout _ _ | .tapSubmitReview _ _ =>
    some .game
  | .midnight | .loginViewAppears | .currentUserChanges | .gameViewAppears _ => none

/-- The game has a session, and only its views are on screen. -/
structure OneScreen (d : Device) : Prop where
  session : d.isUserLoggedIn = true → d.currentUser.isSome = true
  views : ∀ v view, d.views v = some view → view.onScreen = true → d.isUserLoggedIn = true

/-- The same screen goes on: no session is lost and no view comes back. -/
structure GoesOn (d d' : Device) : Prop where
  loggedIn : d'.isUserLoggedIn = d.isUserLoggedIn
  session : d.currentUser.isSome = true → d'.currentUser.isSome = true
  views : ∀ v view, d'.views v = some view → view.onScreen = true →
    ∃ before, d.views v = some before ∧ before.onScreen = true

variable {platform : Platform} {d d' d'' : Device} {v : ℕ} {task : Task} {reply : Reply}
variable {w w' : World} {action : Action} {event : Event} {next : Option Task}

theorem goesOn_refl (d : Device) : GoesOn d d :=
  ⟨rfl, id, fun _ view shown onScreen => ⟨view, shown, onScreen⟩⟩

theorem GoesOn.trans (first : GoesOn d d') (second : GoesOn d' d'') : GoesOn d d'' where
  loggedIn := second.loggedIn.trans first.loggedIn
  session present := second.session (first.session present)
  views v view shown onScreen := by
    obtain ⟨before, there, still⟩ := second.views v view shown onScreen
    exact first.views v before there still

theorem goesOn_onView (change : TriviaGameView → TriviaGameView)
    (keeps : ∀ view, (change view).onScreen = view.onScreen) : GoesOn d (d.onView v change) where
  loggedIn := rfl
  session := id
  views u view shown onScreen := by
    by_cases here : u = v
    · subst here
      simp only [Device.onView, update_self] at shown
      obtain ⟨before, there, rfl⟩ := Option.map_eq_some_iff.mp shown
      exact ⟨before, there, (keeps before).symm.trans onScreen⟩
    · simp only [Device.onView, update_of_ne here] at shown
      exact ⟨view, shown, onScreen⟩

theorem goesOn_assign (change : User → User) : GoesOn d (d.assign change) where
  loggedIn := rfl
  session present := by simpa [Device.assign] using present
  views _ view shown onScreen := ⟨view, shown, onScreen⟩

theorem OneScreen.goesOn (one : OneScreen d) (same : GoesOn d d') : OneScreen d' where
  session loggedIn := same.session (one.session (same.loggedIn.symm.trans loggedIn))
  views v view shown onScreen := by
    obtain ⟨before, there, still⟩ := same.views v view shown onScreen
    exact same.loggedIn.trans (one.views v before there still)

/-! ## One step -/

theorem goesOn_refreshData : GoesOn d (d.refreshData platform v) := by
  simp only [Device.refreshData]
  split
  · have seen : GoesOn d { d with lastSeenDate := platform.dateFormattedForDb d.day } :=
      ⟨rfl, id, fun _ view shown onScreen => ⟨view, shown, onScreen⟩⟩
    exact seen.trans (goesOn_onView _ fun _ => rfl)
  · exact goesOn_refl d

/-- A sign-in assigns users and leaves the screen. -/
theorem goesOn_signIn {task : SignInTask} : GoesOn d (task.resume reply d).1 := by
  obtain ⟨_, _, _, user, same⟩ := signIn_frame task reply d
  have assigned : Assigned d (.signIn task) reply user := by
    simpa [same] using @signIn_assigned d reply task
  rw [same]
  refine ⟨rfl, fun present => ?_, fun _ view shown onScreen => ⟨view, shown, onScreen⟩⟩
  cases assigned with
  | kept => exact present
  | googleUsername _ | username _ | streak _ | reset => simpa using present
  | _ => rfl

theorem oneScreen_logout (d : Device) (signOutThrows : Bool) :
    OneScreen (d.logout signOutThrows) where
  session loggedIn := by cases loggedIn
  views v view shown onScreen := by
    obtain ⟨before, _, rfl⟩ := Option.map_eq_some_iff.mp shown
    cases onScreen

theorem oneScreen_resume (resumed : resume platform task reply d = (d', next))
    (one : OneScreen d) : OneScreen d' := by
  obtain rfl : (resume platform task reply d).1 = d' := congrArg Prod.fst resumed
  cases viewed : task.view with
  | none =>
    cases task with
    | signIn task => exact one.goesOn goesOn_signIn
    | _ => cases viewed
  | some v =>
    have leaves := @leaves_of_resume platform v task viewed reply d
    generalize (resume platform task reply d).1 = left at leaves ⊢
    cases leaves with
    | kept => exact one
    | refreshed =>
      refine OneScreen.goesOn ?_ goesOn_refreshData
      exact one.goesOn (goesOn_onView _ fun _ => rfl)
    | found _ =>
      refine OneScreen.goesOn ?_ (goesOn_onView _ fun _ => rfl)
      exact one.goesOn (goesOn_onView _ fun _ => rfl)
    | counted | named =>
      refine OneScreen.goesOn ?_ (goesOn_onView _ fun _ => rfl)
      exact one.goesOn (goesOn_assign _)
    | loggedOut changes =>
      exact (oneScreen_logout _ _).goesOn (goesOn_onView _ fun view => by rw [changes])
    | _ => exact one.goesOn (goesOn_onView _ fun _ => rfl)

theorem oneScreen_react (reacted : react platform event d = some (d', next)) (one : OneScreen d) :
    OneScreen d' := by
  cases reacts_of_react reacted with
  | kept _ => exact one
  | midnight | launched => exact ⟨one.session, one.views⟩
  | observed =>
    exact ⟨id, fun v view shown onScreen => one.session (one.views v view shown onScreen)⟩
  | @appeared u _ =>
    have loggedIn : d.isUserLoggedIn = true := by
      cases begins_of_react reacted with
      | load loggedIn => exact loggedIn
    exact ⟨one.session, fun _ _ _ _ => loggedIn⟩
  | typed => exact one.goesOn (goesOn_onView _ fun _ => rfl)

/-! ## Whole runs -/

theorem oneScreen_relaunch (d : Device) : OneScreen (relaunch d) where
  session loggedIn := by cases loggedIn
  views _ _ shown := by cases shown

theorem oneScreen_step (moved : Move platform w action w')
    (one : ∀ site, OneScreen (w.sites site)) (site : ℕ) : OneScreen (w'.sites site) := by
  cases moved.memory site with
  | kept same =>
    rw [same]
    exact one site
  | reacted reacted => exact oneScreen_react reacted (one site)
  | restarted gone =>
    rw [gone]
    exact oneScreen_relaunch _
  | resumed _ resumed => exact oneScreen_resume resumed (one site)

theorem oneScreen_run {start after : World} {actions : List Action} (initial : Initial start)
    (run : Run (step platform) Any start actions after) (site : ℕ) :
    OneScreen (after.sites site) := by
  refine run.invariant (fun w => ∀ site, OneScreen (w.sites site)) ?_ ?_ site
  · intro site
    rw [initial.newInstallation]
    exact oneScreen_relaunch { day := (start.sites site).day }
  · intro before action after one _ moved
    exact oneScreen_step (Async.move_of_step moved) one

/-- An input that is accepted comes from the screen that is shown. -/
theorem screen_of_input {screen : Screen} (one : OneScreen d)
    (reacted : react platform event d = some (d', next)) (input : event.input = some screen) :
    d.screen = screen := by
  have shows : ∀ v view, d.shown v = some view → d.screen = .game := by
    intro v view shown
    obtain ⟨there, onScreen⟩ := Option.filter_eq_some_iff.mp shown
    simp [Device.screen, one.views v view there onScreen]
  have uncovered : ∀ v view, d.uncovered v = some view → d.screen = .game :=
    fun v view shown => shows v view (Option.filter_eq_some_iff.mp shown).1
  cases event with
  | tapLogin email password | tapRegister email password =>
    cases input
    cases loggedIn : d.isUserLoggedIn with
    | false => simp [Device.screen, loggedIn]
    | true => simp [react, loggedIn] at reacted
  | tapGoogle user =>
    cases input
    cases loggedIn : d.isUserLoggedIn with
    | false => simp [Device.screen, loggedIn]
    | true => simp [react, loggedIn] at reacted
  | tapSubmitAnswer v _ | tapLogout v _ | tapSubmitReview v _ =>
    cases input
    cases shown : d.uncovered v with
    | none => simp [react, shown] at reacted
    | some view => exact uncovered v view shown
  | tapSubmitUsername v username =>
    cases input
    cases shown : d.shown v with
    | none => simp [react, shown] at reacted
    | some view => exact shows v view shown
  | _ => cases input

/-- In every run, the game is shown only with a session, its views are on screen only while it is
shown, and only the screen that is shown takes input. -/
theorem screens_of_run (platform : Platform) (start after : World) (actions : List Action)
    (initial : Initial start) (run : Run (step platform) Any start actions after) (site : ℕ) :
    ((after.sites site).screen = .game → (after.sites site).currentUser.isSome = true) ∧
    (∀ v view, (after.sites site).views v = some view → view.onScreen = true →
      (after.sites site).screen = .game) ∧
    ∀ event screen, event.input = some screen →
      (react platform event (after.sites site)).isSome = true →
      (after.sites site).screen = screen := by
  have one := oneScreen_run initial run site
  refine ⟨fun game => one.session ?_, fun v view shown onScreen => ?_,
    fun event screen input possible => ?_⟩
  · by_contra loggedOut
    simp [Device.screen, loggedOut] at game
  · simp [Device.screen, one.views v view shown onScreen]
  · obtain ⟨⟨_, _⟩, reacted⟩ := Option.isSome_iff_exists.mp possible
    exact screen_of_input one reacted input

/-- Annie registers and logs out. -/
def signsOut : List Action :=
  signUp 0 "ann@example.com" "annie" ++ ([.react 0 (.tapLogout 0 false) 0] : List Action) ++ advance 0

theorem screens_signsOut : ∃ after,
    execute (step march) (firstLaunch [capital]) signsOut = some after ∧
    ((after.sites 0).screen = .game → (after.sites 0).currentUser.isSome = true) ∧
    (∀ v view, (after.sites 0).views v = some view → view.onScreen = true →
      (after.sites 0).screen = .game) ∧
    ∀ event screen, event.input = some screen →
      (react march event (after.sites 0)).isSome = true → (after.sites 0).screen = screen := by
  have possible : (execute (step march) (firstLaunch [capital]) signsOut).isSome = true := by
    decide +kernel
  obtain ⟨after, executed, run⟩ := Run.exists_of_execute possible
  exact ⟨after, executed, screens_of_run march _ after _ (initial_firstLaunch _) run 0⟩

example : (execute (step march) (firstLaunch [capital]) signsOut).map
    (fun after =>
      ((after.sites 0).screen, (react march (.tapLogout 0 false) (after.sites 0)).isSome)) =
    some (.login, false) := by decide +kernel

end DailyTrivia
