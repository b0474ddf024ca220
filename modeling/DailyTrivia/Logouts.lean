import DailyTrivia.CurrentUser
import DailyTrivia.TaskFlow

/-!
A logout lasts until the user signs in again. `logout` clears the session of `AuthService` and
asks the SDKs to drop theirs, but it leaves the tasks of a sign-in that is under way, a Firebase
session that cannot be dropped, and a Google session that this launch has not restored. Each of
them signs the user in again. `LogoutsFinal` is a logout that leaves none of them.
-/
namespace DailyTrivia

open Runs

/-- The user asks for a sign-in on a device. -/
def asksToSignIn (site : ℕ) : Action → Prop
  | .react here (.tapLogin _ _) _ | .react here (.tapRegister _ _) _
  | .react here (.tapGoogle _) _ => here = site
  | _ => False

/-- From a logout on nobody is signed in on the device until the user asks for it. -/
def LogoutKept (platform : Platform) (allowed : World → Action → Prop) : Prop :=
  ∀ (start before left after : World) (actions more : List Action) (number site v : ℕ)
    (signOutThrows : Bool) (reply : Reply),
    Initial start → Run (step platform) allowed start actions before →
    before.pool number = some ⟨site, .logout v signOutThrows, .answered reply⟩ →
    allowed before (.resume number) → step platform before (.resume number) = some left →
    Run (step platform) (fun w action => allowed w action ∧ ¬ asksToSignIn site action)
      left more after →
    (after.sites site).isUserLoggedIn = false ∧ (after.sites site).currentUser = none

/-- A sign-in that has still to assign `currentUser`, or keeps a session for it. -/
def Task.signsIn : Task → Bool
  | .signIn (.writeUserAccount _) | .signIn (.readUsername _) | .signIn (.fetchUserStreak _)
  | .signIn (.readStreak _ _) | .signIn (.resetStreak _ _) => false
  | .signIn _ => true
  | _ => false

/-- A logout leaves nothing behind that can sign the user in. -/
structure LogoutsFinal (w : World) (action : Action) : Prop where
  /-- No sign-in of the device is under way. -/
  alone : ∀ number site v signOutThrows reply, action = .resume number →
    w.pool number = some ⟨site, .logout v signOutThrows, .answered reply⟩ →
    ∀ other task phase, w.pool other = some ⟨site, task, phase⟩ → task.signsIn = false
  /-- `Auth.auth().signOut()` throws on no session. -/
  signsOut : ∀ number site v reply, action = .resume number →
    w.pool number = some ⟨site, .logout v true, .answered reply⟩ →
    (w.sites site).firebaseUser = none
  /-- A Google session that could be restored has been. -/
  restored : ∀ number site v signOutThrows reply, action = .resume number →
    w.pool number = some ⟨site, .logout v signOutThrows, .answered reply⟩ →
    (w.sites site).googleUser = none → (w.sites site).savedGoogleUser = none

/-- Nobody is signed in, and there is no session to restore. -/
structure Out (d : Device) : Prop where
  isUserLoggedIn : d.isUserLoggedIn = false
  currentUser : d.currentUser = none
  firebaseUser : d.firebaseUser = none
  savedGoogleUser : d.savedGoogleUser = none

/-- A device that nobody is about to sign in on. -/
structure LoggedOut (site : ℕ) (w : World) : Prop where
  out : Out (w.sites site)
  quiet : ∀ number task phase, w.pool number = some ⟨site, task, phase⟩ → task.signsIn = false

variable {platform : Platform} {d d' : Device} {reply : Reply} {w w' : World} {action : Action}
variable {site : ℕ}

/-- A logout that leaves no session to restore. -/
theorem out_of_logout {signOutThrows : Bool}
    (signsOut : signOutThrows = true → d.firebaseUser = none)
    (restored : d.googleUser = none → d.savedGoogleUser = none) : Out (d.logout signOutThrows) where
  isUserLoggedIn := rfl
  currentUser := rfl
  firebaseUser := by
    cases signOutThrows with
    | true => exact signsOut rfl
    | false => rfl
  savedGoogleUser := by
    cases google : d.googleUser with
    | none => simp [Device.logout, google, restored google]
    | some user => simp [Device.logout, google]

theorem Out.of_views (out : Out d) (only : OnlyViews d d') : Out d' := by
  obtain ⟨_, _, rfl⟩ := only
  exact ⟨out.isUserLoggedIn, out.currentUser, out.firebaseUser, out.savedGoogleUser⟩

/-- Without a user there is none to assign to. -/
theorem Out.of_assign (out : Out d) (change : User → User) : Out (d.assign change) :=
  ⟨out.isUserLoggedIn, by simp [Device.assign, out.currentUser], out.firebaseUser,
    out.savedGoogleUser⟩

theorem Out.of_react {event : Event} {next : Option Task} (out : Out d)
    (reacted : react platform event d = some (d', next)) : Out d' := by
  cases reacts_of_react reacted with
  | observed =>
    exact ⟨by simp [out.currentUser], out.currentUser, out.firebaseUser, out.savedGoogleUser⟩
  | _ => exact ⟨out.isUserLoggedIn, out.currentUser, out.firebaseUser, out.savedGoogleUser⟩

/-- What is left of a sign-in that assigns no user any more changes nothing. -/
theorem Out.of_signIn {task : SignInTask} (out : Out d)
    (settled : (Task.signIn task).signsIn = false) : Out (task.resume reply d).1 := by
  cases task with
  | readUsername email =>
    cases reply with
    | snapshot snapshot =>
      simp only [SignInTask.resume, Device.assignUsername]
      split
      · exact out.of_assign _
      · exact out
    | _ => exact out
  | readStreak email username =>
    cases reply with
    | snapshot snapshot =>
      simp only [SignInTask.resume]
      split
      · exact out.of_assign _
      · split <;> exact out
    | _ => exact out
  | resetStreak email username =>
    cases reply with
    | written => exact out.of_assign _
    | _ => exact out
  | writeUserAccount user => cases reply <;> exact out
  | fetchUserStreak email => exact out
  | _ => cases settled

/-- A task that signs nobody in leaves nobody signed in. -/
theorem Out.of_resume {task : Task} {next : Option Task} (out : Out d)
    (settled : task.signsIn = false) (resumed : resume platform task reply d = (d', next)) :
    Out d' := by
  obtain rfl : (resume platform task reply d).1 = d' := congrArg Prod.fst resumed
  cases viewed : task.view with
  | none =>
    cases task with
    | signIn task => exact out.of_signIn settled
    | _ => cases viewed
  | some v =>
    have leaves := @leaves_of_resume platform v task viewed reply d
    generalize (resume platform task reply d).1 = left at leaves ⊢
    cases leaves with
    | kept => exact out
    | refreshed => exact out.of_views (refreshed_frame v d)
    | found _ => exact (out.of_views .onView).of_views .onView
    | counted | named => exact (out.of_assign _).of_views .onView
    | @loggedOut signOutThrows _ _ _ =>
      have left : Out ((d.onView v fun view => { view with isLoading := true }).logout
          signOutThrows) :=
        out_of_logout (fun _ => out.firebaseUser) fun _ => out.savedGoogleUser
      exact left.of_views .onView
    | _ => exact out.of_views .onView

/-- A task that signs nobody in is not followed by one that does. -/
theorem settled_of_continues {task next : Task} (settled : task.signsIn = false)
    (continues : Continues platform d task reply next) : next.signsIn = false := by
  cases continues <;> first | rfl | cases settled

/-- On a device without a session only the user begins a sign-in. -/
theorem settled_of_begins {event : Event} {task : Task} {number : ℕ} (out : Out d)
    (begins : Begins d event task) (unasked : ¬ asksToSignIn site (.react site event number)) :
    task.signsIn = false := by
  cases begins with
  | restoreFirebase kept =>
    rw [out.firebaseUser] at kept
    cases kept
  | restoreGoogle _ kept =>
    rw [out.savedGoogleUser] at kept
    cases kept
  | login _ | register _ | google _ => exact absurd rfl unasked
  | _ => rfl

theorem loggedOut_step (moved : Move platform w action w') (unasked : ¬ asksToSignIn site action)
    (logged : LoggedOut site w) : LoggedOut site w' where
  out := by
    cases moved.memory site with
    | kept same => exact same ▸ logged.out
    | reacted reacted => exact logged.out.of_react reacted
    | resumed held resumed => exact logged.out.of_resume (logged.quiet _ _ _ held) resumed
    | restarted same =>
      rw [same]
      exact ⟨rfl, rfl, logged.out.firebaseUser, logged.out.savedGoogleUser⟩
  quiet := by
    intro number task phase held
    cases moved.pool held with
    | kept before _ => exact logged.quiet number task phase before
    | spawned reacted _ => exact settled_of_begins logged.out (begins_of_react reacted) unasked
    | served before _ => exact logged.quiet number task _ before
    | failed before => exact logged.quiet number task _ before
    | resumed before resumed =>
      exact settled_of_continues (logged.quiet number _ _ before) (continues_of_resume resumed)

/-- A logout that leaves nothing behind. -/
theorem loggedOut_of_logout {number v : ℕ} {signOutThrows : Bool}
    (held : w.pool number = some ⟨site, .logout v signOutThrows, .answered reply⟩)
    (final : LogoutsFinal w (.resume number)) (moved : Move platform w (.resume number) w') :
    LoggedOut site w' where
  out := by
    cases moved.moved held rfl with
    | resumed resumed _ =>
      obtain same : (resume platform (.logout v signOutThrows) reply (w.sites site)).1 =
        w'.sites site := congrArg Prod.fst resumed
      have left : Out (((w.sites site).onView v fun view =>
          { view with isLoading := true }).logout signOutThrows) := by
        refine out_of_logout ?_ (final.restored number site v signOutThrows reply rfl held)
        rintro rfl
        exact final.signsOut number site v reply rfl held
      rw [← same]
      simp only [resume]
      split <;> exact left.of_views .onView
  quiet := by
    intro other task phase held'
    cases moved.pool held' with
    | kept before _ => exact final.alone number site v signOutThrows reply rfl held other task _ before
    | resumed before resumed =>
      have settled := final.alone number site v signOutThrows reply rfl held _ _ _ before
      exact settled_of_continues settled (continues_of_resume resumed)

/-- No logout is undone as long as logouts leave nothing behind. -/
theorem logoutKept_of_logoutsFinal (platform : Platform) : LogoutKept platform LogoutsFinal := by
  intro start before left after actions more number site v signOutThrows reply _ _ held final moved
    run
  have logged := loggedOut_of_logout held final (Async.move_of_step moved)
  have still : LoggedOut site after := by
    refine run.invariant (LoggedOut site) logged ?_
    rintro before action after logged ⟨_, unasked⟩ moved
    exact loggedOut_step (Async.move_of_step moved) unasked logged
  exact ⟨still.out.isUserLoggedIn, still.out.currentUser⟩

/-- A Google account is picked, but its users document cannot be read; then an account is registered
by e-mail. The app is launched again, which restores the Firebase session, and the user logs out. -/
def pickedGoogle : List Action :=
  ([.react 0 (.tapGoogle ⟨some "ann@example.org"⟩) 0] : List Action) ++ advance 0 ++
  ([.fail 0, .resume 0] : List Action) ++ signUp 0 "ann@example.com" "annie" ++
  ([.restart 0, .react 0 .loginViewAppears 0] : List Action) ++ advance 0 ++ advance 0 ++
  advance 0 ++ advance 0 ++ advance 0 ++
  ([.react 0 .currentUserChanges 0, .react 0 (.gameViewAppears 0) 0] : List Action) ++ advance 0 ++
  advance 0 ++ advance 0 ++ advance 0 ++ advance 0 ++
  ([.react 0 (.tapLogout 0 false) 0, .serve 0] : List Action)

/-- The login view comes back and restores the Google session. -/
def backToLogin : List Action :=
  ([.react 0 .loginViewAppears 0] : List Action) ++ advance 0 ++
  ([.react 0 .currentUserChanges 0] : List Action)

theorem pickedGoogle_restored :
    ((execute (step march) (firstLaunch []) pickedGoogle).bind fun before =>
      (step march before (.resume 0)).bind fun left =>
        (execute (step march) left backToLogin).map fun after =>
          ((before.pool 0).map fun job => (job.site, job.task, job.awaited.isNone),
            (after.sites 0).isUserLoggedIn)) =
      some (some (0, .logout 0 false, true), true) := by
  decide +kernel

/-- A logout can be undone with no task under way and no sign-out that throws. -/
theorem not_logoutKept : ¬ LogoutKept march Any := by
  intro claim
  obtain ⟨before, ran, reached⟩ := Option.bind_eq_some_iff.mp pickedGoogle_restored
  obtain ⟨left, moved, reached⟩ := Option.bind_eq_some_iff.mp reached
  obtain ⟨after, ran', reached⟩ := Option.map_eq_some_iff.mp reached
  obtain ⟨held, loggedIn⟩ := Prod.mk.inj reached
  obtain ⟨⟨_, _, phase⟩, held, same⟩ := Option.map_eq_some_iff.mp held
  cases phase with
  | issued => cases same
  | answered reply =>
    cases same
    have unasked : ∀ action ∈ backToLogin, ∀ w : World,
        Any w action ∧ ¬ asksToSignIn 0 action := by
      simp [backToLogin, advance, Async.await, asksToSignIn, Any]
    have out := claim _ before left after pickedGoogle backToLogin 0 0 0 false reply
      (initial_firstLaunch _) (.of_execute (fun _ _ _ => trivial) ran) held trivial moved
      (.of_execute unasked ran')
    rw [out.1] at loggedIn
    cases loggedIn

end DailyTrivia
