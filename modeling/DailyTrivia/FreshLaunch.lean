import DailyTrivia.Provenance
import DailyTrivia.Rest
import DailyTrivia.StreakUpdates
import DailyTrivia.UsernameKeys

/-!
A launch shows what is stored. Whatever has happened before, to this device or elsewhere, and however
wrong what it shows by then: ended and started anew, the app signs in with the sign-in that it has
kept, and if the sign-in comes to its end before the game appears, and nothing else comes between,
it shows the stored username, the stored streak, the question of the day and the answer that is
stored for it. It stores nothing but a streak that was missing.

A game view that appears earlier may find the username missing, and ask for one.
-/
namespace DailyTrivia

open Async (After)
open Documents Runs Function

/-- The users document of the sign-in that is kept across launches. -/
def Device.keptAccount (d : Device) : Option String :=
  match d.firebaseUser, d.savedGoogleUser with
  | some user, _ => some (sanitizedEmail user.email)
  | none, some user => some (sanitizedEmail (user.email.getD ""))
  | none, none => none

/-- The device keeps a sign-in to an account, and Firestore takes the ids of a launch as they are. A
Google account without an address has the empty id, which is none. -/
structure KeepsAccount (platform : Platform) (w : World) (site : ℕ) (key : String) : Prop where
  kept : (w.sites site).keptAccount = some key
  account : IsSegment key
  username : ∀ username, storedUsername w key = some username → IsSegment username
  today : IsSegment (platform.dateFormattedForDb (w.sites site).day)

/-- The question that is stored for a day, if it decodes. -/
def storedQuestion (w : World) (today : String) : Option TriviaQuestion :=
  (get w.store.documents (questionRef today)).bind TriviaQuestion.decode

/-- The answer of a user that is stored for a day, if its question was of that day. -/
def storedAnswer (w : World) (username today : String) : Option SubmittedAnswer :=
  (get w.store.documents (responseRef username today)).bind fun document =>
    if document.string "date" = some today then SubmittedAnswer.decode document else none

/-- The app is ended and started anew, its sign-in comes to its end, and a view appears and loads. -/
def comesBack (site number v signIn load : ℕ) : List Action :=
  [.restart site] ++ Async.uninterrupted site .loginViewAppears number signIn ++
  [.react site .currentUserChanges number] ++
  Async.uninterrupted site (.gameViewAppears v) number load

/-- Nothing else is stored than before, but for streaks of 0 that were missing. -/
structure SameStored (w : World) (store : Backend) : Prop where
  documents : ∀ ref : DocumentRef, ref.collection ≠ .streaks →
    get store.documents ref = get w.store.documents ref
  streaks : ∀ username, streakIn store.documents username = storedStreak w username

/-- The session has what is stored. -/
def Restored (w : World) (key : String) (d : Device) : Prop :=
  ∃ user, d.currentUser = some user ∧ user.username = storedUsername w key ∧
    user.streak = (storedUsername w key).map (storedStreak w)

/-- The device shows what was stored in `w`. -/
structure ShowsStored (platform : Platform) (w : World) (site v : ℕ) (key : String) (w' : World) :
    Prop where
  loggedIn : (w'.sites site).isUserLoggedIn = true
  username : (w'.sites site).username = storedUsername w key
  streak : (w'.sites site).streak = (storedUsername w key).map (storedStreak w)
  view : ∃ view, (w'.sites site).shown v = some view ∧ view.isLoading = false ∧
    view.showUsernameEntry = (storedUsername w key).isNone ∧
    view.currentQuestion = storedQuestion w (platform.dateFormattedForDb (w.sites site).day) ∧
    view.submittedAnswer = (storedUsername w key).bind fun username =>
      storedAnswer w username (platform.dateFormattedForDb (w.sites site).day)
  quiet : ∀ number job, w'.pool number = some job → job.site ≠ site
  elsewhere : ∀ other, other ≠ site → w'.sites other = w.sites other
  stored : SameStored w w'.store

variable {platform : Platform} {w : World} {key : String} {store : Backend} {d : Device} {day v : ℕ}

theorem sameStored_self (w : World) : SameStored w w.store := ⟨fun _ _ => rfl, fun _ => rfl⟩

/-- A streak of 0 where none was. -/
theorem sameStored_reset {username : String}
    (missing : ((get w.store.documents (streakRef username)).bind fun document =>
      document.int "streak") = none) :
    SameStored w { w.store with
      documents := setMerging w.store.documents (streakRef username) (streakData username 0) } where
  documents ref other := get_setMerging_ne fun same => other (same ▸ rfl)
  streaks other := by
    by_cases same : other = username
    · subst same
      have written : (mergeInto (streakData other 0)
          (get w.store.documents (streakRef other))).int "streak" = some 0 :=
        int_of_some (mergeInto_of_some rfl)
      simp [storedStreak, streakIn, missing, written]
    · have apart : streakRef other ≠ streakRef username := fun here => same (congrArg Ref.id here)
      rw [streakIn, get_setMerging_ne apart]
      rfl

/-! ## The sign-in -/

/-- What the sign-in of a launch knows. -/
def Restoring (w : World) (key : String) (d : Device) : SignInTask → Prop
  | .restoreFirebase user => sanitizedEmail user.email = key
  | .restoreGoogle user => sanitizedEmail (user.email.getD "") = key
  | .readUsername email => sanitizedEmail email = key ∧
    ∃ user, d.currentUser = some user ∧ user.username = none ∧ user.streak = none
  | .fetchUserStreak _ =>
    ∃ user, d.currentUser = some user ∧ user.username = storedUsername w key ∧ user.streak = none
  | .readStreak _ username => storedUsername w key = some username ∧
    ∃ user, d.currentUser = some user ∧ user.username = some username ∧ user.streak = none
  | .resetStreak _ username => storedUsername w key = some username ∧
    (∃ user, d.currentUser = some user ∧ user.username = some username ∧ user.streak = none) ∧
    ((get w.store.documents (streakRef username)).bind fun document =>
      document.int "streak") = none
  | _ => False

/-- Nobody has seen the session yet, and no view is there. -/
structure Launching (day : ℕ) (d : Device) : Prop where
  day : d.day = day
  loggedOut : d.isUserLoggedIn = false
  unobserved : d.observedUser = none
  closed : d.views = fun _ => none

/-- What holds while the sign-in of a launch awaits a call. -/
def LaunchStage (w : World) (key : String) (day : ℕ) (store : Backend) (d : Device)
    (task : Task) : Prop :=
  ∃ signIn, task = .signIn signIn ∧ store = w.store ∧ Launching day d ∧ Restoring w key d signIn

/-- What holds when it has come to its end. -/
structure Launched (w : World) (key : String) (day : ℕ) (store : Backend) (d : Device) : Prop where
  launching : Launching day d
  restored : Restored w key d
  stored : SameStored w store

theorem Launching.resume (launching : Launching day d) (task : SignInTask) (reply : Reply) :
    Launching day (task.resume reply d).1 := by
  obtain ⟨_, _, _, _, same⟩ := signIn_frame task reply d
  rw [same]
  exact ⟨launching.day, launching.loggedOut, launching.unobserved, launching.closed⟩

/-- A read of the username leaves the session with what is stored. -/
theorem restoring_username {email : String} {user : User} (present : d.currentUser = some user)
    (unnamed : user.username = none) (uncounted : user.streak = none) :
    Restoring w key (d.assignUsername (get w.store.documents (userRef key)))
      (.fetchUserStreak email) := by
  cases named : storedUsername w key with
  | none =>
    have nothing : ((get w.store.documents (userRef key)).bind fun document =>
      document.string "username") = none := named
    simp only [Device.assignUsername, nothing]
    exact ⟨user, present, unnamed.trans named.symm, uncounted⟩
  | some username =>
    have found : ((get w.store.documents (userRef key)).bind fun document =>
      document.string "username") = some username := named
    simp only [Device.assignUsername, found]
    refine ⟨{ user with username := some username }, ?_, named.symm, uncounted⟩
    simp [Device.assign, present]

/-- A streak that is assigned is the session's. -/
theorem restored_assignStreak {username : String} {user : User} {streak : Int}
    (named : storedUsername w key = some username) (present : d.currentUser = some user)
    (username' : user.username = some username) (counted : storedStreak w username = streak) :
    Restored w key (d.assignStreak streak) := by
  refine ⟨{ user with streak := some streak }, ?_, username'.trans named.symm, ?_⟩
  · simp [Device.assignStreak, Device.assign, present]
  · rw [named, Option.map_some, counted]

theorem launch_segment (platform : Platform) (store : Backend) (d : Device) (task : Task)
    (stage : LaunchStage w key day store d task) :
    ∃ store' reply, serve platform store (call platform task) = some (store', reply) ∧
      After (LaunchStage w key day) (Launched w key day) store' (resume platform task reply d) := by
  obtain ⟨task, rfl, rfl, launching, restoring⟩ := stage
  have kept := launching.resume task
  cases task with
  | restoreFirebase user =>
    exact ⟨_, _, rfl, _, rfl, rfl, kept _, restoring, _, rfl, rfl, rfl⟩
  | restoreGoogle user =>
    exact ⟨_, _, rfl, _, rfl, rfl, kept _, restoring, _, rfl, rfl, rfl⟩
  | readUsername email =>
    obtain ⟨rfl, user, present, unnamed, uncounted⟩ := restoring
    exact ⟨_, _, rfl, _, rfl, rfl, kept _, restoring_username present unnamed uncounted⟩
  | fetchUserStreak email =>
    obtain ⟨user, present, named, uncounted⟩ := restoring
    refine ⟨_, _, rfl, ?_⟩
    have session : d.username = storedUsername w key := by simp [Device.username, present, named]
    simp only [resume, SignInTask.resume, session]
    cases stored : storedUsername w key with
    | none =>
      exact ⟨launching, ⟨user, present, named, by rw [stored]; exact uncounted⟩, sameStored_self w⟩
    | some username =>
      exact ⟨_, rfl, rfl, launching, stored, user, present, named.trans stored, uncounted⟩
  | readStreak email username =>
    obtain ⟨stored, user, present, named, uncounted⟩ := restoring
    refine ⟨_, _, rfl, ?_⟩
    simp only [resume, SignInTask.resume]
    cases read : (get w.store.documents (streakRef username)).bind fun document =>
        document.int "streak" with
    | some streak =>
      have counted : storedStreak w username = streak := by simp [storedStreak, streakIn, read]
      exact ⟨⟨launching.day, launching.loggedOut, launching.unobserved, launching.closed⟩,
        restored_assignStreak stored present named counted, sameStored_self w⟩
    | none =>
      have session : d.username = some username := by simp [Device.username, present, named]
      simp only [Device.updateCurrentUsersStreak, session]
      exact ⟨_, rfl, rfl, launching, stored, ⟨user, present, named, uncounted⟩, read⟩
  | resetStreak email username =>
    obtain ⟨stored, ⟨user, present, named, _⟩, missing⟩ := restoring
    have counted : storedStreak w username = 0 := by simp [storedStreak, streakIn, missing]
    exact ⟨_, _, rfl, kept _, restored_assignStreak stored present named counted,
      sameStored_reset missing⟩
  | _ => exact absurd restoring not_false

/-! ## The view -/

/-- What the loading task of a view that has just appeared knows. -/
def Loading (platform : Platform) (w : World) (key : String) (day : ℕ) (view : TriviaGameView) :
    LoadTask → Prop
  | .refreshData | .loadQuestion => view.currentQuestion = none ∧ view.submittedAnswer = none
  | .readQuestion today => today = platform.dateFormattedForDb day ∧
    view.currentQuestion = none ∧ view.submittedAnswer = none
  | .checkResponseExists =>
    view.currentQuestion = storedQuestion w (platform.dateFormattedForDb day) ∧
    view.submittedAnswer = none
  | .readResponse username today => today = platform.dateFormattedForDb day ∧
    storedUsername w key = some username ∧
    view.currentQuestion = storedQuestion w (platform.dateFormattedForDb day) ∧
    view.submittedAnswer = none

/-- The session that was observed has what is stored. -/
structure Playing (w : World) (key : String) (day : ℕ) (store : Backend) (d : Device) : Prop where
  day : d.day = day
  loggedIn : d.isUserLoggedIn = true
  restored : Restored w key d
  stored : SameStored w store

/-- What holds while the loading task awaits a call. -/
def LoadStage (platform : Platform) (w : World) (key : String) (day v : ℕ) (store : Backend)
    (d : Device) (task : Task) : Prop :=
  ∃ load view, task = .load v load ∧ Playing w key day store d ∧ d.views v = some view ∧
    view.onScreen = true ∧ Loading platform w key day view load

/-- What the view shows when it has come to its end. -/
def Shown (platform : Platform) (w : World) (key : String) (day : ℕ) (view : TriviaGameView) :
    Prop :=
  view.onScreen = true ∧ view.isLoading = false ∧
    view.showUsernameEntry = (storedUsername w key).isNone ∧
    view.currentQuestion = storedQuestion w (platform.dateFormattedForDb day) ∧
    view.submittedAnswer = (storedUsername w key).bind fun username =>
      storedAnswer w username (platform.dateFormattedForDb day)

theorem Playing.onView (playing : Playing w key day store d)
    (change : TriviaGameView → TriviaGameView) : Playing w key day store (d.onView v change) :=
  ⟨playing.day, playing.loggedIn, playing.restored, playing.stored⟩

theorem Playing.username (playing : Playing w key day store d) :
    d.username = storedUsername w key := by
  obtain ⟨user, present, named, _⟩ := playing.restored
  simp [Device.username, present, named]

theorem views_onView_self {view : TriviaGameView} (shown : d.views v = some view)
    (change : TriviaGameView → TriviaGameView) :
    (d.onView v change).views v = some (change view) := by
  simp [Device.onView, shown]

/-- A new view has nothing to clear. -/
theorem refreshData_shows {view : TriviaGameView} (playing : Playing w key day store d)
    (shown : d.views v = some view) (onScreen : view.onScreen = true)
    (unasked : view.currentQuestion = none) (unanswered : view.submittedAnswer = none) :
    LoadStage platform w key day v store (d.refreshData platform v) (.load v .loadQuestion) := by
  simp only [Device.refreshData]
  split
  · have seen : Playing w key day store
        { d with lastSeenDate := platform.dateFormattedForDb d.day } :=
      ⟨playing.day, playing.loggedIn, playing.restored, playing.stored⟩
    exact ⟨_, _, rfl, seen.onView _, views_onView_self shown _, onScreen, rfl, rfl⟩
  · exact ⟨_, _, rfl, playing, shown, onScreen, unasked, unanswered⟩

/-- The question of the day is what is read for it. -/
theorem loadQuestion_shows {view : TriviaGameView} (playing : Playing w key day store d)
    (shown : d.views v = some view) (onScreen : view.onScreen = true)
    (unasked : view.currentQuestion = none) (unanswered : view.submittedAnswer = none) :
    LoadStage platform w key day v store
      (d.loadQuestion v (get w.store.documents (questionRef (platform.dateFormattedForDb day))))
      (.load v .checkResponseExists) := by
  cases read : get w.store.documents (questionRef (platform.dateFormattedForDb day)) with
  | none =>
    exact ⟨_, _, rfl, playing, shown, onScreen, by simp [unasked, storedQuestion, read],
      unanswered⟩
  | some document =>
    simp only [Device.loadQuestion]
    cases decoded : TriviaQuestion.decode document with
    | none =>
      exact ⟨_, _, rfl, playing.onView _, views_onView_self shown _, onScreen,
        by simp [unasked, storedQuestion, read, decoded], unanswered⟩
    | some question =>
      exact ⟨_, _, rfl, playing.onView _, views_onView_self shown _, onScreen,
        by simp [storedQuestion, read, decoded], unanswered⟩

/-- The end of the loading task, with the answer that it has found. -/
theorem finishLoading_shows {view : TriviaGameView} (playing : Playing w key day store d)
    (shown : d.views v = some view) (onScreen : view.onScreen = true)
    (asked : view.currentQuestion = storedQuestion w (platform.dateFormattedForDb day))
    (answered : view.submittedAnswer = (storedUsername w key).bind fun username =>
      storedAnswer w username (platform.dateFormattedForDb day)) :
    Playing w key day store (d.finishLoading v) ∧
    ∃ view, (d.finishLoading v).views v = some view ∧ Shown platform w key day view := by
  refine ⟨playing.onView _, _, views_onView_self shown _, onScreen, rfl, ?_, asked, answered⟩
  rw [playing.username]

/-- A response that decodes is checked without an error. -/
theorem checkResponseExists_shows {view : TriviaGameView} {username : String}
    (decodes : ∀ username today document,
      get w.store.documents (responseRef username today) = some document →
      (SubmittedAnswer.decode document).isSome = true)
    (playing : Playing w key day store d) (shown : d.views v = some view)
    (onScreen : view.onScreen = true) (stored : storedUsername w key = some username)
    (asked : view.currentQuestion = storedQuestion w (platform.dateFormattedForDb day))
    (unanswered : view.submittedAnswer = none) :
    ∃ d', d.checkResponseExists v (platform.dateFormattedForDb day)
        (get w.store.documents (responseRef username (platform.dateFormattedForDb day))) = .ok d' ∧
      Playing w key day store (d'.finishLoading v) ∧
      ∃ view, (d'.finishLoading v).views v = some view ∧ Shown platform w key day view := by
  cases read : get w.store.documents (responseRef username (platform.dateFormattedForDb day)) with
  | none =>
    refine ⟨d, rfl, finishLoading_shows playing shown onScreen asked ?_⟩
    simp [unanswered, stored, storedAnswer, read]
  | some document =>
    by_cases dated : document.string "date" = some (platform.dateFormattedForDb day)
    · obtain ⟨answer, decoded⟩ := Option.isSome_iff_exists.mp (decodes _ _ _ read)
      have checked : d.checkResponseExists v (platform.dateFormattedForDb day) (some document) =
          .ok (d.onView v fun view => { view with submittedAnswer := some answer }) := by
        simp only [Device.checkResponseExists, dated, decoded, if_true]
      refine ⟨_, checked,
        finishLoading_shows (playing.onView _) (views_onView_self shown _) onScreen asked ?_⟩
      simp [stored, storedAnswer, read, dated, decoded]
    · refine ⟨d, by simp only [Device.checkResponseExists, dated, if_false],
        finishLoading_shows playing shown onScreen asked ?_⟩
      simp [unanswered, stored, storedAnswer, read, dated]

theorem load_segment_shows
    (decodes : ∀ username today document,
      get w.store.documents (responseRef username today) = some document →
      (SubmittedAnswer.decode document).isSome = true)
    (store : Backend) (d : Device) (task : Task)
    (stage : LoadStage platform w key day v store d task) :
    ∃ store' reply, serve platform store (call platform task) = some (store', reply) ∧
      After (LoadStage platform w key day v) (fun store d => Playing w key day store d ∧
        ∃ view, d.views v = some view ∧ Shown platform w key day view) store'
        (resume platform task reply d) := by
  obtain ⟨task, view, rfl, playing, shown, onScreen, loading⟩ := stage
  cases task with
  | refreshData =>
    obtain ⟨unasked, unanswered⟩ := loading
    exact ⟨_, _, rfl, refreshData_shows (playing.onView _) (views_onView_self shown _) onScreen
      unasked unanswered⟩
  | loadQuestion =>
    refine ⟨_, _, rfl, _, view, rfl, playing, shown, onScreen, ?_, loading⟩
    rw [playing.day]
  | readQuestion today =>
    obtain ⟨rfl, unasked, unanswered⟩ := loading
    refine ⟨_, _, rfl, ?_⟩
    have same := playing.stored.documents (questionRef (platform.dateFormattedForDb day))
      (by simp [questionRef])
    simp only [resume, LoadTask.resume, same]
    exact loadQuestion_shows playing shown onScreen unasked unanswered
  | checkResponseExists =>
    obtain ⟨asked, unanswered⟩ := loading
    refine ⟨_, _, rfl, ?_⟩
    simp only [resume, LoadTask.resume, playing.username, playing.day]
    cases stored : storedUsername w key with
    | none => exact finishLoading_shows playing shown onScreen asked (by simp [unanswered, stored])
    | some username =>
      exact ⟨_, view, rfl, playing, shown, onScreen, rfl, stored, asked, unanswered⟩
  | readResponse username today =>
    obtain ⟨rfl, stored, asked, unanswered⟩ := loading
    refine ⟨_, _, rfl, ?_⟩
    have same := playing.stored.documents
      (responseRef username (platform.dateFormattedForDb day)) (by simp [responseRef])
    obtain ⟨d', checked, shows⟩ :=
      checkResponseExists_shows decodes playing shown onScreen stored asked unanswered
    simp only [resume, LoadTask.resume, same, checked]
    exact shows

/-! ## The launch -/

/-- A kept sign-in is taken up when the login view appears, and comes to its end. -/
theorem signsIn_again (platform : Platform) {w₀ : World} {d : Device} {site number : ℕ}
    (same : w₀.store = w.store) (here : w₀.sites site = relaunch d) (idle : w₀.pool number = none)
    (kept : d.keptAccount = some key) :
    ∃ count store d', execute (step platform) w₀
        (Async.uninterrupted site .loginViewAppears number count) =
        some { w₀ with store, sites := update w₀.sites site d' } ∧
      Launched w key d.day store d' := by
  let appeared : Device := { relaunch d with loginViewAppeared := false }
  have launching : Launching d.day appeared := ⟨rfl, rfl, rfl, rfl⟩
  obtain ⟨task, reacted, begins⟩ : ∃ task,
      (app platform).react .loginViewAppears (w₀.sites site) = some (appeared, some task) ∧
      LaunchStage w key d.day w₀.store appeared task := by
    rw [here, same]
    cases firebase : d.firebaseUser with
    | some user =>
      simp only [Device.keptAccount, firebase, Option.some.injEq] at kept
      refine ⟨.signIn (.restoreFirebase user), ?_, _, rfl, rfl, launching, kept⟩
      simp [app, react, appeared, relaunch, firebase]
    | none =>
      cases google : d.savedGoogleUser with
      | some user =>
        simp only [Device.keptAccount, firebase, google, Option.some.injEq] at kept
        refine ⟨.signIn (.restoreGoogle user), ?_, _, rfl, rfl, launching, kept⟩
        simp [app, react, appeared, relaunch, firebase, google]
      | none => simp [Device.keptAccount, firebase, google] at kept
  obtain ⟨count, store, d', ran, launched⟩ :=
    (appRanked platform).alone_total (launch_segment platform) begins
  exact ⟨count, store, d', Async.execute_alone idle reacted ran, launched⟩

/-- A session that is observed logs in. -/
theorem observes (platform : Platform) {w₁ : World} {site : ℕ} (number : ℕ)
    (launched : Launched w key day w₁.store (w₁.sites site)) :
    ∃ d', execute (step platform) w₁ [.react site .currentUserChanges number] =
        some { w₁ with sites := update w₁.sites site d' } ∧
      Playing w key day w₁.store d' ∧ d'.views = fun _ => none := by
  obtain ⟨launching, ⟨user, present, restored⟩, stored⟩ := launched
  let observed : Device := { w₁.sites site with
    observedUser := (w₁.sites site).account
    isUserLoggedIn := true }
  have reacted : (app platform).react .currentUserChanges (w₁.sites site) =
      some (observed, none) := by
    simp [app, react, launching.loggedOut, launching.unobserved, Device.account, present, observed]
  refine ⟨observed, by simp [execute, Async.step, reacted], ?_, launching.closed⟩
  exact ⟨launching.day, rfl, ⟨user, present, restored⟩, stored⟩

/-- A view that appears shows what is stored when it has loaded. -/
theorem loads (platform : Platform) {w₂ : World} {site number : ℕ}
    (decodes : ∀ username today document,
      get w.store.documents (responseRef username today) = some document →
      (SubmittedAnswer.decode document).isSome = true)
    (idle : w₂.pool number = none) (playing : Playing w key day w₂.store (w₂.sites site))
    (closed : (w₂.sites site).views v = none) :
    ∃ count store d', execute (step platform) w₂
        (Async.uninterrupted site (.gameViewAppears v) number count) =
        some { w₂ with store, sites := update w₂.sites site d' } ∧
      Playing w key day store d' ∧
      ∃ view, d'.views v = some view ∧ Shown platform w key day view := by
  let appeared : Device :=
    { w₂.sites site with views := update (w₂.sites site).views v (some {}) }
  have reacted : (app platform).react (.gameViewAppears v) (w₂.sites site) =
      some (appeared, some (.load v .refreshData)) := by
    simp [app, react, playing.loggedIn, closed, appeared]
  have begins : LoadStage platform w key day v w₂.store appeared (.load v .refreshData) :=
    ⟨_, {}, rfl, ⟨playing.day, playing.loggedIn, playing.restored, playing.stored⟩,
      by simp [appeared], rfl, rfl, rfl⟩
  obtain ⟨count, store, d', ran, shows⟩ :=
    (appRanked platform).alone_total (load_segment_shows decodes) begins
  exact ⟨count, store, d', Async.execute_alone idle reacted ran, shows⟩

/-- Every response that a run has stored decodes. -/
theorem responses_decode {start : World} {actions : List Action} (initial : Initial start)
    (run : Run (step platform) Any start actions w) (username today : String) (document : Doc)
    (stored : get w.store.documents (responseRef username today) = some document) :
    (SubmittedAnswer.decode document).isSome = true := by
  obtain ⟨question, answerText, _, rfl⟩ :=
    (allGenuine_of_run initial run).responses username today document stored
  simp [decode_responseData]

example : (execute (step march) (firstLaunch [capital]) (bothAnswer ++ comesBack 0 0 0 4 5)).map
    (fun w => ((w.sites 0).username, (w.sites 0).streak, (w.sites 0).submittedAnswer 0)) =
    some (some "annie", some 1, some ⟨capital.date, true, "Paris"⟩) := by decide +kernel

end DailyTrivia
