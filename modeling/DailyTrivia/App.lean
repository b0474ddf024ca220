import DailyTrivia.Async
import DailyTrivia.Device

/-!
The app as a machine: its tasks with their awaits, the calls they await, and the events
that start them. Every installation is a site; Firestore and the Firebase accounts are the
store behind all of them.

A task is named after what it awaits or, if it only waits for its turn, after what it does
next; its arguments are the locals it goes on with. A `Task { … }` waits for its turn
before it begins, and so does a function that is called or returns to its caller on
another actor: that is a `pause`, where other tasks may move.
-/
namespace DailyTrivia

open Documents Function

/-- A task of `LoginView` or of its `onAppear`. -/
inductive SignInTask where
  /-- The login button, awaiting `signIn`. -/
  | login (email : String)
  /-- The register button, awaiting `signUp`. -/
  | register (email : String)
  /-- The register button, awaiting `signIn`. -/
  | registerSignIn (email : String)
  /-- `createUserAccountIfNeeded`, awaiting the read. -/
  | readUserAccount (user : FirebaseUser)
  /-- `createUserAccountIfNeeded`, awaiting the write. -/
  | writeUserAccount (user : FirebaseUser)
  /-- `handleSignInButton`, awaiting the Google sign-in. -/
  | google (user : GIDGoogleUser)
  /-- `createUserAccountFromGoogleIfNeeded`, awaiting the read. -/
  | readGoogleAccount (user : GIDGoogleUser)
  /-- `createUserAccountFromGoogleIfNeeded`, awaiting `fetchUsername`. -/
  | readGoogleUsername (user : GIDGoogleUser)
  /-- `createUserAccountFromGoogleIfNeeded`, awaiting the write. -/
  | writeGoogleAccount (user : GIDGoogleUser)
  /-- `handleSignInButton`, before it replaces `currentUser`. -/
  | adoptGoogleUser (user : GIDGoogleUser)
  /-- `LoginView.onAppear` with a Firebase session. -/
  | restoreFirebase (user : FirebaseUser)
  /-- `LoginView.onAppear`, awaiting `restorePreviousSignIn`. -/
  | restoreGoogle (user : GIDGoogleUser)
  /-- Awaiting `fetchUsername(forEmail: email)`. -/
  | readUsername (email : String)
  | fetchUserStreak (email : String)
  /-- `fetchUserStreak`, awaiting the read. -/
  | readStreak (email username : String)
  /-- `fetchUserStreak`, awaiting `updateCurrentUsersStreak(streak: 0)`. -/
  | resetStreak (email username : String)
  deriving DecidableEq

/-- The task `TriviaGameView.onAppear` begins. -/
inductive LoadTask where
  | refreshData
  | loadQuestion
  | readQuestion (today : String)
  | checkResponseExists
  | readResponse (username today : String)
  deriving DecidableEq

/-- The task of the submit button. -/
inductive SubmitTask where
  | submitAnswer
  | writeResponse (question : TriviaQuestion) (answerText username today : String)
  | updateStreak (streak : Int)
  | writeStreak (username : String) (streak : Int)
  deriving DecidableEq

/-- The task of `CreateUsernameSheet`. -/
inductive UsernameTask where
  | submitUsername (username : String)
  | writeUsername (key username : String)
  deriving DecidableEq

/-- The task of `ManualReviewView`. -/
inductive ReviewTask where
  | submitReview (form : ReviewForm) (userNote : String)
  | readReviews (form : ReviewForm) (userNote : String)
  | composeReview (form : ReviewForm) (userNote : String)
  | writeReview (form : ReviewForm) (userNote today : String)
  deriving DecidableEq

/-- A task and the game view it belongs to. -/
inductive Task where
  | signIn (task : SignInTask)
  | load (view : ℕ) (task : LoadTask)
  | submit (view : ℕ) (task : SubmitTask)
  | enterUsername (view : ℕ) (task : UsernameTask)
  | review (view : ℕ) (task : ReviewTask)
  | logout (view : ℕ) (signOutThrows : Bool)
  deriving DecidableEq

inductive Call where
  /-- Nothing is awaited but the actor. -/
  | pause
  | getDocument (ref : DocumentRef)
  | setData (ref : DocumentRef) (data : Doc)
  /-- `setData(_:merge: true)`. -/
  | mergeData (ref : DocumentRef) (data : Doc)
  | whereField (collection : CollectionRef) (name : String) (value : Value)
  | createUser (email : String)
  | signIn (email : String)
  | googleSignIn (user : GIDGoogleUser)

/-- The call writes a document. -/
def Call.isWrite : Call → Bool
  | .setData _ _ | .mergeData _ _ => true
  | _ => false

inductive Reply where
  | resumed
  | refused
  | snapshot (document : Option Doc)
  | written
  | documents (found : List Doc)
  | firebaseUser (user : FirebaseUser)
  | googleUser (user : GIDGoogleUser)

/-- Firestore, and the e-mail addresses that have a Firebase account. -/
structure Backend where
  documents : Store CollectionRef
  accounts : String → Bool

/-- The users document of a Google account. -/
def googleKey (user : GIDGoogleUser) : String :=
  (user.email.map sanitizedEmail).getD "this won't be found"

def SignInTask.call : SignInTask → Call
  | .login email | .registerSignIn email => .signIn email
  | .register email => .createUser email
  | .readUserAccount user => .getDocument (userRef (sanitizedEmail user.email))
  | .writeUserAccount user =>
    .setData (userRef (sanitizedEmail user.email)) (userData (sanitizedEmail user.email))
  | .google user | .restoreGoogle user => .googleSignIn user
  | .readGoogleAccount user => .getDocument (userRef (googleKey user))
  -- the address is sanitized by the caller and again by `fetchUsername`
  | .readGoogleUsername user => .getDocument
    (userRef (sanitizedEmail ((user.email.map sanitizedEmail).getD "")))
  | .writeGoogleAccount user =>
    .setData (userRef (googleKey user)) (userData ((user.email.map sanitizedEmail).getD ""))
  | .readUsername email => .getDocument (userRef (sanitizedEmail email))
  | .readStreak _ username => .getDocument (streakRef username)
  | .resetStreak _ username => .mergeData (streakRef username) (streakData username 0)
  | .adoptGoogleUser _ | .restoreFirebase _ | .fetchUserStreak _ => .pause

def LoadTask.call : LoadTask → Call
  | .readQuestion today => .getDocument (questionRef today)
  | .readResponse username today => .getDocument (responseRef username today)
  | .refreshData | .loadQuestion | .checkResponseExists => .pause

def SubmitTask.call (platform : Platform) : SubmitTask → Call
  | .writeResponse question answerText username today =>
    .setData (responseRef username today) (responseData platform question answerText username)
  | .writeStreak username streak => .mergeData (streakRef username) (streakData username streak)
  | .submitAnswer | .updateStreak _ => .pause

def UsernameTask.call : UsernameTask → Call
  | .writeUsername key username => .mergeData (userRef key) (usernameData username)
  | .submitUsername _ => .pause

def ReviewTask.call : ReviewTask → Call
  | .readReviews form _ => .whereField .manualReviews "username" (.string form.username)
  | .writeReview form userNote today =>
    .setData (manualReviewRef form.username) (reviewData form userNote today)
  | .submitReview _ _ | .composeReview _ _ => .pause

def call (platform : Platform) : Task → Call
  | .signIn task => task.call
  | .load _ task => task.call
  | .submit _ task => task.call platform
  | .enterUsername _ task => task.call
  | .review _ task => task.call
  | .logout _ _ => .pause

/-- Single documents are read and written atomically. -/
def serve (platform : Platform) (backend : Backend) : Call → Option (Backend × Reply)
  | .pause => some (backend, .resumed)
  | .getDocument ref => some (backend, .snapshot (get backend.documents ref))
  | .setData ref data =>
    some ({ backend with documents := set backend.documents ref data }, .written)
  | .mergeData ref data =>
    some ({ backend with documents := setMerging backend.documents ref data }, .written)
  | .whereField collection name value =>
    some (backend, .documents (Documents.whereField backend.documents collection name value))
  | .createUser email =>
    if backend.accounts email then none
    else some ({ backend with accounts := update backend.accounts email true },
      .firebaseUser (platform.firebaseUser email))
  | .signIn email =>
    if backend.accounts email then some (backend, .firebaseUser (platform.firebaseUser email))
    else none
  | .googleSignIn user => some (backend, .googleUser user)

/-! ## What a task does between one await and the next

Nothing depends on how a pause ends. A failure that only ends its task, printed or shown
in `LoginView`, is the last case of a function. -/

def SignInTask.resume (task : SignInTask) (reply : Reply) (d : Device) :
    Device × Option SignInTask :=
  match task, reply with
  | .login _, .firebaseUser user =>
    ({ d with firebaseUser := some user, currentUser := some (.ofFirebaseUser user) },
      some (.readUsername user.email))
  -- a created account is signed in at once
  | .register email, .firebaseUser user =>
    ({ d with firebaseUser := some user }, some (.registerSignIn email))
  | .registerSignIn _, .firebaseUser user =>
    ({ d with firebaseUser := some user, currentUser := some (.ofFirebaseUser user) },
      some (.readUserAccount user))
  | .readUserAccount user, .snapshot (some document) =>
    match User.decode document with
    | some stored => ({ d with currentUser := some stored }, some (.fetchUserStreak user.email))
    | none => (d, none)
  | .readUserAccount user, .snapshot none => (d, some (.writeUserAccount user))
  | .writeUserAccount user, .written => (d, some (.fetchUserStreak user.email))
  | .google _, .googleUser user =>
    ({ d with googleUser := some user, savedGoogleUser := some user },
      if user.email.isSome then some (.readGoogleAccount user) else none)
  | .readGoogleAccount user, .snapshot (some document) =>
    match User.decode document with
    | some stored => ({ d with currentUser := some stored }, some (.readGoogleUsername user))
    | none => (d, none)
  | .readGoogleAccount user, .snapshot none => (d, some (.writeGoogleAccount user))
  | .readGoogleUsername user, .snapshot snapshot =>
    (d.assignUsername snapshot, some (.adoptGoogleUser user))
  | .adoptGoogleUser user, _ | .writeGoogleAccount user, .written =>
    ({ d with currentUser := some (.ofGoogleUser user) },
      some (.readUsername (user.email.getD "")))
  | .restoreFirebase user, _ =>
    ({ d with currentUser := some (.ofFirebaseUser user) }, some (.readUsername user.email))
  | .restoreGoogle _, .googleUser user =>
    ({ d with googleUser := some user, currentUser := some (.ofGoogleUser user) },
      some (.readUsername (user.email.getD "")))
  | .readUsername email, .snapshot snapshot =>
    (d.assignUsername snapshot, some (.fetchUserStreak email))
  | .fetchUserStreak email, _ => (d, d.username.map (.readStreak email))
  | .readStreak email _, .snapshot snapshot =>
    match snapshot.bind (·.int "streak") with
    | some streak => (d.assignStreak streak, none)
    | none =>
      match d.updateCurrentUsersStreak with
      | .ok username => (d, some (.resetStreak email username))
      | .error _ => (d, none)
  | .resetStreak _ _, .written => (d.assignStreak 0, none)
  | _, _ => (d, none)

def LoadTask.resume (platform : Platform) (v : ℕ) (task : LoadTask) (reply : Reply) (d : Device) :
    Device × Option LoadTask :=
  match task, reply with
  | .refreshData, _ =>
    ((d.onView v fun view => { view with isLoading := true }).refreshData platform v,
      some .loadQuestion)
  | .loadQuestion, _ => (d, some (.readQuestion (platform.dateFormattedForDb d.day)))
  | .readQuestion _, .snapshot snapshot => (d.loadQuestion v snapshot, some .checkResponseExists)
  | .readQuestion _, .refused => (d.alert v (.error .service), some .checkResponseExists)
  | .checkResponseExists, _ =>
    match d.username with
    | some username => (d, some (.readResponse username (platform.dateFormattedForDb d.day)))
    | none => (d.finishLoading v, none)
  | .readResponse _ today, .snapshot snapshot =>
    match d.checkResponseExists v today snapshot with
    | .ok d => (d.finishLoading v, none)
    | .error thrown => (d.alert v (.error thrown), none)
  | .readResponse _ _, .refused => (d.alert v (.error .service), none)
  | _, _ => (d, none)

def SubmitTask.resume (platform : Platform) (v : ℕ) (task : SubmitTask) (reply : Reply)
    (d : Device) : Device × Option SubmitTask :=
  match task, reply with
  | .submitAnswer, _ =>
    match d.submitAnswer v with
    | (d, some (question, answerText, username)) =>
      (d, some (.writeResponse question answerText username (platform.dateFormattedForDb d.day)))
    | (d, none) => (d, none)
  | .writeResponse question answerText _ _, .written =>
    (d.onView v fun view => { view with
        submittedAnswer := some (submitted platform question answerText) },
      some (.updateStreak (if isCorrect platform question answerText then
        d.streak.getD 0 + 1 else 0)))
  | .writeResponse _ _ _ _, .refused => (d.alert v (.error .service), none)
  | .updateStreak streak, _ =>
    match d.updateCurrentUsersStreak with
    | .ok username => (d, some (.writeStreak username streak))
    | .error thrown => (d.alert v (.error thrown), none)
  | .writeStreak _ streak, .written =>
    ((d.assignStreak streak).onView v fun view => { view with isLoading := false }, none)
  | .writeStreak _ _, .refused => (d.alert v (.error .service), none)
  | _, _ => (d, none)

def UsernameTask.resume (v : ℕ) (task : UsernameTask) (reply : Reply) (d : Device) :
    Device × Option UsernameTask :=
  match task, reply with
  | .submitUsername username, _ =>
    (d.onView v fun view => { view with isSubmitting := true },
      match d.submitUsername with
      | .ok key => some (.writeUsername key username)
      | .error _ => none)
  | .writeUsername _ username, .written =>
    ((d.assign fun user => { user with username := some username }).onView v fun view =>
      { view with showUsernameEntry := false, isSubmitting := false }, none)
  | _, _ => (d, none)

/-- The loop of `submitAnswerForManualReview`: whether a review of today is found before one
that does not decode. -/
def reviewedOn (today : String) : List Doc → Except AppError Bool
  | [] => .ok false
  | document :: rest =>
    match ManualReview.decode document with
    | none => .error .decoding
    | some review => if review.date = today then .ok true else reviewedOn today rest

def ReviewTask.resume (platform : Platform) (v : ℕ) (task : ReviewTask) (reply : Reply)
    (d : Device) : Device × Option ReviewTask :=
  let present (alert : ManualReviewAlert) :=
    d.onView v fun view => { view with activeAlert := some alert }
  match task, reply with
  | .submitReview form userNote, _ => (d, some (.readReviews form userNote))
  | .readReviews form userNote, .documents found =>
    match reviewedOn (platform.dateFormattedForDb d.day) found with
    | .ok true => (present .recordExists, none)
    | .ok false => (d, some (.composeReview form userNote))
    | .error thrown => (present (.error thrown), none)
  | .composeReview form userNote, _ =>
    (d, some (.writeReview form userNote (platform.dateFormattedForDb d.day)))
  | .writeReview _ _ _, .written => (present .confirmation, none)
  | .readReviews _ _, .refused | .writeReview _ _ _, .refused => (present (.error .service), none)
  | _, _ => (d, none)

def resume (platform : Platform) (task : Task) (reply : Reply) (d : Device) :
    Device × Option Task :=
  match task with
  | .signIn task => ((task.resume reply d).1, (task.resume reply d).2.map .signIn)
  | .load v task =>
    ((task.resume platform v reply d).1, (task.resume platform v reply d).2.map (.load v))
  | .submit v task =>
    ((task.resume platform v reply d).1, (task.resume platform v reply d).2.map (.submit v))
  | .enterUsername v task =>
    ((task.resume v reply d).1, (task.resume v reply d).2.map (.enterUsername v))
  | .review v task =>
    ((task.resume platform v reply d).1, (task.resume platform v reply d).2.map (.review v))
  | .logout v signOutThrows =>
    let d := (d.onView v fun view => { view with isLoading := true }).logout signOutThrows
    (if signOutThrows then d.alert v .loggingOut
      else d.onView v fun view => { view with isLoading := false }, none)

/-- What the user and the system can do to an installation. -/
inductive Event where
  | midnight
  | loginViewAppears
  /-- `LoginView.onChange(of: authService.currentUser)`. -/
  | currentUserChanges
  | tapLogin (email password : String)
  | tapRegister (email password : String)
  | tapGoogle (user : GIDGoogleUser)
  | gameViewAppears (view : ℕ)
  | tapSubmitAnswer (view : ℕ) (answerText : String)
  | tapSubmitUsername (view : ℕ) (username : String)
  | tapLogout (view : ℕ) (signOutThrows : Bool)
  | tapSubmitReview (view : ℕ) (userNote : String)

def isUsernameValid (platform : Platform) (username : String) : Bool :=
  (platform.characters username).length ≥ 3 && (platform.characters username).length ≤ 24 &&
    !(platform.characters username).contains " "

/-- The view on screen under this number. -/
def Device.shown (d : Device) (v : ℕ) : Option TriviaGameView :=
  (d.views v).filter TriviaGameView.onScreen

/-- The view on screen under this number, unless its username sheet covers it: the sheet
cannot be dismissed. -/
def Device.uncovered (d : Device) (v : ℕ) : Option TriviaGameView :=
  (d.shown v).filter fun view => !view.showUsernameEntry

/-- An event is possible when the view it comes from is on screen and offers it. -/
def react (platform : Platform) (event : Event) (d : Device) : Option (Device × Option Task) :=
  match event with
  | .midnight => some ({ d with day := d.day + 1 }, none)
  | .loginViewAppears =>
    if d.loginViewAppeared then
      some ({ d with loginViewAppeared := false },
        match d.firebaseUser, d.savedGoogleUser with
        | some user, _ => some (.signIn (.restoreFirebase user))
        | none, some user => some (.signIn (.restoreGoogle user))
        | none, none => none)
    else none
  | .currentUserChanges =>
    if !d.isUserLoggedIn && d.observedUser != d.account then
      some ({ d with
        observedUser := d.account
        isUserLoggedIn := d.currentUser.isSome }, none)
    else none
  | .tapLogin email password =>
    if !d.isUserLoggedIn && !(email.isEmpty || password.isEmpty) then
      some (d, some (.signIn (.login email)))
    else none
  | .tapRegister email password =>
    if !d.isUserLoggedIn && !(email.isEmpty || password.isEmpty) then
      some (d, some (.signIn (.register email)))
    else none
  | .tapGoogle user => if !d.isUserLoggedIn then some (d, some (.signIn (.google user))) else none
  | .gameViewAppears v =>
    if d.isUserLoggedIn then
      match d.views v with
      | none => some ({ d with views := update d.views v (some {}) }, some (.load v .refreshData))
      | some view => if view.onScreen then some (d, some (.load v .refreshData)) else none
    else none
  | .tapSubmitAnswer v answerText =>
    match d.uncovered v with
    | some view =>
      if !view.isLoading && view.submittedAnswer.isNone && view.currentQuestion.isSome then
        some (d.onView v fun view => { view with answerText }, some (.submit v .submitAnswer))
      else none
    | none => none
  | .tapSubmitUsername v username =>
    match d.shown v with
    | some view =>
      if view.showUsernameEntry && isUsernameValid platform username && !view.isSubmitting then
        some (d, some (.enterUsername v (.submitUsername username)))
      else none
    | none => none
  | .tapLogout v signOutThrows => (d.uncovered v).map fun _ => (d, some (.logout v signOutThrows))
  | .tapSubmitReview v userNote =>
    match d.uncovered v with
    | some view =>
      match view.submittedAnswer, view.currentQuestion with
      | some submittedAnswer, some question =>
        if !view.isLoading && !submittedAnswer.answerOutcome then
          some (d, some (.review v (.submitReview {
            submittedAnswer
            correctAnswer := question.correctAnswer
            username := d.username.getD "unknown username"
            question := question.question
            streak := d.streak.getD 0 } userNote)))
        else none
      | _, _ => none
    | none => none

/-- A launch after the process ended: what is kept on disk is kept. -/
def relaunch (d : Device) : Device where
  day := d.day
  lastSeenDate := d.lastSeenDate
  firebaseUser := d.firebaseUser
  savedGoogleUser := d.savedGoogleUser

abbrev App := Async.Machine Backend Device Call Reply Task Event

abbrev World := Async.World Backend Device Task Reply

abbrev Job := Async.Job Task Reply

abbrev Action := Async.Action Event

def app (platform : Platform) : App where
  call := call platform
  serve := serve platform
  refused := .refused
  resume := resume platform
  react := react platform
  restart := relaunch

/-- One step of the whole system. -/
abbrev step (platform : Platform) : World → Action → Option World := Async.step (app platform)

/-- A job's call is served and the job goes on. -/
def advance (job : ℕ) : List Action := Async.await job true

abbrev Move (platform : Platform) : World → Action → World → Prop := Async.Move (app platform)

/-- The question documents are whatever the authors of the quiz have stored; everything else
the app has written itself. Every installation is new. -/
structure Initial (w : World) : Prop where
  noJob : ∀ job, w.pool job = none
  newInstallation : ∀ site, w.sites site = { day := (w.sites site).day }
  noDocument : ∀ ref : DocumentRef, ref.collection ≠ .questions → get w.store.documents ref = none

/-- New installations and a quiz with these questions, each stored under its own date. -/
def firstLaunch (quiz : List TriviaQuestion) : World where
  store := {
    documents := fun collection => match collection with
      | .questions =>
        quiz.foldr (fun question stored => stored.insert question.date (questionData question)) ∅
      | _ => ∅
    accounts := fun _ => false }
  sites _ := {}
  pool _ := none

/-- An account is registered on a device, the game view loads and asks for a username, and one
is submitted. The device then shows the question of the day, if there is one. -/
def signUp (site : ℕ) (email username : String) : List Action :=
  ([.react site (.tapRegister email "password") 0] : List Action) ++ advance 0 ++ advance 0 ++
  advance 0 ++ advance 0 ++ advance 0 ++
  ([.react site .currentUserChanges 0, .react site (.gameViewAppears 0) 0] : List Action) ++
  advance 0 ++ advance 0 ++ advance 0 ++ advance 0 ++
  ([.react site (.tapSubmitUsername 0 username) 0] : List Action) ++ advance 0 ++ advance 0

/-- A question of the quiz for the first day. -/
def capital : TriviaQuestion where
  question := "What is the capital of France?"
  choices := none
  correctAnswer := "Paris"
  date := march.dateFormattedForDb 0

theorem initial_firstLaunch (quiz : List TriviaQuestion) : Initial (firstLaunch quiz) where
  noJob _ := rfl
  newInstallation _ := rfl
  noDocument := by
    rintro ⟨collection, id⟩ other
    cases collection <;> first | rfl | exact absurd rfl other

end DailyTrivia
