import DailyTrivia.Models

/-!
The memory of one installation: `AuthService`, the sessions the SDKs keep, and every
`TriviaGameView` with its `GameService`. Each function below is one uninterrupted piece of
a source function, between two awaits.

`User` is a class, but every reference to a user goes through `currentUser`, so a field
assignment is an update of `currentUser` in place, and does nothing when it is nil.
-/
namespace DailyTrivia

open Documents Function

/-- What a thrown error is about. -/
inductive AppError where
  /-- A Firestore or sign-in call failed. -/
  | service
  /-- A document did not decode. -/
  | decoding
  /-- `NSError(domain: "UserError")`, "User email not available." -/
  | userEmail
  deriving DecidableEq

inductive ErrorMessage where
  | error (thrown : AppError)
  /-- "Do you really think the answer is blank? …" -/
  | blankAnswer
  /-- "Error logging out: …" -/
  | loggingOut
  deriving DecidableEq

inductive ManualReviewAlert where
  | error (thrown : AppError)
  | recordExists
  | confirmation
  deriving DecidableEq

/-- One `TriviaGameView` with its `GameService` and the sheets it presents. -/
structure TriviaGameView where
  currentQuestion : Option TriviaQuestion := none
  submittedAnswer : Option SubmittedAnswer := none
  isLoading : Bool := true
  errorMessage : Option ErrorMessage := none
  answerText : String := ""
  warnedAboutEmptyAnswer : Bool := false
  showUsernameEntry : Bool := false
  /-- `CreateUsernameSheet.isSubmitting`. -/
  isSubmitting : Bool := false
  /-- `ManualReviewView.activeAlert`. -/
  activeAlert : Option ManualReviewAlert := none
  /-- The view is in the hierarchy; its tasks outlive it. -/
  onScreen : Bool := true

structure Device where
  /-- The civil day the clock shows. -/
  day : ℕ := 0
  lastSeenDate : String := ""
  /-- `Auth.auth().currentUser`, kept across launches. -/
  firebaseUser : Option FirebaseUser := none
  /-- `GIDSignIn.sharedInstance.currentUser`. -/
  googleUser : Option GIDGoogleUser := none
  /-- The Google sign-in `restorePreviousSignIn` finds, kept across launches. -/
  savedGoogleUser : Option GIDGoogleUser := none
  isUserLoggedIn : Bool := false
  currentUser : Option User := none
  /-- The e-mail of the user `LoginView.onChange` has last seen; users compare by e-mail. -/
  observedUser : Option String := none
  /-- `LoginView` has appeared and its `onAppear` is still to run. -/
  loginViewAppeared : Bool := true
  views : ℕ → Option TriviaGameView := fun _ => none

/-- `text.replacingOccurrences(of: " ", with: "").isEmpty`. -/
def isBlank (text : String) : Bool := (text.toList.filter (· != ' ')).isEmpty

namespace Device

/-- `currentUser?.username`. -/
def username (d : Device) : Option String := d.currentUser.bind User.username

/-- `currentUser?.streak`. -/
def streak (d : Device) : Option Int := d.currentUser.bind User.streak

/-- `gameService.submittedAnswer` of a view. -/
def submittedAnswer (d : Device) (v : ℕ) : Option SubmittedAnswer :=
  (d.views v).bind TriviaGameView.submittedAnswer

/-- `currentUser?.email`, the key of the account that is signed in. -/
def account (d : Device) : Option String := d.currentUser.map User.email

/-- `currentUser?.x = …`. -/
def assign (d : Device) (change : User → User) : Device :=
  { d with currentUser := d.currentUser.map change }

/-- An update of one view, if it exists. -/
def onView (d : Device) (v : ℕ) (change : TriviaGameView → TriviaGameView) : Device :=
  { d with views := update d.views v ((d.views v).map change) }

/-! ## AuthService -/

/-- `fetchUsername`, after the read. -/
def assignUsername (d : Device) (snapshot : Option Doc) : Device :=
  match snapshot.bind (·.string "username") with
  | some username => d.assign fun user => { user with username := some username }
  | none => d

/-- The streak a streak document holds. -/
def assignStreak (d : Device) (streak : Int) : Device :=
  d.assign fun user => { user with streak := some streak }

/-- `updateCurrentUsersStreak`, before the write: the user whose document is written. -/
def updateCurrentUsersStreak (d : Device) : Except AppError String :=
  match d.username with
  | some username => .ok username
  | none => .error .userEmail

/-- `submitUsername`, before the write: the key of the document that is written. The e-mail
of `currentUser` is sanitized again. -/
def submitUsername (d : Device) : Except AppError String :=
  match d.account with
  | some email => .ok (sanitizedEmail email)
  | none => .error .userEmail

/-- `logout`. `LoginView` replaces the game view, whose tasks go on. -/
def logout (d : Device) (signOutThrows : Bool) : Device where
  day := d.day
  lastSeenDate := d.lastSeenDate
  -- `Auth.auth().signOut()` comes last and may throw
  firebaseUser := if signOutThrows then d.firebaseUser else none
  googleUser := none
  savedGoogleUser := if d.googleUser.isSome then none else d.savedGoogleUser
  isUserLoggedIn := false
  currentUser := none
  observedUser := none
  loginViewAppeared := true
  views := fun v => (d.views v).map fun view => { view with onScreen := false }

/-! ## GameService and TriviaGameView -/

/-- The catch blocks of `TriviaGameView`. -/
def alert (d : Device) (v : ℕ) (message : ErrorMessage) : Device :=
  d.onView v fun view => { view with isLoading := false, errorMessage := some message }

/-- `refreshData`, by the loading task of view `v`. -/
def refreshData (platform : Platform) (d : Device) (v : ℕ) : Device :=
  let today := platform.dateFormattedForDb d.day
  if d.lastSeenDate != today then
    { d with lastSeenDate := today }.onView v fun view =>
      { view with currentQuestion := none, submittedAnswer := none }
  else d

/-- `loadQuestion`, after the read. An error is caught in it and the loading task goes on. -/
def loadQuestion (d : Device) (v : ℕ) (snapshot : Option Doc) : Device :=
  match snapshot with
  | none => d
  | some document =>
    match TriviaQuestion.decode document with
    | some question => d.onView v fun view => { view with currentQuestion := some question }
    | none => d.alert v (.error .decoding)

/-- `checkResponseExists`, after the read. -/
def checkResponseExists (d : Device) (v : ℕ) (today : String) (snapshot : Option Doc) :
    Except AppError Device :=
  match snapshot with
  | none => .ok d
  | some document =>
    if document.string "date" = some today then
      match SubmittedAnswer.decode document with
      | some answer => .ok (d.onView v fun view => { view with submittedAnswer := some answer })
      | none => .error .decoding
    else .ok d

/-- The end of the loading task. A sheet that goes away forgets that it was submitting. -/
def finishLoading (d : Device) (v : ℕ) : Device :=
  d.onView v fun view => { view with
    showUsernameEntry := d.username.isNone
    isSubmitting := d.username.isNone && view.isSubmitting
    isLoading := false }

/-- `submitAnswer` of the view, up to the write: the question and the username it submits. -/
def submitAnswer (d : Device) (v : ℕ) : Device × Option (TriviaQuestion × String × String) :=
  match d.views v with
  | none => (d, none)
  | some view =>
    if isBlank view.answerText && !view.warnedAboutEmptyAnswer then
      (d.onView v fun view => { view with
        errorMessage := some .blankAnswer, warnedAboutEmptyAnswer := true }, none)
    else
      (d.onView v fun view => { view with isLoading := true },
        -- without a question or a username nothing clears `isLoading`
        match view.currentQuestion, d.username with
        | some question, some username => some (question, view.answerText, username)
        | _, _ => none)

/-! ## What the views and the account have to do with each other -/

section Frame

variable (d : Device) (v : ℕ) (change : TriviaGameView → TriviaGameView) (message : ErrorMessage)

@[simp] theorem onView_currentUser : (d.onView v change).currentUser = d.currentUser := rfl

@[simp] theorem onView_username : (d.onView v change).username = d.username := rfl

@[simp] theorem onView_streak : (d.onView v change).streak = d.streak := rfl

@[simp] theorem alert_currentUser : (d.alert v message).currentUser = d.currentUser := rfl

@[simp] theorem alert_username : (d.alert v message).username = d.username := rfl

@[simp] theorem alert_streak : (d.alert v message).streak = d.streak := rfl

@[simp] theorem assignStreak_submittedAnswer (streak : Int) :
    (d.assignStreak streak).submittedAnswer v = d.submittedAnswer v := rfl

@[simp] theorem assignStreak_currentUser (streak : Int) : (d.assignStreak streak).currentUser =
    d.currentUser.map fun user => { user with streak := some streak } := rfl

/-- The streak is assigned to whoever is signed in. -/
theorem assignStreak_streak {user : User} (signedIn : d.currentUser = some user) (streak : Int) :
    (d.assignStreak streak).streak = some streak := by
  simp [assignStreak, assign, Device.streak, signedIn]

variable {d v change}

/-- Only an assignment to `submittedAnswer` changes it. -/
theorem onView_submittedAnswer
    (keeps : ∀ view, (change view).submittedAnswer = view.submittedAnswer) :
    (d.onView v change).submittedAnswer v = d.submittedAnswer v := by
  cases shown : d.views v with
  | none => simp [onView, submittedAnswer, shown]
  | some view => simp [onView, submittedAnswer, shown, keeps]

@[simp] theorem alert_submittedAnswer :
    (d.alert v message).submittedAnswer v = d.submittedAnswer v :=
  onView_submittedAnswer fun _ => rfl

end Frame

end Device

end DailyTrivia
