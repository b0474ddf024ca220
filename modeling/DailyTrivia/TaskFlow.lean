import DailyTrivia.App

/-!
What begins a task and what a task goes on to await. `Begins` inverts `react` and
`Continues` inverts `resume`: one constructor for each await that can follow another, with
what the device and the reply must have been. A task that fails, or has no await left, is
not continued.
-/
namespace DailyTrivia

open Documents

/-- The task an event begins on a device. -/
inductive Begins (d : Device) : Event → Task → Prop where
  | restoreFirebase {user : FirebaseUser} : d.firebaseUser = some user →
      Begins d .loginViewAppears (.signIn (.restoreFirebase user))
  | restoreGoogle {user : GIDGoogleUser} : d.firebaseUser = none → d.savedGoogleUser = some user →
      Begins d .loginViewAppears (.signIn (.restoreGoogle user))
  | login {email password : String} : d.isUserLoggedIn = false →
      Begins d (.tapLogin email password) (.signIn (.login email))
  | register {email password : String} : d.isUserLoggedIn = false →
      Begins d (.tapRegister email password) (.signIn (.register email))
  | google {user : GIDGoogleUser} : d.isUserLoggedIn = false →
      Begins d (.tapGoogle user) (.signIn (.google user))
  | load {v : ℕ} : d.isUserLoggedIn = true → Begins d (.gameViewAppears v) (.load v .refreshData)
  | submit {v : ℕ} {answerText : String} {view : TriviaGameView} : d.uncovered v = some view →
      view.isLoading = false → view.submittedAnswer = none →
      Begins d (.tapSubmitAnswer v answerText) (.submit v .submitAnswer)
  | username {v : ℕ} {username : String} {view : TriviaGameView} : d.shown v = some view →
      view.showUsernameEntry = true →
      Begins d (.tapSubmitUsername v username) (.enterUsername v (.submitUsername username))
  | logout {v : ℕ} {signOutThrows : Bool} {view : TriviaGameView} : d.uncovered v = some view →
      Begins d (.tapLogout v signOutThrows) (.logout v signOutThrows)
  | review {v : ℕ} {userNote : String} {form : ReviewForm} {view : TriviaGameView} :
      d.uncovered v = some view → form.username = d.username.getD "unknown username" →
      Begins d (.tapSubmitReview v userNote) (.review v (.submitReview form userNote))

variable {platform : Platform} {d memory : Device} {event : Event} {task next : Task}
variable {reply : Reply} {v : ℕ}

theorem begins_of_react (reacted : react platform event d = some (memory, some task)) :
    Begins d event task := by
  cases event <;> simp only [react] at reacted
  case midnight => cases reacted
  case loginViewAppears =>
    split at reacted
    · cases firebase : d.firebaseUser with
      | some user =>
        simp only [firebase, Option.some.injEq, Prod.mk.injEq] at reacted
        obtain ⟨_, rfl⟩ := reacted
        exact .restoreFirebase firebase
      | none =>
        cases saved : d.savedGoogleUser with
        | some user =>
          simp only [firebase, saved, Option.some.injEq, Prod.mk.injEq] at reacted
          obtain ⟨_, rfl⟩ := reacted
          exact .restoreGoogle firebase saved
        | none => simp [firebase, saved] at reacted
    · cases reacted
  case currentUserChanges => split at reacted <;> cases reacted
  case tapLogin =>
    split at reacted
    · cases reacted
      exact .login (by simp_all)
    · cases reacted
  case tapRegister =>
    split at reacted
    · cases reacted
      exact .register (by simp_all)
    · cases reacted
  case tapGoogle =>
    split at reacted
    · cases reacted
      exact .google (by simp_all)
    · cases reacted
  case gameViewAppears =>
    split at reacted
    · split at reacted
      · cases reacted
        exact .load ‹_›
      · split at reacted <;> cases reacted
        exact .load ‹_›
    · cases reacted
  case tapSubmitAnswer =>
    split at reacted
    · split at reacted <;> cases reacted
      exact .submit ‹_› (by simp_all) (by simp_all)
    · cases reacted
  case tapSubmitUsername =>
    split at reacted
    · split at reacted <;> cases reacted
      exact .username ‹_› (by simp_all)
    · cases reacted
  case tapLogout =>
    obtain ⟨view, shown, reacted⟩ := Option.map_eq_some_iff.mp reacted
    cases reacted
    exact .logout shown
  case tapSubmitReview =>
    split at reacted
    · split at reacted
      · split at reacted <;> cases reacted
        exact .review ‹_› rfl
      · cases reacted
    · cases reacted

/-- The game view a task belongs to. -/
def Task.view : Task → Option ℕ
  | .signIn _ => none
  | .load v _ | .submit v _ | .enterUsername v _ | .review v _ | .logout v _ => some v

/-- The await that follows an await, once it is replied to on a device. -/
inductive Continues (platform : Platform) (d : Device) : Task → Reply → Task → Prop where
  | login {email : String} {user : FirebaseUser} :
      Continues platform d (.signIn (.login email)) (.firebaseUser user)
        (.signIn (.readUsername user.email))
  | register {email : String} {user : FirebaseUser} :
      Continues platform d (.signIn (.register email)) (.firebaseUser user)
        (.signIn (.registerSignIn email))
  | registerSignIn {email : String} {user : FirebaseUser} :
      Continues platform d (.signIn (.registerSignIn email)) (.firebaseUser user)
        (.signIn (.readUserAccount user))
  | accountFound {user : FirebaseUser} {document : Doc} {stored : User} :
      User.decode document = some stored →
      Continues platform d (.signIn (.readUserAccount user)) (.snapshot (some document))
        (.signIn (.fetchUserStreak user.email))
  | accountMissing {user : FirebaseUser} :
      Continues platform d (.signIn (.readUserAccount user)) (.snapshot none)
        (.signIn (.writeUserAccount user))
  | accountWritten {user : FirebaseUser} :
      Continues platform d (.signIn (.writeUserAccount user)) .written
        (.signIn (.fetchUserStreak user.email))
  | google {picked user : GIDGoogleUser} : user.email.isSome = true →
      Continues platform d (.signIn (.google picked)) (.googleUser user)
        (.signIn (.readGoogleAccount user))
  | googleAccountFound {user : GIDGoogleUser} {document : Doc} {stored : User} :
      User.decode document = some stored →
      Continues platform d (.signIn (.readGoogleAccount user)) (.snapshot (some document))
        (.signIn (.readGoogleUsername user))
  | googleAccountMissing {user : GIDGoogleUser} :
      Continues platform d (.signIn (.readGoogleAccount user)) (.snapshot none)
        (.signIn (.writeGoogleAccount user))
  | googleUsername {user : GIDGoogleUser} {snapshot : Option Doc} :
      Continues platform d (.signIn (.readGoogleUsername user)) (.snapshot snapshot)
        (.signIn (.adoptGoogleUser user))
  | googleAdopted {user : GIDGoogleUser} {reply : Reply} :
      Continues platform d (.signIn (.adoptGoogleUser user)) reply
        (.signIn (.readUsername (user.email.getD "")))
  | googleAccountWritten {user : GIDGoogleUser} :
      Continues platform d (.signIn (.writeGoogleAccount user)) .written
        (.signIn (.readUsername (user.email.getD "")))
  | restoreFirebase {user : FirebaseUser} {reply : Reply} :
      Continues platform d (.signIn (.restoreFirebase user)) reply
        (.signIn (.readUsername user.email))
  | restoreGoogle {saved user : GIDGoogleUser} :
      Continues platform d (.signIn (.restoreGoogle saved)) (.googleUser user)
        (.signIn (.readUsername (user.email.getD "")))
  | username {email : String} {snapshot : Option Doc} :
      Continues platform d (.signIn (.readUsername email)) (.snapshot snapshot)
        (.signIn (.fetchUserStreak email))
  | streak {email username : String} {reply : Reply} : d.username = some username →
      Continues platform d (.signIn (.fetchUserStreak email)) reply
        (.signIn (.readStreak email username))
  | streakMissing {email found username : String} {snapshot : Option Doc} :
      (snapshot.bind fun document => document.int "streak") = none → d.username = some username →
      Continues platform d (.signIn (.readStreak email found)) (.snapshot snapshot)
        (.signIn (.resetStreak email username))
  | refreshed {v : ℕ} {reply : Reply} :
      Continues platform d (.load v .refreshData) reply (.load v .loadQuestion)
  | question {v : ℕ} {reply : Reply} :
      Continues platform d (.load v .loadQuestion) reply
        (.load v (.readQuestion (platform.dateFormattedForDb d.day)))
  | questionLoaded {v : ℕ} {today : String} {reply : Reply} :
      Continues platform d (.load v (.readQuestion today)) reply (.load v .checkResponseExists)
  | response {v : ℕ} {username : String} {reply : Reply} : d.username = some username →
      Continues platform d (.load v .checkResponseExists) reply
        (.load v (.readResponse username (platform.dateFormattedForDb d.day)))
  | answer {v : ℕ} {view : TriviaGameView} {question : TriviaQuestion} {username : String}
      {reply : Reply} : d.views v = some view →
      (isBlank view.answerText && !view.warnedAboutEmptyAnswer) = false →
      view.currentQuestion = some question → d.username = some username →
      Continues platform d (.submit v .submitAnswer) reply (.submit v (.writeResponse question
        view.answerText username (platform.dateFormattedForDb d.day)))
  | answered {v : ℕ} {question : TriviaQuestion} {answerText username today : String} :
      Continues platform d (.submit v (.writeResponse question answerText username today)) .written
        (.submit v (.updateStreak (if isCorrect platform question answerText then
          d.streak.getD 0 + 1 else 0)))
  | counted {v : ℕ} {streak : Int} {username : String} {reply : Reply} :
      d.username = some username →
      Continues platform d (.submit v (.updateStreak streak)) reply
        (.submit v (.writeStreak username streak))
  | submitUsername {v : ℕ} {email username : String} {reply : Reply} : d.account = some email →
      Continues platform d (.enterUsername v (.submitUsername username)) reply
        (.enterUsername v (.writeUsername (sanitizedEmail email) username))
  | review {v : ℕ} {form : ReviewForm} {userNote : String} {reply : Reply} :
      Continues platform d (.review v (.submitReview form userNote)) reply
        (.review v (.readReviews form userNote))
  | reviewsRead {v : ℕ} {form : ReviewForm} {userNote : String} {found : List Doc} :
      reviewedOn (platform.dateFormattedForDb d.day) found = .ok false →
      Continues platform d (.review v (.readReviews form userNote)) (.documents found)
        (.review v (.composeReview form userNote))
  | reviewComposed {v : ℕ} {form : ReviewForm} {userNote : String} {reply : Reply} :
      Continues platform d (.review v (.composeReview form userNote)) reply
        (.review v (.writeReview form userNote (platform.dateFormattedForDb d.day)))

theorem signIn_continues {task next : SignInTask}
    (resumed : (task.resume reply d).2 = some next) :
    Continues platform d (.signIn task) reply (.signIn next) := by
  cases task with
  | login email =>
    cases reply <;> cases resumed
    exact .login
  | register email =>
    cases reply <;> cases resumed
    exact .register
  | registerSignIn email =>
    cases reply <;> cases resumed
    exact .registerSignIn
  | readUserAccount user =>
    cases reply with
    | snapshot document =>
      cases document with
      | none =>
        cases resumed
        exact .accountMissing
      | some document =>
        simp only [SignInTask.resume] at resumed
        split at resumed <;> cases resumed
        exact .accountFound ‹_›
    | _ => cases resumed
  | writeUserAccount user =>
    cases reply <;> cases resumed
    exact .accountWritten
  | google picked =>
    cases reply with
    | googleUser user =>
      simp only [SignInTask.resume] at resumed
      split at resumed <;> cases resumed
      exact .google ‹_›
    | _ => cases resumed
  | readGoogleAccount user =>
    cases reply with
    | snapshot document =>
      cases document with
      | none =>
        cases resumed
        exact .googleAccountMissing
      | some document =>
        simp only [SignInTask.resume] at resumed
        split at resumed <;> cases resumed
        exact .googleAccountFound ‹_›
    | _ => cases resumed
  | readGoogleUsername user =>
    cases reply <;> cases resumed
    exact .googleUsername
  | writeGoogleAccount user =>
    cases reply <;> cases resumed
    exact .googleAccountWritten
  | adoptGoogleUser user =>
    cases resumed
    exact .googleAdopted
  | restoreFirebase user =>
    cases resumed
    exact .restoreFirebase
  | restoreGoogle saved =>
    cases reply <;> cases resumed
    exact .restoreGoogle
  | readUsername email =>
    cases reply <;> cases resumed
    exact .username
  | fetchUserStreak email =>
    obtain ⟨username, named, rfl⟩ := Option.map_eq_some_iff.mp resumed
    exact .streak named
  | readStreak email found =>
    cases reply with
    | snapshot snapshot =>
      simp only [SignInTask.resume, Device.updateCurrentUsersStreak] at resumed
      split at resumed
      · cases resumed
      · cases named : d.username with
        | none => simp [named] at resumed
        | some username =>
          simp only [named, Option.some.injEq] at resumed
          subst resumed
          exact .streakMissing ‹_› named
    | _ => cases resumed
  | resetStreak email username => cases reply <;> cases resumed

theorem load_continues {task next : LoadTask}
    (resumed : (task.resume platform v reply d).2 = some next) :
    Continues platform d (.load v task) reply (.load v next) := by
  cases task with
  | refreshData =>
    cases resumed
    exact .refreshed
  | loadQuestion =>
    cases resumed
    exact .question
  | readQuestion today =>
    cases reply <;> cases resumed <;> exact .questionLoaded
  | checkResponseExists =>
    simp only [LoadTask.resume] at resumed
    split at resumed <;> cases resumed
    exact .response ‹_›
  | readResponse username today =>
    cases reply with
    | snapshot snapshot =>
      simp only [LoadTask.resume] at resumed
      split at resumed <;> cases resumed
    | _ => cases resumed

theorem submit_continues {task next : SubmitTask}
    (resumed : (task.resume platform v reply d).2 = some next) :
    Continues platform d (.submit v task) reply (.submit v next) := by
  cases task with
  | submitAnswer =>
    simp only [SubmitTask.resume, Device.submitAnswer] at resumed
    cases shown : d.views v with
    | none => simp [shown] at resumed
    | some view =>
      cases asked : view.currentQuestion with
      | none => grind
      | some question =>
        cases named : d.username with
        | none => grind
        | some username =>
          simp only [shown, asked, named] at resumed
          cases blank : isBlank view.answerText && !view.warnedAboutEmptyAnswer with
          | true => simp [blank] at resumed
          | false =>
            simp only [blank, Bool.false_eq_true, if_false, Option.some.injEq] at resumed
            subst resumed
            exact .answer shown blank asked named
  | writeResponse question answerText username today =>
    cases reply <;> cases resumed
    exact .answered
  | updateStreak streak =>
    simp only [SubmitTask.resume, Device.updateCurrentUsersStreak] at resumed
    cases named : d.username with
    | none => simp [named] at resumed
    | some username =>
      simp only [named, Option.some.injEq] at resumed
      subst resumed
      exact .counted named
  | writeStreak username streak => cases reply <;> cases resumed

theorem username_continues {task next : UsernameTask}
    (resumed : (task.resume v reply d).2 = some next) :
    Continues platform d (.enterUsername v task) reply (.enterUsername v next) := by
  cases task with
  | submitUsername username =>
    simp only [UsernameTask.resume, Device.submitUsername] at resumed
    cases signedIn : d.account with
    | none => simp [signedIn] at resumed
    | some email =>
      simp only [signedIn, Option.some.injEq] at resumed
      subst resumed
      exact .submitUsername signedIn
  | writeUsername key username => cases reply <;> cases resumed

theorem review_continues {task next : ReviewTask}
    (resumed : (task.resume platform v reply d).2 = some next) :
    Continues platform d (.review v task) reply (.review v next) := by
  cases task with
  | submitReview form userNote =>
    cases resumed
    exact .review
  | readReviews form userNote =>
    cases reply with
    | documents found =>
      simp only [ReviewTask.resume] at resumed
      split at resumed <;> cases resumed
      exact .reviewsRead ‹_›
    | _ => cases resumed
  | composeReview form userNote =>
    cases resumed
    exact .reviewComposed
  | writeReview form userNote today => cases reply <;> cases resumed

theorem continues_of_resume (resumed : resume platform task reply d = (memory, some next)) :
    Continues platform d task reply next := by
  replace resumed := congrArg Prod.snd resumed
  cases task <;> simp only [resume, Option.map_eq_some_iff, reduceCtorEq] at resumed <;>
    obtain ⟨next, resumed, rfl⟩ := resumed
  case signIn => exact signIn_continues resumed
  case load => exact load_continues resumed
  case submit => exact submit_continues resumed
  case enterUsername => exact username_continues resumed
  case review => exact review_continues resumed

theorem Continues.view (continues : Continues platform d task reply next) :
    next.view = task.view := by
  cases continues <;> rfl

end DailyTrivia
