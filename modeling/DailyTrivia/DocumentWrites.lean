import DailyTrivia.App

/-!
Which task writes which document. `Write` lists the seven calls that write, each with the
document it writes and what it makes of the old one. A served call does what `Write` says
or leaves every document alone, so the relations below say who can change a users, streak,
response or review document and what it then holds. Question documents are never written.
-/
namespace DailyTrivia

open Documents

variable {platform : Platform} {backend after : Backend} {task : Task} {reply : Reply}
variable {key username day : String}

/-- The document a task's call writes, and what becomes of it. -/
inductive Write (platform : Platform) : Task → DocumentRef → (Option Doc → Doc) → Prop where
  | userAccount {user : FirebaseUser} :
      Write platform (.signIn (.writeUserAccount user)) (userRef (sanitizedEmail user.email))
        fun _ => userData (sanitizedEmail user.email)
  | googleAccount {user : GIDGoogleUser} :
      Write platform (.signIn (.writeGoogleAccount user)) (userRef (googleKey user))
        fun _ => userData ((user.email.map sanitizedEmail).getD "")
  | username {view : ℕ} {key username : String} :
      Write platform (.enterUsername view (.writeUsername key username)) (userRef key)
        (mergeInto (usernameData username))
  | resetStreak {email username : String} :
      Write platform (.signIn (.resetStreak email username)) (streakRef username)
        (mergeInto (streakData username 0))
  | streak {view : ℕ} {username : String} {streak : Int} :
      Write platform (.submit view (.writeStreak username streak)) (streakRef username)
        (mergeInto (streakData username streak))
  | response {view : ℕ} {question : TriviaQuestion} {answerText username today : String} :
      Write platform (.submit view (.writeResponse question answerText username today))
        (responseRef username today) fun _ => responseData platform question answerText username
  | review {view : ℕ} {form : ReviewForm} {userNote today : String} :
      Write platform (.review view (.writeReview form userNote today))
        (manualReviewRef form.username) fun _ => reviewData form userNote today

theorem write_of_setData {ref : DocumentRef} {data : Doc}
    (awaited : call platform task = .setData ref data) : Write platform task ref fun _ => data := by
  cases task with
  | signIn task =>
    cases task <;> cases awaited
    · exact .userAccount
    · exact .googleAccount
  | submit view task =>
    cases task <;> cases awaited
    exact .response
  | review view task =>
    cases task <;> cases awaited
    exact .review
  | load view task => cases task <;> cases awaited
  | enterUsername view task => cases task <;> cases awaited
  | logout view signOutThrows => cases awaited

theorem write_of_mergeData {ref : DocumentRef} {data : Doc}
    (awaited : call platform task = .mergeData ref data) :
    Write platform task ref (mergeInto data) := by
  cases task with
  | signIn task =>
    cases task <;> cases awaited
    exact .resetStreak
  | submit view task =>
    cases task <;> cases awaited
    exact .streak
  | enterUsername view task =>
    cases task <;> cases awaited
    exact .username
  | load view task => cases task <;> cases awaited
  | review view task => cases task <;> cases awaited
  | logout view signOutThrows => cases awaited

/-- A served call leaves the documents alone or does the one write of its task. -/
theorem serve_documents
    (served : serve platform backend (call platform task) = some (after, reply)) :
    after.documents = backend.documents ∨
    ∃ ref change, Write platform task ref change ∧
      after.documents = set backend.documents ref (change (get backend.documents ref)) := by
  cases awaited : call platform task with
  | setData ref data =>
    rw [awaited] at served
    cases served
    exact .inr ⟨ref, _, write_of_setData awaited, rfl⟩
  | mergeData ref data =>
    rw [awaited] at served
    cases served
    exact .inr ⟨ref, _, write_of_mergeData awaited, rfl⟩
  | createUser email =>
    simp only [awaited, serve] at served
    split at served <;> cases served
    exact .inl rfl
  | signIn email =>
    simp only [awaited, serve] at served
    split at served <;> cases served
    exact .inl rfl
  | _ =>
    rw [awaited] at served
    cases served
    exact .inl rfl

/-- A document that changes is the one the task writes. -/
theorem serve_ref (served : serve platform backend (call platform task) = some (after, reply))
    (ref : DocumentRef) :
    get after.documents ref = get backend.documents ref ∨
    ∃ change, Write platform task ref change ∧
      get after.documents ref = some (change (get backend.documents ref)) := by
  rcases serve_documents served with same | ⟨written, change, wrote, stored⟩
  · exact .inl (by rw [same])
  · by_cases here : ref = written
    · subst here
      exact .inr ⟨change, wrote, by rw [stored, get_set_self]⟩
    · exact .inl (by rw [stored, get_set_ne here])

/-- The users document of `key` after a task has written it. -/
inductive UserWrite (key : String) (old : Option Doc) : Task → Option Doc → Prop where
  | created {user : FirebaseUser} : key = sanitizedEmail user.email →
      UserWrite key old (.signIn (.writeUserAccount user)) (some (userData key))
  | createdGoogle {user : GIDGoogleUser} : key = googleKey user →
      UserWrite key old (.signIn (.writeGoogleAccount user))
        (some (userData ((user.email.map sanitizedEmail).getD "")))
  | named {view : ℕ} {username : String} :
      UserWrite key old (.enterUsername view (.writeUsername key username))
        (some (mergeInto (usernameData username) old))

/-- Only account creation and `submitUsername` change a users document. -/
theorem serve_user (served : serve platform backend (call platform task) = some (after, reply))
    (key : String) :
    get after.documents (userRef key) = get backend.documents (userRef key) ∨
    UserWrite key (get backend.documents (userRef key)) task
      (get after.documents (userRef key)) := by
  rcases serve_ref served (userRef key) with same | ⟨change, wrote, stored⟩
  · exact .inl same
  · rw [stored]
    cases wrote with
    | userAccount => exact .inr (.created rfl)
    | googleAccount => exact .inr (.createdGoogle rfl)
    | username => exact .inr .named

/-- The streak document of `username` after a task has written it. -/
inductive StreakWrite (username : String) (old : Option Doc) : Task → Option Doc → Prop where
  | reset {email : String} :
      StreakWrite username old (.signIn (.resetStreak email username))
        (some (mergeInto (streakData username 0) old))
  | counted {view : ℕ} {streak : Int} :
      StreakWrite username old (.submit view (.writeStreak username streak))
        (some (mergeInto (streakData username streak) old))

/-- Only `updateCurrentUsersStreak` changes a streak document. -/
theorem serve_streak (served : serve platform backend (call platform task) = some (after, reply))
    (username : String) :
    get after.documents (streakRef username) = get backend.documents (streakRef username) ∨
    StreakWrite username (get backend.documents (streakRef username)) task
      (get after.documents (streakRef username)) := by
  rcases serve_ref served (streakRef username) with same | ⟨change, wrote, stored⟩
  · exact .inl same
  · rw [stored]
    cases wrote with
    | resetStreak => exact .inr .reset
    | streak => exact .inr .counted

/-- Only `GameService.submitAnswer` changes a response document. -/
theorem serve_response (served : serve platform backend (call platform task) = some (after, reply))
    (username day : String) :
    get after.documents (responseRef username day) =
      get backend.documents (responseRef username day) ∨
    ∃ view question answerText,
      task = .submit view (.writeResponse question answerText username day) ∧
      get after.documents (responseRef username day) =
        some (responseData platform question answerText username) := by
  rcases serve_ref served (responseRef username day) with same | ⟨change, wrote, stored⟩
  · exact .inl same
  · cases wrote with
    | response => exact .inr ⟨_, _, _, rfl, stored⟩

/-- Only `submitAnswerForManualReview` changes a review document. -/
theorem serve_review (served : serve platform backend (call platform task) = some (after, reply))
    (username : String) :
    get after.documents (manualReviewRef username) =
      get backend.documents (manualReviewRef username) ∨
    ∃ view form userNote today, task = .review view (.writeReview form userNote today) ∧
      form.username = username ∧
      get after.documents (manualReviewRef username) = some (reviewData form userNote today) := by
  rcases serve_ref served (manualReviewRef username) with same | ⟨change, wrote, stored⟩
  · exact .inl same
  · generalize target : manualReviewRef username = ref at wrote stored
    cases wrote with
    | review =>
      cases target
      exact .inr ⟨_, _, _, _, rfl, rfl, stored⟩
    | _ => cases target

/-- The username in the users document of an account. -/
def storedUsername (w : World) (key : String) : Option String :=
  (get w.store.documents (userRef key)).bind fun document => document.string "username"

/-- The stored streak of a user, 0 if there is none. -/
def streakIn (documents : Store CollectionRef) (username : String) : Int :=
  ((get documents (streakRef username)).bind fun document => document.int "streak").getD 0

/-- This step is a username's write to the users document of `key`. -/
def WritesUsername (w : World) (action : Action) (key username : String) : Prop :=
  ∃ job site view, action = .serve job ∧
    w.pool job = some ⟨site, .enterUsername view (.writeUsername key username), .issued⟩

/-- Question documents are only read. -/
theorem serve_question (served : serve platform backend (call platform task) = some (after, reply))
    (day : String) :
    get after.documents (questionRef day) = get backend.documents (questionRef day) := by
  rcases serve_ref served (questionRef day) with same | ⟨change, wrote, _⟩
  · exact same
  · cases wrote

end DailyTrivia
