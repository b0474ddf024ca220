import DailyTrivia.Parts
import DailyTrivia.Players

/-!
Who owns what. The installations, the accounts and the usernames are dealt out to parties, and
each user keeps to the own ones: signs in to an account of the party, and takes a username of it.
Everything else follows. A session, a task or a users document then never comes to hold what is
another party's, so every call of a task is about documents and accounts of its own party, or
reads the quiz.
-/
namespace DailyTrivia

open Async (Replies AnswersFit Share)
open Documents Runs

variable {G : Type}

/-- To whom the installations, the accounts and the usernames belong. -/
structure Parties (G : Type) where
  site : ℕ → G
  /-- By the key of the users document. -/
  account : String → G
  username : String → G

/-- Whose document this is. The quiz is nobody's, nor is what is stored directly in
`responses`. -/
def Parties.owner (parties : Parties G) : DocumentRef → Option G
  | ⟨.users, key⟩ => some (parties.account key)
  | ⟨.streaks, username⟩ | ⟨.manualReviews, username⟩ | ⟨.responses username, _⟩ =>
    some (parties.username username)
  | ⟨.questions, _⟩ | ⟨.allResponses, _⟩ => none

/-- What a user does stays within the party. A user without a username asks for reviews under the
one that `IncorrectAnswerView` has for all of them. -/
def Parties.permits [DecidableEq G] (platform : Platform) (parties : Parties G) (w : World) :
    Action → Bool
  | .react site (.tapLogin email _) _ | .react site (.tapRegister email _) _ =>
    parties.account (sanitizedEmail (platform.firebaseUser email).email) = parties.site site
  | .react site (.tapGoogle user) _ =>
    parties.account (User.ofGoogleUser user).email = parties.site site
  | .react site (.tapSubmitUsername _ username) _ =>
    parties.username username = parties.site site
  | .react site (.tapSubmitReview _ _) _ =>
    parties.username ((w.sites site).username.getD unknownUsername) = parties.site site
  | _ => true

/-- The accounts and usernames a task knows are the party's. -/
def Parties.Owns (platform : Platform) (parties : Parties G) (g : G) : Task → Prop
  | .signIn (.login email) | .signIn (.register email) | .signIn (.registerSignIn email) =>
    parties.account (sanitizedEmail (platform.firebaseUser email).email) = g
  | .signIn (.readUserAccount user) | .signIn (.writeUserAccount user)
  | .signIn (.restoreFirebase user) => parties.account (sanitizedEmail user.email) = g
  | .signIn (.google user) | .signIn (.readGoogleAccount user) | .signIn (.readGoogleUsername user)
  | .signIn (.writeGoogleAccount user) | .signIn (.adoptGoogleUser user)
  | .signIn (.restoreGoogle user) => parties.account (User.ofGoogleUser user).email = g
  | .signIn (.readUsername email) | .signIn (.fetchUserStreak email) =>
    parties.account (sanitizedEmail email) = g
  | .signIn (.readStreak email username) | .signIn (.resetStreak email username) =>
    parties.account (sanitizedEmail email) = g ∧ parties.username username = g
  | .load _ (.readResponse username _) | .submit _ (.writeResponse _ _ username _)
  | .submit _ (.writeStreak username _) | .enterUsername _ (.submitUsername username) =>
    parties.username username = g
  | .enterUsername _ (.writeUsername key username) =>
    parties.account key = g ∧ parties.username username = g
  | .review _ task => parties.username task.form.username = g
  | .load _ _ | .submit _ _ | .logout _ _ => True

/-- The user and the username are the party's. -/
structure Parties.IsUser (parties : Parties G) (g : G) (user : User) : Prop where
  account : parties.account (sanitizedEmail user.email) = g
  username : ∀ username, user.username = some username → parties.username username = g

/-- The sessions of a device are the party's. -/
structure Parties.Holds (parties : Parties G) (g : G) (d : Device) : Prop where
  user : ∀ user, d.currentUser = some user → parties.IsUser g user
  firebase : ∀ user, d.firebaseUser = some user → parties.account (sanitizedEmail user.email) = g
  google : ∀ user, d.savedGoogleUser = some user →
    parties.account (User.ofGoogleUser user).email = g

/-- A users document that has been read names an own username. -/
def Parties.Finds (platform : Platform) (parties : Parties G) (task : Task) (reply : Reply) :
    Prop :=
  ∀ key document username, call platform task = .getDocument (userRef key) →
    reply = .snapshot (some document) → document.string "username" = some username →
    parties.username username = parties.account key

/-- Everything that is known or stored about a party is its own. -/
structure Parties.Confined (platform : Platform) (parties : Parties G) (w : World) : Prop where
  accounts : Accounts w
  fit : AnswersFit (app platform) w
  devices : ∀ site, parties.Holds (parties.site site) (w.sites site)
  tasks : ∀ number site task phase, w.pool number = some ⟨site, task, phase⟩ →
    parties.Owns platform (parties.site site) task
  stored : ∀ key username, storedUsername w key = some username →
    parties.username username = parties.account key
  found : ∀ number site task reply, w.pool number = some ⟨site, task, .answered reply⟩ →
    parties.Finds platform task reply

variable {platform : Platform} {parties : Parties G} {g : G} {d d' : Device} {task next : Task}
variable {reply : Reply} {w w' : World} {action : Action}

/-! ## One segment of a task -/

theorem Parties.Holds.username {username : String} (holds : parties.Holds g d)
    (named : d.username = some username) : parties.username username = g := by
  obtain ⟨user, present, named⟩ := Option.bind_eq_some_iff.mp named
  exact (holds.user user present).username username named

theorem isUser_ofFirebaseUser {user : FirebaseUser}
    (owns : parties.account (sanitizedEmail user.email) = g) :
    parties.IsUser g (.ofFirebaseUser user) where
  account := by
    rw [User.ofFirebaseUser, sanitizedEmail_sanitizedEmail]
    exact owns
  username username named := by cases named

/-- The address of a Google session is sanitized already. -/
theorem sanitizedEmail_ofGoogleUser (user : GIDGoogleUser) :
    sanitizedEmail (User.ofGoogleUser user).email = (User.ofGoogleUser user).email := by
  rw [ofGoogleUser_email, sanitizedEmail_sanitizedEmail]

theorem isUser_ofGoogleUser {user : GIDGoogleUser}
    (owns : parties.account (User.ofGoogleUser user).email = g) :
    parties.IsUser g (.ofGoogleUser user) where
  account := by
    rw [sanitizedEmail_ofGoogleUser]
    exact owns
  username username named := by cases named

/-- The account a sign-in call answers with is the one of its credentials. -/
theorem firebaseUser_of_fits {user : FirebaseUser} {task : SignInTask}
    (owns : parties.Owns platform g (.signIn task))
    (fits : Replies (app platform) (call platform (.signIn task)) (.firebaseUser user)) :
    parties.account (sanitizedEmail user.email) = g := by
  rcases fits with refused | ⟨before, after, served⟩
  · cases refused
  cases task with
  | login email | register email | registerSignIn email =>
    simp only [app, call, SignInTask.call, serve] at served
    split at served <;> cases served
    exact owns
  | _ => cases served

theorem googleUser_of_fits {user : GIDGoogleUser} {task : SignInTask}
    (owns : parties.Owns platform g (.signIn task))
    (fits : Replies (app platform) (call platform (.signIn task)) (.googleUser user)) :
    parties.account (User.ofGoogleUser user).email = g := by
  rcases fits with refused | ⟨before, after, served⟩
  · cases refused
  cases task with
  | google picked | restoreGoogle saved =>
    cases served
    exact owns
  | login email | register email | registerSignIn email =>
    simp only [app, call, SignInTask.call, serve] at served
    split at served <;> cases served
  | _ => cases served

/-- A task goes on with what is the party's own. -/
theorem owns_of_continues (holds : parties.Holds g d) (owns : parties.Owns platform g task)
    (fits : Replies (app platform) (call platform task) reply)
    (continues : Continues platform d task reply next) : parties.Owns platform g next := by
  cases continues with
  | login | registerSignIn => exact firebaseUser_of_fits owns fits
  | google _ => exact googleUser_of_fits owns fits
  | googleAdopted | googleAccountWritten =>
    simp only [Parties.Owns, ofGoogleUser_email] at owns
    exact owns
  | restoreGoogle =>
    have owns := googleUser_of_fits owns fits
    rwa [ofGoogleUser_email] at owns
  | streak named => exact ⟨owns, holds.username named⟩
  | streakMissing _ named => exact ⟨owns.1, holds.username named⟩
  | response named | counted named => exact holds.username named
  | answer _ _ _ named => exact holds.username named
  | submitUsername account =>
    obtain ⟨user, present, rfl⟩ := Option.map_eq_some_iff.mp account
    exact ⟨(holds.user user present).account, owns⟩
  | refreshed | question | questionLoaded | answered => trivial
  | _ => exact owns

/-- What a task leaves of the sign-ins that are kept across launches. -/
structure KeepsSessions (d : Device) (task : Task) (reply : Reply) (d' : Device) : Prop where
  firebase : ∀ user, d'.firebaseUser = some user → d.firebaseUser = some user ∨
    ∃ signIn, task = .signIn signIn ∧ reply = .firebaseUser user
  google : ∀ user, d'.savedGoogleUser = some user → d.savedGoogleUser = some user ∨
    ∃ signIn, task = .signIn signIn ∧ reply = .googleUser user

theorem KeepsSessions.of_same (firebase : d'.firebaseUser = d.firebaseUser)
    (google : d'.savedGoogleUser = d.savedGoogleUser) : KeepsSessions d task reply d' where
  firebase _ kept := .inl (firebase ▸ kept)
  google _ kept := .inl (google ▸ kept)

theorem signIn_keepsSessions (task : SignInTask) (reply : Reply) (d : Device) :
    KeepsSessions d (.signIn task) reply (task.resume reply d).1 := by
  have assigned : ∀ snapshot, KeepsSessions d (.signIn task) reply (d.assignUsername snapshot) := by
    intro snapshot
    unfold Device.assignUsername
    split <;> exact .of_same rfl rfl
  cases task with
  | login email | register email | registerSignIn email =>
    cases reply with
    | firebaseUser user =>
      refine ⟨fun _ kept => .inr ⟨_, rfl, ?_⟩, fun _ kept => .inl kept⟩
      exact congrArg Reply.firebaseUser (Option.some.inj kept)
    | _ => exact .of_same rfl rfl
  | google picked =>
    cases reply with
    | googleUser user =>
      refine ⟨fun _ kept => .inl kept, fun _ kept => .inr ⟨_, rfl, ?_⟩⟩
      exact congrArg Reply.googleUser (Option.some.inj kept)
    | _ => exact .of_same rfl rfl
  | readUserAccount _ | readGoogleAccount _ =>
    cases reply with
    | snapshot document =>
      cases document with
      | none => exact .of_same rfl rfl
      | some document =>
        simp only [SignInTask.resume]
        split <;> exact .of_same rfl rfl
    | _ => exact .of_same rfl rfl
  | readGoogleUsername user | readUsername email =>
    cases reply with
    | snapshot snapshot => exact assigned snapshot
    | _ => exact .of_same rfl rfl
  | readStreak email username =>
    cases reply with
    | snapshot snapshot =>
      simp only [SignInTask.resume]
      split
      · exact .of_same rfl rfl
      · split <;> exact .of_same rfl rfl
    | _ => exact .of_same rfl rfl
  | _ => cases reply <;> exact .of_same rfl rfl

theorem keepsSessions_of_resume {next : Option Task}
    (resumed : resume platform task reply d = (d', next)) : KeepsSessions d task reply d' := by
  obtain rfl : (resume platform task reply d).1 = d' := congrArg Prod.fst resumed
  cases viewed : task.view with
  | none =>
    cases task with
    | signIn task => exact signIn_keepsSessions task reply d
    | _ => cases viewed
  | some v =>
    have leaves := @leaves_of_resume platform v task viewed reply d
    generalize (resume platform task reply d).1 = left at leaves ⊢
    cases leaves with
    | refreshed =>
      obtain ⟨_, _, same⟩ := @refreshed_frame platform v d
      exact .of_same (by rw [same]) (by rw [same])
    | @loggedOut signOutThrows _ _ _ =>
      refine ⟨fun user kept => .inl ?_, fun user kept => .inl ?_⟩
      · simp only [Device.onView, Device.logout] at kept
        split at kept
        · exact kept
        · cases kept
      · by_cases google : d.googleUser.isSome = true
        · simp [Device.onView, Device.logout, google] at kept
        · simpa [Device.onView, Device.logout, google] using kept
    | _ => exact .of_same rfl rfl

/-- A user of the party under a username of the party. -/
theorem isUser_named {user : User} {username : String} (isUser : parties.IsUser g user)
    (owns : parties.username username = g) :
    parties.IsUser g { user with username := some username } where
  account := isUser.account
  username chosen named := by
    cases named
    exact owns

theorem isUser_decoded {key : String} {document : Doc} {user : User}
    (decoded : User.decode document = some user) (keyed : Keyed key document)
    (owns : parties.account (sanitizedEmail key) = g)
    (found : ∀ username, document.string "username" = some username →
      parties.username username = g) : parties.IsUser g user := by
  obtain ⟨email, _, username⟩ := decode_keyed decoded keyed
  exact ⟨email ▸ owns, fun name named => found name (username ▸ named)⟩

/-- A session that a task assigns is the party's, and so are those that it keeps on disk. -/
theorem holds_of_resume {number site : ℕ} {next : Option Task}
    (confined : parties.Confined platform w)
    (held : w.pool number = some ⟨site, task, .answered reply⟩)
    (resumed : resume platform task reply (w.sites site) = (d', next)) :
    parties.Holds (parties.site site) d' where
  user user present := by
    have holds := confined.devices site
    have owns := confined.tasks _ _ _ _ held
    have fits := confined.fit _ _ _ _ held
    have found := confined.found _ _ _ _ held
    have assigned := assigned_of_resume resumed
    generalize d'.currentUser = current at assigned present
    cases assigned with
    | kept => exact holds.user user present
    | login | registered =>
      cases present
      exact isUser_ofFirebaseUser (firebaseUser_of_fits owns fits)
    | @accountFound account document _ decoded =>
      cases present
      have keyed := confined.accounts.found _ _ _ _ _ held rfl
      refine isUser_decoded decoded keyed ?_ fun name named => ?_
      · rw [sanitizedEmail_sanitizedEmail]
        exact owns
      · exact (found _ _ _ rfl rfl named).trans owns
    | @googleAccountFound google document _ decoded =>
      cases present
      have keyed := confined.accounts.found _ _ _ _ _ held rfl
      have address := confined.accounts.addressed _ _ _ _ _ held rfl
      have owns : parties.account (User.ofGoogleUser google).email = parties.site site := owns
      rw [← googleKey_of_address address] at owns
      refine isUser_decoded decoded keyed ?_ fun name named => ?_
      · rw [googleKey_of_address address, sanitizedEmail_ofGoogleUser, ← googleKey_of_address address]
        exact owns
      · exact (found _ _ _ rfl rfl named).trans owns
    | adopted | googleAccountWritten =>
      cases present
      exact isUser_ofGoogleUser owns
    | restoredFirebase =>
      cases present
      exact isUser_ofFirebaseUser owns
    | restoredGoogle =>
      cases present
      exact isUser_ofGoogleUser (googleUser_of_fits owns fits)
    | @googleUsername google snapshot username named =>
      obtain ⟨before, signedIn, rfl⟩ := Option.map_eq_some_iff.mp present
      obtain ⟨document, rfl, named⟩ := Option.bind_eq_some_iff.mp named
      refine isUser_named (holds.user before signedIn) ((found _ _ _ rfl rfl named).trans ?_)
      have owns : parties.account (User.ofGoogleUser google).email = parties.site site := owns
      rwa [← sanitizedEmail_ofGoogleUser] at owns
    | @username email snapshot username named =>
      obtain ⟨before, signedIn, rfl⟩ := Option.map_eq_some_iff.mp present
      obtain ⟨document, rfl, named⟩ := Option.bind_eq_some_iff.mp named
      exact isUser_named (holds.user before signedIn) ((found _ _ _ rfl rfl named).trans owns)
    | named =>
      obtain ⟨before, signedIn, rfl⟩ := Option.map_eq_some_iff.mp present
      exact isUser_named (holds.user before signedIn) owns.2
    | streak _ | reset | counted =>
      obtain ⟨before, signedIn, rfl⟩ := Option.map_eq_some_iff.mp present
      exact ⟨(holds.user before signedIn).account, (holds.user before signedIn).username⟩
    | loggedOut => cases present
  firebase user kept := by
    rcases (keepsSessions_of_resume resumed).firebase user kept with before | ⟨signIn, rfl, rfl⟩
    · exact (confined.devices site).firebase user before
    · exact firebaseUser_of_fits (confined.tasks _ _ _ _ held) (confined.fit _ _ _ _ held)
  google user kept := by
    rcases (keepsSessions_of_resume resumed).google user kept with before | ⟨signIn, rfl, rfl⟩
    · exact (confined.devices site).google user before
    · exact googleUser_of_fits (confined.tasks _ _ _ _ held) (confined.fit _ _ _ _ held)

/-! ## One step of the whole system -/

/-- An event begins a task with what is the party's own. -/
theorem owns_of_react [DecidableEq G] {site number : ℕ} {event : Event}
    (holds : parties.Holds (parties.site site) (w.sites site))
    (permitted : parties.permits platform w (.react site event number) = true)
    (begins : Begins (w.sites site) event task) :
    parties.Owns platform (parties.site site) task := by
  cases begins with
  | restoreFirebase kept => exact holds.firebase _ kept
  | restoreGoogle _ kept => exact holds.google _ kept
  | login _ | register _ | google _ | username _ _ =>
    simpa [Parties.permits, Parties.Owns] using permitted
  | @review v userNote form view _ named =>
    have own := of_decide_eq_true permitted
    rw [unknownUsername, ← named] at own
    exact own
  | _ => trivial

theorem holds_of_react {event : Event} {next : Option Task}
    (holds : parties.Holds g d) (reacted : react platform event d = some (d', next)) :
    parties.Holds g d' := by
  cases reacts_of_react reacted <;> exact ⟨holds.user, holds.firebase, holds.google⟩

/-- Only the calls of the party's own tasks write its users documents. -/
theorem stored_confined (moved : Move platform w action w')
    (confined : parties.Confined platform w) {key username : String}
    (stored : storedUsername w' key = some username) :
    parties.username username = parties.account key := by
  rcases storedUsername_origin moved stored with before | ⟨number, site, view, _, held⟩
  · exact confined.stored key username before
  · obtain ⟨account, named⟩ := confined.tasks _ _ _ _ held
    exact named.trans account.symm

theorem confined_step [DecidableEq G] (moved : Move platform w action w')
    (permitted : parties.permits platform w action = true)
    (confined : parties.Confined platform w) : parties.Confined platform w' where
  accounts := accounts_step moved confined.accounts
  fit := Async.answersFit_step moved confined.fit
  devices site := by
    cases moved.memory site with
    | kept same => exact same ▸ confined.devices site
    | reacted reacted => exact holds_of_react (confined.devices site) reacted
    | restarted same =>
      rw [same]
      exact ⟨nofun, (confined.devices site).firebase, (confined.devices site).google⟩
    | resumed held resumed => exact holds_of_resume confined held resumed
  tasks number site task phase present := by
    cases moved.pool present with
    | kept held _ | served held _ | failed held => exact confined.tasks _ _ _ _ held
    | spawned reacted _ =>
      exact owns_of_react (confined.devices site) permitted (begins_of_react reacted)
    | resumed held resumed =>
      exact owns_of_continues (confined.devices site) (confined.tasks _ _ _ _ held)
        (confined.fit _ _ _ _ held) (continues_of_resume resumed)
  stored key username stored := stored_confined moved confined stored
  found number site task reply present := by
    cases moved.pool present with
    | kept held _ => exact confined.found _ _ _ _ held
    | served held served =>
      rintro key document username awaited rfl named
      simp only [app, awaited, serve, Option.some.injEq, Prod.mk.injEq, Reply.snapshot.injEq]
        at served
      obtain ⟨_, found⟩ := served
      exact confined.stored key username (by rw [storedUsername, found]; exact named)
    | failed held =>
      rintro key document username _ ⟨⟩

theorem confined_of_initial (initial : Initial w) : parties.Confined platform w where
  accounts := accounts_of_initial initial
  fit number site task reply present := by simp [initial.noJob] at present
  devices site := by
    rw [initial.newInstallation site]
    exact ⟨nofun, nofun, nofun⟩
  tasks number site task phase present := by simp [initial.noJob] at present
  stored key username stored := by
    rw [storedUsername_of_initial initial key] at stored
    cases stored
  found number site task reply present := by simp [initial.noJob] at present

end DailyTrivia
