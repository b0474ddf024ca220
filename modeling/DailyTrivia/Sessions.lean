import DailyTrivia.Accounts
import DailyTrivia.Usernames

/-!
Whose data a session holds. `fetchUsername`, `fetchUserStreak`, `updateCurrentUsersStreak`
and `submitUsername` assign to whatever `currentUser` is when their call has returned, and a
logout cancels none of them.

`OwnReplies` is the comparison they leave out: a task that goes on with a reply finds its
own account signed in, or nobody. Then a session holds the username and a streak of its own
account, and a sign-in writes no other account's streak.
-/
namespace DailyTrivia

open Documents Runs

/-- The sign-in has replaced `currentUser` and goes on to fill it in. -/
def SignInTask.fillsIn : SignInTask → Bool
  | .readGoogleUsername _ | .readUsername _ | .fetchUserStreak _ | .readStreak _ _
  | .resetStreak _ _ => true
  | _ => false

/-- The streaks that have been written, with the user they were written for. -/
abbrev StreakLog := List (String × Int)

def noteStreak (log : StreakLog) (w : World) : Action → StreakLog
  | .serve number =>
    match w.pool number with
    | some ⟨_, .signIn (.resetStreak _ username), .issued⟩ => log ++ [(username, 0)]
    | some ⟨_, .submit _ (.writeStreak username streak), .issued⟩ => log ++ [(username, streak)]
    | _ => log
  | _ => log

abbrev sessionStep (platform : Platform) : World × StreakLog → Action → Option (World × StreakLog) :=
  Observed (step platform) noteStreak

/-- A session holds what belongs to its account. -/
structure SessionIntegrity (platform : Platform) (allowed : World × StreakLog → Action → Prop) :
    Prop where
  /-- The username of a session is the one stored for its account. -/
  username : ∀ (start : World) (after : World × StreakLog) (actions : List Action) (site : ℕ)
    (user : User) (username : String), Initial start →
    Run (sessionStep platform) allowed (start, []) actions after →
    (after.1.sites site).currentUser = some user → user.username = some username →
    storedUsername after.1 user.email = some username
  /-- The streak of a session has been written to the streak document of its account. -/
  streak : ∀ (start : World) (after : World × StreakLog) (actions : List Action) (site : ℕ)
    (user : User) (streak : Int), Initial start →
    Run (sessionStep platform) allowed (start, []) actions after →
    (after.1.sites site).currentUser = some user → user.streak = some streak →
    ∃ username, storedUsername after.1 user.email = some username ∧ (username, streak) ∈ after.2
  /-- A sign-in of another account writes no streak of the account that is signed in. -/
  foreign : ∀ (start : World) (before : World × StreakLog) (actions : List Action)
    (number site : ℕ) (task : SignInTask) (username : String) (change : Option Doc → Doc)
    (user : User), Initial start →
    Run (sessionStep platform) allowed (start, []) actions before →
    allowed before (.serve number) →
    before.1.pool number = some ⟨site, .signIn task, .issued⟩ →
    Write platform (.signIn task) (streakRef username) change →
    (before.1.sites site).currentUser = some user → task.account ≠ some user.email →
    storedUsername before.1 user.email ≠ some username

/-- If somebody is signed in, it is this account. -/
def SignedIn (d : Device) (key : String) : Prop := ∀ user, d.currentUser = some user → user.email = key

/-- A task that assigns to `currentUser` finds its own account there, or nobody. -/
structure OwnReplies (w : World) (action : Action) : Prop where
  signIn : ∀ number site task reply key, action = .resume number →
    w.pool number = some ⟨site, .signIn task, .answered reply⟩ → task.fillsIn = true →
    task.account = some key → SignedIn (w.sites site) key
  username : ∀ number site v key username, action = .resume number →
    w.pool number = some ⟨site, .enterUsername v (.writeUsername key username),
      .answered .written⟩ → SignedIn (w.sites site) key
  streak : ∀ number site v username streak user, action = .resume number →
    w.pool number = some ⟨site, .submit v (.writeStreak username streak), .answered .written⟩ →
    (w.sites site).currentUser = some user → user.username = some username

/-- Replies find their own account, and usernames are given once. -/
structure OwnSessions (w : World) (action : Action) : Prop where
  replies : OwnReplies w action
  once : NamedOnce w action

/-! ## What a session and its tasks know -/

/-- The username that was read is the one stored. -/
def ReadsUsername (w : World) (key : String) (snapshot : Option Doc) : Prop :=
  ∀ username, (snapshot.bind fun document => document.string "username") = some username →
    storedUsername w key = some username

/-- What the locals of a task say is so. -/
def Known (w : World) : Task → Prop
  | .signIn (.readStreak email username) | .signIn (.resetStreak email username) =>
    storedUsername w (sanitizedEmail email) = some username
  | _ => True

/-- What a reply says is so. -/
def Replied (w : World) (log : StreakLog) : Task → Reply → Prop
  | .signIn (.readUserAccount user), .snapshot snapshot =>
    ReadsUsername w (sanitizedEmail user.email) snapshot
  | .signIn (.readGoogleAccount user), .snapshot snapshot
  | .signIn (.readGoogleUsername user), .snapshot snapshot =>
    ReadsUsername w (googleKey user) snapshot
  | .signIn (.readUsername email), .snapshot snapshot =>
    ReadsUsername w (sanitizedEmail email) snapshot
  | .signIn (.readStreak _ username), .snapshot snapshot =>
    ∀ streak, (snapshot.bind fun document => document.int "streak") = some streak →
      (username, streak) ∈ log
  | .signIn (.resetStreak _ username), .written => (username, 0) ∈ log
  | .enterUsername _ (.writeUsername key username), .written =>
    storedUsername w key = some username
  | .submit _ (.writeStreak username streak), .written => (username, streak) ∈ log
  | _, _ => True

/-- What a session holds belongs to its account. -/
structure OwnUser (w : World) (log : StreakLog) (user : User) : Prop where
  username : ∀ username, user.username = some username →
    storedUsername w user.email = some username
  streak : ∀ streak, user.streak = some streak →
    ∃ username, storedUsername w user.email = some username ∧ (username, streak) ∈ log

/-- The documents, the tasks and the sessions agree. -/
structure Sessions (w : World) (log : StreakLog) : Prop where
  named : Named w
  accounts : Accounts w
  streaks : ∀ username streak,
    ((get w.store.documents (streakRef username)).bind fun document => document.int "streak") =
      some streak → (username, streak) ∈ log
  known : ∀ number site task phase, w.pool number = some ⟨site, task, phase⟩ → Known w task
  replied : ∀ number site task reply, w.pool number = some ⟨site, task, .answered reply⟩ →
    Replied w log task reply
  own : ∀ site user, (w.sites site).currentUser = some user → OwnUser w log user

variable {platform : Platform} {w w' : World} {log log' : StreakLog} {action : Action}
variable {key username : String} {document : Doc} {user : User} {task : Task} {reply : Reply}

/-- Every username that is stored stays stored. -/
def Stays (w w' : World) : Prop :=
  ∀ key username, storedUsername w key = some username → storedUsername w' key = some username

theorem ReadsUsername.mono {snapshot : Option Doc} (reads : ReadsUsername w key snapshot)
    (stays : Stays w w') : ReadsUsername w' key snapshot :=
  fun username found => stays key username (reads username found)

theorem Known.mono (known : Known w task) (stays : Stays w w') : Known w' task := by
  unfold Known at known ⊢
  split at known
  · exact stays _ _ known
  · exact stays _ _ known
  · trivial

theorem Replied.mono (replied : Replied w log task reply) (stays : Stays w w')
    (grows : log ⊆ log') : Replied w' log' task reply := by
  unfold Replied at replied ⊢
  split at replied
  · exact replied.mono stays
  · exact replied.mono stays
  · exact replied.mono stays
  · exact replied.mono stays
  · exact fun streak found => grows (replied streak found)
  · exact grows replied
  · exact stays _ _ replied
  · exact grows replied
  · trivial

theorem OwnUser.mono (own : OwnUser w log user) (stays : Stays w w') (grows : log ⊆ log') :
    OwnUser w' log' user where
  username username named := stays _ _ (own.username username named)
  streak streak held := by
    obtain ⟨username, stored, written⟩ := own.streak streak held
    exact ⟨username, stays _ _ stored, grows written⟩

/-- A user that has neither username nor streak yet. -/
theorem ownUser_fresh (unnamed : user.username = none) (uncounted : user.streak = none) :
    OwnUser w log user where
  username username named := by simp [unnamed] at named
  streak streak held := by simp [uncounted] at held

theorem log_subset (log : StreakLog) (w : World) (action : Action) :
    log ⊆ noteStreak log w action := by
  cases action with
  | serve number =>
    simp only [noteStreak]
    split
    · exact List.subset_append_left _ _
    · exact List.subset_append_left _ _
    · exact List.Subset.refl _
  | _ => exact List.Subset.refl _

/-! ## One step -/

theorem streaks_step (moved : Move platform w action w') (sessions : Sessions w log) {streak : Int}
    (stored : ((get w'.store.documents (streakRef username)).bind
      fun document => document.int "streak") = some streak) :
    (username, streak) ∈ noteStreak log w action := by
  have before := sessions.streaks username streak
  rcases moved.store with same | ⟨number, site, task, reply, rfl, held, served⟩
  · rw [same] at stored
    exact log_subset log w action (before stored)
  · rcases serve_streak served username with same | wrote
    · rw [same] at stored
      exact log_subset log w _ (before stored)
    · generalize get w.store.documents (streakRef username) = old at wrote before
      generalize get w'.store.documents (streakRef username) = new at wrote stored
      have written : ∀ streak : Int,
          (mergeInto (streakData username streak) old).int "streak" = some streak := fun streak =>
        int_of_some (mergeInto_of_some rfl)
      cases wrote with
      | reset =>
        simp only [Option.bind_some, written, Option.some.injEq] at stored
        simp [noteStreak, held, stored]
      | counted =>
        simp only [Option.bind_some, written, Option.some.injEq] at stored
        simp [noteStreak, held, stored]

/-- The username of a session, when its account is the one a task is about. -/
theorem own_username {site : ℕ} (sessions : Sessions w log) (signedIn : SignedIn (w.sites site) key)
    (named : (w.sites site).username = some username) : storedUsername w key = some username := by
  obtain ⟨user, present, named⟩ := Option.bind_eq_some_iff.mp named
  rw [← signedIn user present]
  exact (sessions.own site user present).username username named

theorem known_step (moved : Move platform w action w') (own : OwnSessions w action)
    (sessions : Sessions w log) (stays : Stays w w') {number site : ℕ} {phase : Async.Phase Reply}
    (present : w'.pool number = some ⟨site, task, phase⟩) : Known w' task := by
  cases moved.pool present with
  | kept held _ => exact (sessions.known _ _ _ _ held).mono stays
  | spawned reacted => cases begins_of_react reacted <;> trivial
  | served held _ => exact (sessions.known _ _ _ _ held).mono stays
  | failed held => exact (sessions.known _ _ _ _ held).mono stays
  | resumed held resumed =>
    cases continues_of_resume resumed with
    | streak named =>
      exact stays _ _ (own_username sessions (own.replies.signIn _ _ _ _ _ rfl held rfl rfl) named)
    | streakMissing _ named =>
      exact stays _ _ (own_username sessions (own.replies.signIn _ _ _ _ _ rfl held rfl rfl) named)
    | _ => trivial

theorem replied_refused (w : World) (log : StreakLog) (task : Task) :
    Replied w log task .refused := by
  unfold Replied
  split <;> trivial

/-- A read of a users document finds what is stored. -/
theorem readsUsername_get (same : w'.store = w.store) (key : String) :
    ReadsUsername w' key (get w.store.documents (userRef key)) := by
  intro username found
  simpa only [storedUsername, same] using found

theorem replied_served {number site : ℕ} (sessions : Sessions w log)
    (held : w.pool number = some ⟨site, task, .issued⟩)
    (served : serve platform w.store (call platform task) = some (w'.store, reply)) :
    Replied w' (noteStreak log w (.serve number)) task reply := by
  unfold Replied
  split
  · obtain ⟨stored, found⟩ := Prod.mk.inj (Option.some.inj served)
    rw [← Reply.snapshot.inj found]
    exact readsUsername_get stored.symm _
  · obtain ⟨stored, found⟩ := Prod.mk.inj (Option.some.inj served)
    rw [← Reply.snapshot.inj found]
    exact readsUsername_get stored.symm _
  · obtain ⟨stored, found⟩ := Prod.mk.inj (Option.some.inj served)
    obtain ⟨email, address⟩ :=
      Option.isSome_iff_exists.mp (sessions.accounts.addressed _ _ _ _ _ held rfl)
    simp only [address, Option.map_some, Option.getD_some, sanitizedEmail_sanitizedEmail] at found
    simp only [googleKey, address, Option.map_some, Option.getD_some, ← Reply.snapshot.inj found]
    exact readsUsername_get stored.symm _
  · obtain ⟨stored, found⟩ := Prod.mk.inj (Option.some.inj served)
    rw [← Reply.snapshot.inj found]
    exact readsUsername_get stored.symm _
  · obtain ⟨_, found⟩ := Prod.mk.inj (Option.some.inj served)
    intro streak stored
    rw [← Reply.snapshot.inj found] at stored
    exact log_subset log w _ (sessions.streaks _ _ stored)
  · simp [noteStreak, held]
  · obtain ⟨stored, _⟩ := Prod.mk.inj (Option.some.inj served)
    simp only [storedUsername, ← stored, setMerging, get_set_self, Option.bind_some]
    exact string_eq_some.mpr (mergeInto_of_some rfl)
  · simp [noteStreak, held]
  · trivial

theorem replied_step (moved : Move platform w action w') (sessions : Sessions w log)
    (stays : Stays w w') {number site : ℕ}
    (present : w'.pool number = some ⟨site, task, .answered reply⟩) :
    Replied w' (noteStreak log w action) task reply := by
  cases moved.pool present with
  | kept held _ => exact (sessions.replied _ _ _ _ held).mono stays (log_subset log w action)
  | failed _ => exact replied_refused _ _ _
  | served held served => exact replied_served sessions held served

/-- What a task makes of the session belongs to the account of the session. -/
theorem own_assigned {number site : ℕ} {d' : Device} {next : Option Task}
    (sessions : Sessions w log) (own : OwnSessions w (.resume number))
    (held : w.pool number = some ⟨site, task, .answered reply⟩)
    (resumed : resume platform task reply (w.sites site) = (d', next))
    (present : d'.currentUser = some user) : OwnUser w log user := by
  have known := sessions.known _ _ _ _ held
  have replied := sessions.replied _ _ _ _ held
  generalize assigned : d'.currentUser = currentUser at present
  have happened := assigned_of_resume resumed
  rw [assigned] at happened
  cases happened with
  | kept => exact sessions.own site user present
  | login | registered | adopted | googleAccountWritten | restoredFirebase | restoredGoogle =>
    cases present
    exact ownUser_fresh rfl rfl
  | accountFound decoded | googleAccountFound decoded =>
    cases present
    have keyed := sessions.accounts.found _ _ _ _ _ held rfl
    obtain ⟨email, uncounted, named⟩ := decode_keyed decoded keyed
    refine ⟨fun username held => ?_, fun streak held => ?_⟩
    · rw [email]
      exact replied username (named.symm.trans held)
    · rw [uncounted] at held
      cases held
  | googleUsername found | username found =>
    obtain ⟨before, signedIn, rfl⟩ := Option.map_eq_some_iff.mp present
    have mine := own.replies.signIn _ _ _ _ _ rfl held rfl rfl before signedIn
    refine ⟨fun username named => ?_, (sessions.own site before signedIn).streak⟩
    cases named
    rw [mine]
    exact replied _ found
  | @streak email username _ streak found =>
    obtain ⟨before, signedIn, rfl⟩ := Option.map_eq_some_iff.mp present
    have mine := own.replies.signIn _ _ _ _ _ rfl held rfl rfl before signedIn
    refine ⟨(sessions.own site before signedIn).username, fun _ counted => ?_⟩
    cases counted
    exact ⟨username, by rw [mine]; exact known, replied _ found⟩
  | @reset email username =>
    obtain ⟨before, signedIn, rfl⟩ := Option.map_eq_some_iff.mp present
    have mine := own.replies.signIn _ _ _ _ _ rfl held rfl rfl before signedIn
    refine ⟨(sessions.own site before signedIn).username, fun _ counted => ?_⟩
    cases counted
    exact ⟨username, by rw [mine]; exact known, replied⟩
  | named =>
    obtain ⟨before, signedIn, rfl⟩ := Option.map_eq_some_iff.mp present
    have mine := own.replies.username _ _ _ _ _ rfl held before signedIn
    refine ⟨fun username named => ?_, (sessions.own site before signedIn).streak⟩
    cases named
    rw [mine]
    exact replied
  | @counted v username streak =>
    obtain ⟨before, signedIn, rfl⟩ := Option.map_eq_some_iff.mp present
    have named := own.replies.streak _ _ _ _ _ _ rfl held signedIn
    refine ⟨(sessions.own site before signedIn).username, fun _ counted => ?_⟩
    cases counted
    exact ⟨username, (sessions.own site before signedIn).username username named, replied⟩
  | loggedOut => cases present

theorem own_step (moved : Move platform w action w') (own : OwnSessions w action)
    (sessions : Sessions w log) (stays : Stays w w') (grows : log ⊆ log') {site : ℕ}
    (present : (w'.sites site).currentUser = some user) : OwnUser w' log' user := by
  cases moved.memory site with
  | kept same =>
    rw [same] at present
    exact (sessions.own site user present).mono stays grows
  | reacted reacted =>
    rw [react_currentUser reacted] at present
    exact (sessions.own site user present).mono stays grows
  | resumed held resumed => exact (own_assigned sessions own held resumed present).mono stays grows
  | restarted same =>
    rw [same] at present
    cases present

theorem sessions_step (moved : Move platform w action w') (own : OwnSessions w action)
    (sessions : Sessions w log) : Sessions w' (noteStreak log w action) := by
  have stays : Stays w w' := fun _ _ => storedUsername_stays moved own.once sessions.named
  constructor
  case named => exact named_step moved own.once sessions.named
  case accounts => exact accounts_step moved sessions.accounts
  case streaks => exact fun _ _ => streaks_step moved sessions
  case known => exact fun _ _ _ _ => known_step moved own sessions stays
  case replied => exact fun _ _ _ _ => replied_step moved sessions stays
  case own => exact fun _ _ => own_step moved own sessions stays (log_subset log w action)

/-! ## Runs -/

theorem sessions_of_initial {start : World} (initial : Initial start) : Sessions start [] where
  named := named_of_initial initial
  accounts := accounts_of_initial initial
  streaks username streak stored := by
    rw [initial.noDocument (streakRef username) (by simp [streakRef])] at stored
    cases stored
  known number site task phase present := by simp [initial.noJob] at present
  replied number site task reply present := by simp [initial.noJob] at present
  own site user present := by
    rw [initial.newInstallation site] at present
    cases present

theorem sessions_run {start : World} {after : World × StreakLog} {actions : List Action}
    {allowed : World × StreakLog → Action → Prop}
    (own : ∀ s action, allowed s action → OwnSessions s.1 action) (initial : Initial start)
    (run : Run (sessionStep platform) allowed (start, []) actions after) :
    Sessions after.1 after.2 := by
  refine run.invariant (fun s => Sessions s.1 s.2) (sessions_of_initial initial) ?_
  rintro before action after sessions permitted moved
  obtain ⟨moved, noted⟩ := observed_eq_some.mp moved
  rw [← noted]
  exact sessions_step (Async.move_of_step moved) (own before action permitted) sessions

/-- Sessions hold what belongs to their accounts, as long as every reply finds its own. -/
theorem sessionIntegrity_of_ownSessions (platform : Platform) :
    SessionIntegrity platform fun s => OwnSessions s.1 where
  username start after actions site user username initial run present :=
    ((sessions_run (fun _ _ own => own) initial run).own site user present).username username
  streak start after actions site user streak initial run present :=
    ((sessions_run (fun _ _ own => own) initial run).own site user present).streak streak
  foreign start before actions number site task username change user initial run _ held wrote
      present foreign stored := by
    have sessions := sessions_run (fun _ _ own => own) initial run
    have mine := sessions.known number site _ _ held
    cases wrote with
    | resetStreak =>
      exact foreign (congrArg some (sessions.named.distinct _ _ username mine stored))

/-- The step is made on this device. -/
def onDevice (site : ℕ) : Action → Bool
  | .react here _ _ | .restart here => here == site
  | .serve _ | .fail _ | .resume _ => true

/-- Annie signs in and logs out before her username has arrived, and Ben registers. -/
def lateUsername : List Action :=
  signUp 0 "ann@example.com" "annie" ++
  ([.react 0 (.tapLogout 0 false) 0] : List Action) ++ advance 0 ++
  ([.react 0 (.tapLogin "ann@example.com" "password") 0] : List Action) ++ advance 0 ++
  ([.react 0 .currentUserChanges 1, .react 0 (.gameViewAppears 1) 1,
    .react 0 (.tapLogout 1 false) 2] : List Action) ++ advance 2 ++
  ([.react 0 (.tapRegister "ben@example.com" "secret") 2] : List Action) ++ advance 2 ++
  advance 2 ++ advance 0

theorem lateUsername_taken :
    (execute (sessionStep march) (firstLaunch [capital], []) lateUsername).map (fun s =>
      ((s.1.sites 0).currentUser, storedUsername s.1 "ben_example_com")) =
      some (some {
        email := "ben_example_com", id := "uid of ben@example.com", username := "annie" }, none) := by
  decide +kernel

/-- On one device a session can take another account's username. -/
theorem not_sessionIntegrity : ¬ SessionIntegrity march fun _ action => onDevice 0 action := by
  intro claim
  obtain ⟨after, ran, reached⟩ := Option.map_eq_some_iff.mp lateUsername_taken
  obtain ⟨present, unnamed⟩ := Prod.mk.inj reached
  have here : ∀ action ∈ lateUsername, onDevice 0 action = true := by decide
  have run := Run.of_execute (fun action performed _ => here action performed) ran
  have stored := claim.username _ after lateUsername 0 _ "annie" (initial_firstLaunch _) run present
    rfl
  rw [unnamed] at stored
  cases stored

end DailyTrivia
