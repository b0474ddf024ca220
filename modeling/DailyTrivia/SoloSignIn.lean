import DailyTrivia.SoloHistory

/-!
A player's sign-in, with nothing else going on. `Reached` is what each of its awaits knows, and
`signIn_segment` leads from one to the next. It ends with what is stored loaded.
-/
namespace DailyTrivia

open Async (After)
open Documents Function

/-- The session is the player's and has nothing yet. -/
def Fresh (player : Player) (d : Device) : Prop :=
  ∃ user, d.currentUser = some user ∧ user.email = player.key ∧ user.username = none ∧
    user.streak = none

/-- The session has the stored username and no streak yet. -/
def Filling (player : Player) (store : Backend) (d : Device) : Prop :=
  ∃ user, d.currentUser = some user ∧ user.email = player.key ∧
    user.username = player.stored store ∧ user.streak = none

/-- What a sign-in that awaits a call knows. -/
def Reached (platform : Platform) (player : Player) (store : Backend) (d : Device) :
    SignInTask → Prop
  | .login email => player.hasEmail platform email ∧
    (store.accounts email = true → HasAccount player store)
  | .register email | .registerSignIn email => player.hasEmail platform email
  | .readUserAccount user => sanitizedEmail user.email = player.key ∧ Fresh player d
  | .writeUserAccount user => sanitizedEmail user.email = player.key ∧ Fresh player d ∧
    get store.documents (userRef player.key) = none
  | .google user | .readGoogleAccount user => player.hasGoogle user
  | .restoreGoogle user | .readGoogleUsername user | .adoptGoogleUser user =>
    player.hasGoogle user ∧ HasAccount player store
  | .writeGoogleAccount user => player.hasGoogle user ∧
    get store.documents (userRef player.key) = none
  | .restoreFirebase user => sanitizedEmail user.email = player.key ∧ HasAccount player store
  | .readUsername email => sanitizedEmail email = player.key ∧ HasAccount player store ∧
    Fresh player d
  | .fetchUserStreak _ => HasAccount player store ∧ Filling player store d
  | .readStreak _ username => HasAccount player store ∧ Filling player store d ∧
    player.stored store = some username
  | .resetStreak _ username => HasAccount player store ∧ Filling player store d ∧
    player.stored store = some username ∧ player.streak store = 0

/-- What holds while a sign-in awaits a call. -/
structure SignInStage (platform : Platform) (player : Player) (store : Backend) (d : Device)
    (task : SignInTask) : Prop where
  base : Base platform player store d
  reached : Reached platform player store d task

variable {platform : Platform} {player : Player} {store store' : Backend} {d d' : Device}
variable {reply : Reply} {username : String}

/-- A user with nothing but the player's address. -/
theorem fresh_of_user {user : User} (present : d.currentUser = some user)
    (email : user.email = player.key) (unnamed : user.username = none)
    (uncounted : user.streak = none) : Fresh player d :=
  ⟨user, present, email, unnamed, uncounted⟩

theorem googleKey_of_hasGoogle {user : GIDGoogleUser} (mine : player.hasGoogle user) :
    googleKey user = player.key := by
  have keyed : user.email.map sanitizedEmail = some player.key := mine
  rw [googleKey, keyed]
  rfl

theorem email_of_hasGoogle {user : GIDGoogleUser} (mine : player.hasGoogle user) :
    (User.ofGoogleUser user).email = player.key := by
  have keyed : user.email.map sanitizedEmail = some player.key := mine
  simp [User.ofGoogleUser, keyed]

/-- Creating the account takes no username. -/
theorem base_created (base : Base platform player store d)
    (missing : get store.documents (userRef player.key) = none) :
    Base platform player
      { store with documents := set store.documents (userRef player.key) (userData player.key) }
      d := by
  refine base.of_account ?_ ?_ ?_ ?_
  · exact sameGame_of_set (by simp [streakRef, userRef]) (by simp [responseRef, userRef])
  · intro document stored
    rw [get_set_self] at stored
    cases stored
    exact ⟨keyed_userData _, rfl⟩
  · intro username stored
    simp only [Player.stored, get_set_self] at stored
    cases stored
  · intro _
    simp [Player.stored, missing]

/-- The session of a player whose streak has just been read or reset. -/
theorem loaded_of_streak {user : User} {streak : Int} (base : Base platform player store d)
    (account : HasAccount player store) (present : d.currentUser = some user)
    (email : user.email = player.key) (username : user.username = player.stored store)
    (loaded : user.streak = some streak) (stored : player.streak store = streak) :
    Loaded platform player store d := by
  refine ⟨⟨base, enrolled_of_account account, ?_⟩, ?_⟩
  · intro other same
    obtain rfl := Option.some.inj (present.symm.trans same)
    exact ⟨email, username, by rw [loaded, stored]; rfl⟩
  · intro other same _
    obtain rfl := Option.some.inj (present.symm.trans same)
    rw [loaded, stored]

/-- Without a username there is no streak to load. -/
theorem loaded_of_unnamed (base : Base platform player store d) (account : HasAccount player store)
    (filling : Filling player store d) (unnamed : player.stored store = none) :
    Loaded platform player store d := by
  obtain ⟨user, present, email, named, uncounted⟩ := filling
  have nothing := base.records.unnamed unnamed
  refine ⟨⟨base, enrolled_of_account account, ?_⟩, ?_⟩
  · intro other same
    obtain rfl := Option.some.inj (present.symm.trans same)
    exact ⟨email, named, by simp [uncounted, Player.streak, streakIn, nothing]⟩
  · intro other same isNamed
    obtain rfl := Option.some.inj (present.symm.trans same)
    rw [named, unnamed] at isNamed
    cases isNamed

/-- A new session is no news to the store. -/
theorem base_of_session (base : Base platform player store d) (currentUser : Option User) :
    Base platform player store { d with currentUser } :=
  base.of_same rfl ⟨base.kept.firebase, base.kept.google⟩

/-! ## From one await to the next -/

theorem readUserAccount_segment {user : FirebaseUser}
    (stage : SignInStage platform player store d (.readUserAccount user)) :
    After (SignInStage platform player) (Loaded platform player) store
      (SignInTask.resume (.readUserAccount user)
        (.snapshot (get store.documents (userRef player.key))) d) := by
  obtain ⟨base, mine, fresh⟩ := stage
  cases found : get store.documents (userRef player.key) with
  | none => exact ⟨base, mine, fresh, found⟩
  | some document =>
    obtain ⟨keyed, decodes⟩ := base.records.account document found
    obtain ⟨user, decoded⟩ := Option.isSome_iff_exists.mp decodes
    obtain ⟨email, uncounted, named⟩ := decode_keyed decoded keyed
    simp only [SignInTask.resume, decoded]
    refine ⟨base_of_session base _, by simp [HasAccount, found], user, rfl, email, ?_, uncounted⟩
    rw [named, Player.stored, found]
    rfl

theorem readGoogleAccount_segment {user : GIDGoogleUser}
    (stage : SignInStage platform player store d (.readGoogleAccount user)) :
    After (SignInStage platform player) (Loaded platform player) store
      (SignInTask.resume (.readGoogleAccount user)
        (.snapshot (get store.documents (userRef player.key))) d) := by
  obtain ⟨base, mine⟩ := stage
  cases found : get store.documents (userRef player.key) with
  | none => exact ⟨base, mine, found⟩
  | some document =>
    obtain ⟨_, decodes⟩ := base.records.account document found
    obtain ⟨stored, decoded⟩ := Option.isSome_iff_exists.mp decodes
    simp only [SignInTask.resume, decoded]
    exact ⟨base_of_session base _, mine, by simp [HasAccount, found]⟩

theorem readUsername_segment {email : String}
    (stage : SignInStage platform player store d (.readUsername email)) :
    After (SignInStage platform player) (Loaded platform player) store
      (SignInTask.resume (.readUsername email)
        (.snapshot (get store.documents (userRef player.key))) d) := by
  obtain ⟨base, _, account, user, present, keyed, unnamed, uncounted⟩ := stage
  simp only [SignInTask.resume, Device.assignUsername]
  cases named : player.stored store with
  | none =>
    rw [Player.stored] at named
    simp only [named]
    exact ⟨base, account, user, present, keyed, unnamed.trans named.symm, uncounted⟩
  | some username =>
    rw [Player.stored] at named
    simp only [named]
    refine ⟨base_of_session base _, account,
      { user with username := some username }, ?_, keyed, named.symm, uncounted⟩
    simp [Device.assign, present]

theorem fetchUserStreak_segment {email : String}
    (stage : SignInStage platform player store d (.fetchUserStreak email)) :
    After (SignInStage platform player) (Loaded platform player) store
      (SignInTask.resume (.fetchUserStreak email) reply d) := by
  obtain ⟨base, account, user, present, keyed, named, uncounted⟩ := stage
  have session : d.username = player.stored store := by simp [Device.username, present, named]
  simp only [SignInTask.resume, session]
  cases stored : player.stored store with
  | none => exact loaded_of_unnamed base account ⟨user, present, keyed, named, uncounted⟩ stored
  | some username => exact ⟨base, account, ⟨user, present, keyed, named, uncounted⟩, stored⟩

theorem readStreak_segment {email : String}
    (stage : SignInStage platform player store d (.readStreak email player.username)) :
    After (SignInStage platform player) (Loaded platform player) store
      (SignInTask.resume (.readStreak email player.username)
        (.snapshot (get store.documents (streakRef player.username))) d) := by
  obtain ⟨base, account, ⟨user, present, keyed, named, uncounted⟩, stored⟩ := stage
  simp only [SignInTask.resume]
  cases read : (get store.documents (streakRef player.username)).bind
      fun document => document.int "streak" with
  | some streak =>
    have session : (d.assignStreak streak).currentUser =
        some { user with streak := some streak } := by
      simp [Device.assignStreak, Device.assign, present]
    refine loaded_of_streak (base_of_session base _) account session keyed named rfl ?_
    simp [Player.streak, streakIn, read]
  | none =>
    have session : d.username = some player.username := by
      simp [Device.username, present, named, stored]
    simp only [Device.updateCurrentUsersStreak, session]
    exact ⟨base, account, ⟨user, present, keyed, named, uncounted⟩, stored, by
      simp [Player.streak, streakIn, read]⟩

/-- The reset stores the zero that was missing. -/
theorem resetStreak_segment {email : String}
    (stage : SignInStage platform player store d (.resetStreak email player.username)) :
    Loaded platform player
      { store with
        documents := setMerging store.documents (streakRef player.username)
          (streakData player.username 0) }
      (d.assignStreak 0) := by
  obtain ⟨base, account, ⟨user, present, keyed, named, uncounted⟩, stored, zero⟩ := stage
  have accountKept := streak_write_apart store player.username 0 (userRef player.key)
    (by simp [userRef])
  have session : (d.assignStreak 0).currentUser = some { user with streak := some 0 } := by
    simp [Device.assignStreak, Device.assign, present]
  have counted := base.counted
  rw [CountsOutcomes, zero] at counted
  refine loaded_of_streak ⟨records_streak base.records stored 0, ?_, base.kept.firebase,
    base.kept.google⟩ ?_ session keyed ?_ rfl (streak_write 0)
  · rw [CountsOutcomes, streak_write, streak_write_outcome]
    exact counted
  · rw [HasAccount, accountKept]
    exact account
  · rw [Player.stored, accountKept]
    exact named

theorem signIn_segment {task : SignInTask} (stage : SignInStage platform player store d task)
    (served : serve platform store task.call = some (store', reply)) :
    After (SignInStage platform player) (Loaded platform player) store' (task.resume reply d) := by
  obtain ⟨base, reached⟩ := stage
  cases task with
  | login email =>
    obtain ⟨mine, registered⟩ := reached
    simp only [SignInTask.call, serve] at served
    split at served <;> cases served
    refine ⟨base.of_same rfl ⟨?_, base.kept.google⟩, mine, registered ‹_›, ?_⟩
    · rintro user ⟨⟩
      exact mine
    · exact fresh_of_user rfl mine rfl rfl
  | register email =>
    simp only [SignInTask.call, serve] at served
    split at served <;> cases served
    have same : SameGame store { store with accounts := update store.accounts email true } :=
      ⟨fun _ => rfl, fun _ _ => rfl⟩
    refine ⟨(base.of_account same base.records.account base.records.username id).of_same rfl
      ⟨?_, base.kept.google⟩, reached⟩
    rintro user ⟨⟩
    exact reached
  | registerSignIn email =>
    simp only [SignInTask.call, serve] at served
    split at served <;> cases served
    refine ⟨base.of_same rfl ⟨?_, base.kept.google⟩, reached, fresh_of_user rfl reached rfl rfl⟩
    rintro user ⟨⟩
    exact reached
  | readUserAccount user =>
    cases served
    simp only [reached.1]
    exact readUserAccount_segment ⟨base, reached⟩
  | writeUserAccount user =>
    obtain ⟨mine, fresh, missing⟩ := reached
    cases served
    simp only [mine]
    refine ⟨base_created base missing, by simp [HasAccount], ?_⟩
    obtain ⟨user, present, email, unnamed, uncounted⟩ := fresh
    refine ⟨user, present, email, ?_, uncounted⟩
    rw [unnamed, Player.stored, get_set_self]
    rfl
  | google user =>
    cases served
    have mine : player.hasGoogle user := reached
    obtain ⟨email, address, _⟩ := Option.map_eq_some_iff.mp mine
    simp only [SignInTask.resume, address, Option.isSome_some, if_true]
    refine ⟨base.of_same rfl ⟨base.kept.firebase, ?_⟩, mine⟩
    rintro user ⟨⟩
    exact mine
  | readGoogleAccount user =>
    cases served
    simp only [googleKey_of_hasGoogle reached]
    exact readGoogleAccount_segment ⟨base, reached⟩
  | readGoogleUsername user =>
    cases served
    refine ⟨?_, reached⟩
    simp only [Device.assignUsername]
    split
    · exact base_of_session base _
    · exact base
  | writeGoogleAccount user =>
    obtain ⟨mine, missing⟩ := reached
    cases served
    have keyed : user.email.map sanitizedEmail = some player.key := mine
    simp only [googleKey_of_hasGoogle mine, keyed, Option.getD_some]
    refine ⟨base_of_session (base_created base missing) _,
      (ofGoogleUser_email user).symm.trans (email_of_hasGoogle mine), by simp [HasAccount], ?_⟩
    exact fresh_of_user rfl (email_of_hasGoogle mine) rfl rfl
  | adoptGoogleUser user =>
    obtain ⟨mine, account⟩ := reached
    cases served
    exact ⟨base_of_session base _,
      (ofGoogleUser_email user).symm.trans (email_of_hasGoogle mine), account,
      fresh_of_user rfl (email_of_hasGoogle mine) rfl rfl⟩
  | restoreFirebase user =>
    obtain ⟨mine, account⟩ := reached
    cases served
    exact ⟨base_of_session base _, mine, account, fresh_of_user rfl mine rfl rfl⟩
  | restoreGoogle user =>
    obtain ⟨mine, account⟩ := reached
    cases served
    exact ⟨base.of_same rfl ⟨base.kept.firebase, base.kept.google⟩,
      (ofGoogleUser_email user).symm.trans (email_of_hasGoogle mine), account,
      fresh_of_user rfl (email_of_hasGoogle mine) rfl rfl⟩
  | readUsername email =>
    cases served
    simp only [reached.1]
    exact readUsername_segment ⟨base, reached⟩
  | fetchUserStreak email =>
    cases served
    exact fetchUserStreak_segment ⟨base, reached⟩
  | readStreak email username =>
    cases served
    obtain rfl := base.records.username username reached.2.2
    exact readStreak_segment ⟨base, reached⟩
  | resetStreak email username =>
    cases served
    obtain rfl := base.records.username username reached.2.2.1
    exact resetStreak_segment ⟨base, reached⟩

end DailyTrivia
