import DailyTrivia.Accounts
import DailyTrivia.Readback
import DailyTrivia.Leaderboard
import DailyTrivia.Streaks

/-!
One player on one device, with nothing failing and one thing happening at a time. A history
is a sequence of episodes: an event with its whole task, every call answered, or a relaunch.
Days pass, questions are loaded and answered or not, and the player signs in and out at will,
by e-mail, with Google or by relaunching.

`Settled` is what holds between episodes: the session agrees with what is stored, and what is
stored with the outcomes of the days.
-/
namespace DailyTrivia

open Async (After)
open Documents Runs Streaks

/-- An address of the account and the username it chooses. -/
structure Player where
  email : String
  username : String

/-- The users document of the player. -/
def Player.key (player : Player) : String := sanitizedEmail player.email

/-- The e-mail signs in to the player's account. -/
def Player.hasEmail (platform : Platform) (player : Player) (email : String) : Prop :=
  sanitizedEmail (platform.firebaseUser email).email = player.key

instance {platform : Platform} {player : Player} {email : String} :
    Decidable (player.hasEmail platform email) :=
  inferInstanceAs (Decidable (_ = _))

/-- The Google account is the player's. -/
def Player.hasGoogle (player : Player) (user : GIDGoogleUser) : Prop :=
  user.email.map sanitizedEmail = some player.key

instance {player : Player} {user : GIDGoogleUser} : Decidable (player.hasGoogle user) :=
  inferInstanceAs (Decidable (_ = _))

/-- The event is the player's own, and a day is played once. -/
def Player.makes (platform : Platform) (player : Player) (store : Backend) (d : Device) :
    Event → Bool
  | .tapLogin email _ | .tapRegister email _ => player.hasEmail platform email
  | .tapGoogle user => player.hasGoogle user
  | .tapSubmitUsername _ username => username = player.username
  | .tapSubmitAnswer _ _ =>
    (get store.documents (responseRef player.username (platform.dateFormattedForDb d.day))).isNone
  | _ => true

inductive Episode where
  /-- An event and, under this number, its task with this many awaits. -/
  | event (event : Event) (number count : ℕ)
  | relaunch

/-- An episode that is carried out to its end. -/
def perform (platform : Platform) (player : Player) (site : ℕ) (w : World) :
    Episode → Option World
  | .event event number count =>
    if player.makes platform w.store (w.sites site) event then
      (execute (step platform) w (Async.uninterrupted site event number count)).filter
        fun w' => (w'.pool number).isNone
    else none
  | .relaunch => step platform w (.restart site)

/-! ## What is stored of the player -/

/-- The username stored for the player. -/
def Player.stored (player : Player) (store : Backend) : Option String :=
  (get store.documents (userRef player.key)).bind fun document => document.string "username"

/-- The player's stored streak, 0 if there is none. -/
def Player.streak (player : Player) (store : Backend) : Int :=
  streakIn store.documents player.username

/-- The outcome of the response the player has stored for a day. -/
def Player.outcome (platform : Platform) (player : Player) (store : Backend) (day : ℕ) :
    Option Bool :=
  (get store.documents (responseRef player.username (platform.dateFormattedForDb day))).bind
    fun document => document.bool "answerOutcome"

/-- The documents of the player are well kept up to `day`. -/
structure Records (platform : Platform) (player : Player) (store : Backend) (day : ℕ) : Prop where
  account : ∀ document, get store.documents (userRef player.key) = some document →
    Keyed player.key document ∧ (User.decode document).isSome = true
  username : ∀ username, player.stored store = some username → username = player.username
  /-- Nothing is stored under a username that is not chosen yet. -/
  unnamed : player.stored store = none →
    get store.documents (streakRef player.username) = none
  /-- The days to come are not answered. -/
  ahead : ∀ later, day < later → get store.documents
    (responseRef player.username (platform.dateFormattedForDb later)) = none
  /-- A streak is the player's, and names its user. -/
  sole : ∀ username document, get store.documents (streakRef username) = some document →
    username = player.username ∧ document.string "username" = some username

/-- The stored streak is the outcomes of the days, counted. -/
def CountsOutcomes (platform : Platform) (player : Player) (store : Backend) (day : ℕ) : Prop :=
  player.streak store = trailing (outcomesTo (player.outcome platform store) day)

/-- The sign-ins that are kept across launches are the player's. -/
structure Kept (player : Player) (d : Device) : Prop where
  firebase : ∀ user, d.firebaseUser = some user → sanitizedEmail user.email = player.key
  google : ∀ user, d.savedGoogleUser = some user → player.hasGoogle user

structure Base (platform : Platform) (player : Player) (store : Backend) (d : Device) : Prop where
  records : Records platform player store d.day
  counted : CountsOutcomes platform player store d.day
  kept : Kept player d

def HasAccount (player : Player) (store : Backend) : Prop :=
  (get store.documents (userRef player.key)).isSome = true

/-- Whoever can be signed in without a new account has one. -/
structure Enrolled (platform : Platform) (player : Player) (store : Backend) (d : Device) : Prop where
  firebase : d.firebaseUser.isSome = true → HasAccount player store
  google : d.savedGoogleUser.isSome = true → HasAccount player store
  session : d.currentUser.isSome = true → HasAccount player store
  registered : ∀ email, player.hasEmail platform email → store.accounts email = true →
    HasAccount player store

/-- A session is the player's, with what is stored. -/
structure Mirrors (player : Player) (store : Backend) (user : User) : Prop where
  email : user.email = player.key
  username : user.username = player.stored store
  streak : user.streak.getD 0 = player.streak store

/-- What holds between episodes. -/
structure Settled (platform : Platform) (player : Player) (store : Backend) (d : Device) :
    Prop where
  base : Base platform player store d
  enrolled : Enrolled platform player store d
  session : ∀ user, d.currentUser = some user → Mirrors player store user

/-- What holds after a sign-in: the streak is there. -/
structure Loaded (platform : Platform) (player : Player) (store : Backend) (d : Device) :
    Prop where
  settled : Settled platform player store d
  loaded : ∀ user, d.currentUser = some user → user.username.isSome = true →
    user.streak = some (player.streak store)
/-! ## What a write leaves alone -/

variable {platform : Platform} {player : Player} {store store' : Backend} {d d' : Device}
variable {reply : Reply} {username : String}

theorem Base.of_same (base : Base platform player store d) (day : d'.day = d.day)
    (kept : Kept player d') : Base platform player store d' where
  records := day ▸ base.records
  counted := day ▸ base.counted
  kept := kept

theorem enrolled_of_account (account : HasAccount player store) :
    Enrolled platform player store d where
  firebase _ := account
  google _ := account
  session _ := account
  registered _ _ _ := account

/-- Streaks and responses are left as they are. -/
structure SameGame (store store' : Backend) : Prop where
  streak : ∀ username, get store'.documents (streakRef username) =
    get store.documents (streakRef username)
  response : ∀ username day, get store'.documents (responseRef username day) =
    get store.documents (responseRef username day)

theorem SameGame.of_streak_same (same : SameGame store store') :
    player.streak store' = player.streak store := by
  simp only [Player.streak, streakIn, same.streak]

theorem SameGame.outcome (same : SameGame store store') :
    player.outcome platform store' = player.outcome platform store := by
  funext day
  simp only [Player.outcome, same.response]

/-- A write to another collection. -/
theorem sameGame_of_set {ref : DocumentRef} {document : Doc} {accounts : String → Bool}
    (streak : ∀ username, streakRef username ≠ ref)
    (response : ∀ username day, responseRef username day ≠ ref) :
    SameGame store { documents := set store.documents ref document, accounts } where
  streak username := get_set_ne (streak username)
  response username day := get_set_ne (response username day)

/-- What is written to the player's account. -/
theorem Base.of_account (base : Base platform player store d) (same : SameGame store store')
    (account : ∀ document, get store'.documents (userRef player.key) = some document →
      Keyed player.key document ∧ (User.decode document).isSome = true)
    (username : ∀ username, player.stored store' = some username → username = player.username)
    (unnamed : player.stored store' = none → player.stored store = none) :
    Base platform player store' d where
  kept := base.kept
  counted := by
    rw [CountsOutcomes, same.of_streak_same, same.outcome]
    exact base.counted
  records := {
    account
    username
    unnamed := fun none => (same.streak _).trans (base.records.unnamed (unnamed none))
    ahead := fun later after => (same.response _ _).trans (base.records.ahead later after)
    sole := fun username document stored =>
      base.records.sole username document ((same.streak username).symm.trans stored) }

/-- A streak's write leaves accounts and responses alone. -/
theorem streak_write_apart (store : Backend) (username : String) (streak : Int)
    (ref : DocumentRef) (apart : ref.collection ≠ .streaks) :
    get (setMerging store.documents (streakRef username) (streakData username streak)) ref =
      get store.documents ref := by
  refine get_setMerging_ne ?_
  rintro rfl
  exact apart rfl

theorem streak_write (streak : Int) :
    player.streak ⟨setMerging store.documents (streakRef player.username)
      (streakData player.username streak), store.accounts⟩ = streak := by
  have written : (mergeInto (streakData player.username streak)
      (get store.documents (streakRef player.username))).int "streak" = some streak :=
    int_of_some (mergeInto_of_some rfl)
  simp [Player.streak, streakIn, written]

theorem streak_write_outcome (streak : Int) :
    player.outcome platform ⟨setMerging store.documents (streakRef player.username)
      (streakData player.username streak), store.accounts⟩ = player.outcome platform store := by
  funext day
  simp only [Player.outcome]
  rw [streak_write_apart store player.username streak _ (by simp [responseRef])]

/-- The records of a player with a username, after a streak is written for it. -/
theorem records_streak {day : ℕ} (records : Records platform player store day)
    (stored : player.stored store = some player.username) (streak : Int) :
    Records platform player ⟨setMerging store.documents (streakRef player.username)
      (streakData player.username streak), store.accounts⟩ day := by
  have account := streak_write_apart store player.username streak (userRef player.key)
    (by simp [userRef])
  have response := fun day => streak_write_apart store player.username streak
    (responseRef player.username day) (by simp [responseRef])
  have same : player.stored ⟨setMerging store.documents (streakRef player.username)
      (streakData player.username streak), store.accounts⟩ = some player.username := by
    rw [← stored, Player.stored, account]
    rfl
  constructor
  case account =>
    intro document found
    rw [account] at found
    exact records.account document found
  case username =>
    intro username chosen
    rw [same] at chosen
    exact (Option.some.inj chosen).symm
  case unnamed =>
    intro unnamed
    rw [same] at unnamed
    cases unnamed
  case ahead =>
    intro later after
    rw [response]
    exact records.ahead later after
  case sole =>
    intro username document found
    by_cases here : username = player.username
    · subst here
      rw [get_setMerging_self] at found
      cases found
      exact ⟨rfl, string_eq_some.mpr (mergeInto_of_some rfl)⟩
    · have apart : streakRef username ≠ streakRef player.username := by
        simpa [streakRef] using here
      rw [get_setMerging_ne apart] at found
      exact records.sole username document found

end DailyTrivia
