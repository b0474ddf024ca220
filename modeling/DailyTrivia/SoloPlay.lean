import DailyTrivia.SoloSignIn

/-!
Everything else a player does: answering, choosing a username, asking for a review, signing out
and coming back. `Stage` is what holds at each await of a task, `segment` that every await leads
to the next or to a settled end, and `react_settled` how a task begins.
-/
namespace DailyTrivia

open Async (After)
open Documents Streaks

variable {platform : Platform} {player : Player} {store store' : Backend} {d d' : Device}
variable {reply : Reply} {username : String}

/-! ## Playing -/

theorem Settled.of_agree (settled : Settled platform player store d) (day : d'.day = d.day)
    (firebase : d'.firebaseUser = d.firebaseUser) (google : d'.savedGoogleUser = d.savedGoogleUser)
    (session : d'.currentUser = d.currentUser) : Settled platform player store d' where
  base := settled.base.of_same day
    ⟨by rw [firebase]; exact settled.base.kept.firebase,
      by rw [google]; exact settled.base.kept.google⟩
  enrolled := ⟨by rw [firebase]; exact settled.enrolled.firebase,
    by rw [google]; exact settled.enrolled.google, by rw [session]; exact settled.enrolled.session,
    settled.enrolled.registered⟩
  session := by rw [session]; exact settled.session

theorem Settled.of_views (settled : Settled platform player store d) (only : OnlyViews d d') :
    Settled platform player store d' := by
  obtain ⟨_, _, rfl⟩ := only
  exact settled.of_agree rfl rfl rfl rfl

/-- The name a session has is the player's, and stored. -/
theorem Settled.named (settled : Settled platform player store d)
    (named : d.username = some username) :
    username = player.username ∧ player.stored store = some username ∧
      d.streak.getD 0 = player.streak store := by
  obtain ⟨user, present, named⟩ := Option.bind_eq_some_iff.mp named
  obtain ⟨_, stored, streak⟩ := settled.session user present
  rw [named] at stored
  refine ⟨settled.base.records.username username stored.symm, stored.symm, ?_⟩
  simpa [Device.streak, present] using streak

/-- A response is stored whose streak update is to come. -/
structure Outstanding (platform : Platform) (player : Player) (store : Backend) (d : Device)
    (streak : Int) : Prop where
  records : Records platform player store d.day
  kept : Kept player d
  account : HasAccount player store
  stored : player.stored store = some player.username
  session : ∃ user, d.currentUser = some user ∧ user.email = player.key ∧
    user.username = some player.username
  next : streak = trailing (outcomesTo (player.outcome platform store) d.day)

/-- What holds while a submission awaits a call. -/
def SubmitStage (platform : Platform) (player : Player) (store : Backend) (d : Device) :
    SubmitTask → Prop
  | .submitAnswer => Settled platform player store d ∧ get store.documents
    (responseRef player.username (platform.dateFormattedForDb d.day)) = none
  | .writeResponse _ _ username today => Settled platform player store d ∧
    d.username = some username ∧ today = platform.dateFormattedForDb d.day ∧
    get store.documents (responseRef player.username today) = none
  | .updateStreak streak => Outstanding platform player store d streak
  | .writeStreak username streak => Outstanding platform player store d streak ∧
    username = player.username

theorem submitAnswer_username {v : ℕ} {memory : Device} {question : TriviaQuestion}
    {answerText : String}
    (asked : d.submitAnswer v = (memory, some (question, answerText, username))) :
    d.username = some username := by
  simp only [Device.submitAnswer] at asked
  split at asked
  · cases asked
  · split at asked
    · cases asked
    · have submitted := congrArg Prod.snd asked
      split at submitted
      · cases submitted
        assumption
      · cases submitted

section Response

variable {day : ℕ} (response : Doc)

theorem get_of_response (ref : DocumentRef)
    (different : ∀ username, ref.collection ≠ .responses username) (slot : String) :
    get (set store.documents (responseRef username slot) response) ref =
      get store.documents ref := by
  refine get_set_ne ?_
  rintro rfl
  exact different username rfl

theorem get_of_otherDay {other : ℕ} (different : other ≠ day) :
    get (set store.documents (responseRef username (platform.dateFormattedForDb day)) response)
      (responseRef username (platform.dateFormattedForDb other)) =
    get store.documents (responseRef username (platform.dateFormattedForDb other)) :=
  get_set_ne fun same =>
    different (platform.dateFormattedForDb_injective (congrArg Ref.id same))

/-- A response of the current day leaves the records in order. -/
theorem records_of_response (records : Records platform player store day)
    (stored : player.stored store = some player.username) :
    Records platform player ⟨set store.documents
      (responseRef player.username (platform.dateFormattedForDb day)) response,
      store.accounts⟩ day := by
  constructor
  case account =>
    intro document found
    rw [get_of_response response _ (by simp [userRef])] at found
    exact records.account document found
  case username =>
    intro username chosen
    rw [Player.stored, get_of_response response _ (by simp [userRef])] at chosen
    exact records.username username chosen
  case unnamed =>
    intro unnamed
    rw [Player.stored, get_of_response response _ (by simp [userRef])] at unnamed
    rw [Player.stored, unnamed] at stored
    cases stored
  case ahead =>
    intro later after
    rw [get_of_otherDay response (by omega)]
    exact records.ahead later after
  case sole =>
    intro username document found
    rw [get_of_response response _ (by simp [streakRef])] at found
    exact records.sole username document found

/-- The first response of the current day is one more outcome. -/
theorem outcomes_of_response {question : TriviaQuestion} {answerText : String}
    (unplayed : get store.documents
      (responseRef player.username (platform.dateFormattedForDb day)) = none) :
    trailing (outcomesTo (player.outcome platform ⟨set store.documents
      (responseRef player.username (platform.dateFormattedForDb day))
      (responseData platform question answerText player.username), store.accounts⟩) day) =
    if isCorrect platform question answerText then
      trailing (outcomesTo (player.outcome platform store) day) + 1 else 0 := by
  have before : player.outcome platform store day = none := by
    rw [Player.outcome, unplayed]
    rfl
  have answered : player.outcome platform ⟨set store.documents
      (responseRef player.username (platform.dateFormattedForDb day))
      (responseData platform question answerText player.username), store.accounts⟩ day =
      some (isCorrect platform question answerText) := by
    simp only [Player.outcome, get_set_self]
    rfl
  rw [outcomesTo_answered before answered fun other different => by
    simp only [Player.outcome]
    rw [get_of_otherDay _ different], trailing_concat]

end Response

/-- The response of an open day is stored. -/
theorem outstanding_of_response (question : TriviaQuestion) (answerText : String)
    (settled : Settled platform player store d) (named : d.username = some player.username)
    (unplayed : get store.documents
      (responseRef player.username (platform.dateFormattedForDb d.day)) = none) :
    Outstanding platform player ⟨set store.documents
      (responseRef player.username (platform.dateFormattedForDb d.day))
      (responseData platform question answerText player.username), store.accounts⟩ d
      (if isCorrect platform question answerText then d.streak.getD 0 + 1 else 0) := by
  obtain ⟨_, stored, streak⟩ := settled.named named
  obtain ⟨user, present, isNamed⟩ := Option.bind_eq_some_iff.mp named
  constructor
  case records => exact records_of_response _ settled.base.records stored
  case kept => exact settled.base.kept
  case account =>
    rw [HasAccount, get_of_response _ _ (by simp [userRef])]
    exact settled.enrolled.session (by simp [present])
  case stored =>
    rw [Player.stored, get_of_response _ _ (by simp [userRef])]
    exact stored
  case session => exact ⟨user, present, (settled.session user present).email, isNamed⟩
  case next =>
    rw [outcomes_of_response unplayed, streak, settled.base.counted]
    split <;> simp

theorem submit_segment (v : ℕ) {task : SubmitTask}
    (stage : SubmitStage platform player store d task)
    (served : serve platform store (task.call platform) = some (store', reply)) :
    After (SubmitStage platform player) (Settled platform player) store'
      (task.resume platform v reply d) := by
  cases task with
  | submitAnswer =>
    obtain ⟨settled, unplayed⟩ := stage
    cases served
    have only := (submitAnswer_frame v d).onlyViews
    cases asked : d.submitAnswer v with
    | mk memory submission =>
      rw [asked] at only
      cases submission with
      | none =>
        simp only [SubmitTask.resume, asked]
        exact settled.of_views only
      | some submission =>
        obtain ⟨question, answerText, username⟩ := submission
        simp only [SubmitTask.resume, asked]
        have named := submitAnswer_username asked
        obtain ⟨_, _, rfl⟩ := only
        exact ⟨settled.of_agree rfl rfl rfl rfl, named, rfl, unplayed⟩
  | writeResponse question answerText username today =>
    obtain ⟨settled, named, rfl, unplayed⟩ := stage
    cases served
    obtain ⟨rfl, _, _⟩ := settled.named named
    have outstanding := outstanding_of_response question answerText settled named unplayed
    exact ⟨outstanding.records, ⟨outstanding.kept.firebase, outstanding.kept.google⟩,
      outstanding.account, outstanding.stored, outstanding.session, outstanding.next⟩
  | updateStreak streak =>
    cases served
    obtain ⟨user, present, email, named⟩ := stage.session
    have session : d.username = some player.username := by simp [Device.username, present, named]
    simp only [SubmitTask.resume, Device.updateCurrentUsersStreak, session]
    exact ⟨stage, rfl⟩
  | writeStreak username streak =>
    obtain ⟨outstanding, rfl⟩ := stage
    cases served
    obtain ⟨user, present, email, named⟩ := outstanding.session
    have account := streak_write_apart store player.username streak (userRef player.key)
      (by simp [userRef])
    refine ⟨⟨records_streak outstanding.records outstanding.stored streak, ?_,
      outstanding.kept.firebase, outstanding.kept.google⟩, enrolled_of_account ?_, ?_⟩
    · rw [CountsOutcomes, streak_write, streak_write_outcome]
      exact outstanding.next
    · rw [HasAccount, account]
      exact outstanding.account
    · intro other session
      simp only [Device.onView_currentUser, Device.assignStreak_currentUser, present, Option.map_some,
        Option.some.injEq] at session
      subst session
      refine ⟨email, ?_, ?_⟩
      · rw [Player.stored, account]
        exact named.trans outstanding.stored.symm
      · rw [streak_write]
        rfl

/-! ## Everything else -/

/-- What holds while a username is submitted. -/
def UsernameStage (platform : Platform) (player : Player) (store : Backend) (d : Device) :
    UsernameTask → Prop
  | .submitUsername username => Settled platform player store d ∧ username = player.username
  | .writeUsername key username => Settled platform player store d ∧ key = player.key ∧
    username = player.username ∧ d.currentUser.isSome = true

theorem username_segment (v : ℕ) {task : UsernameTask}
    (stage : UsernameStage platform player store d task)
    (served : serve platform store task.call = some (store', reply)) :
    After (UsernameStage platform player) (Settled platform player) store'
      (task.resume v reply d) := by
  cases task with
  | submitUsername username =>
    obtain ⟨settled, chosen⟩ := stage
    cases served
    cases present : d.currentUser with
    | none =>
      simp only [UsernameTask.resume, Device.submitUsername, Device.account, present, Option.map_none]
      exact settled.of_views .onView
    | some user =>
      simp only [UsernameTask.resume, Device.submitUsername, Device.account, present, Option.map_some]
      refine ⟨settled.of_views .onView, ?_, chosen, ?_⟩
      · rw [(settled.session user present).email]
        exact sanitizedEmail_sanitizedEmail player.email
      · simp [present]
  | writeUsername key username =>
    obtain ⟨settled, rfl, rfl, signedIn⟩ := stage
    cases served
    obtain ⟨user, present⟩ := Option.isSome_iff_exists.mp signedIn
    obtain ⟨old, account⟩ := Option.isSome_iff_exists.mp (settled.enrolled.session signedIn)
    obtain ⟨keyed, decodes⟩ := settled.base.records.account old account
    obtain ⟨copy, decoded⟩ := Option.isSome_iff_exists.mp decodes
    have same : SameGame store ⟨setMerging store.documents (userRef player.key)
        (usernameData player.username), store.accounts⟩ :=
      sameGame_of_set (by simp [streakRef, userRef]) (by simp [responseRef, userRef])
    have stored : player.stored ⟨setMerging store.documents (userRef player.key)
        (usernameData player.username), store.accounts⟩ = some player.username := by
      simp only [Player.stored, get_setMerging_self, Option.bind_some]
      exact string_eq_some.mpr (mergeInto_of_some rfl)
    have base := settled.base.of_account same
      (by
        intro document found
        rw [get_setMerging_self, account] at found
        cases found
        refine ⟨keyed_named fun _ same => ?_, by rw [decode_named decoded]; rfl⟩
        cases same
        exact keyed)
      (by
        intro username chosen
        rw [stored] at chosen
        exact (Option.some.inj chosen).symm)
      (by
        intro unnamed
        rw [stored] at unnamed
        cases unnamed)
    refine ⟨base.of_same rfl ⟨base.kept.firebase, base.kept.google⟩,
      enrolled_of_account (by simp [HasAccount]), ?_⟩
    intro other session
    simp only [Device.onView_currentUser, Device.assign, present, Option.map_some,
      Option.some.injEq] at session
    subst session
    refine ⟨(settled.session user present).email, stored.symm, ?_⟩
    rw [same.of_streak_same]
    exact (settled.session user present).streak

/-- A review is stored. -/
theorem Settled.of_review (settled : Settled platform player store d) (username : String)
    (document : Doc) : Settled platform player
      ⟨set store.documents (manualReviewRef username) document, store.accounts⟩ d := by
  have same : SameGame store
      ⟨set store.documents (manualReviewRef username) document, store.accounts⟩ :=
    sameGame_of_set (by simp [streakRef, manualReviewRef]) (by simp [responseRef, manualReviewRef])
  have account : get (set store.documents (manualReviewRef username) document)
      (userRef player.key) = get store.documents (userRef player.key) :=
    get_set_ne (by simp [userRef, manualReviewRef])
  have stored : player.stored ⟨set store.documents (manualReviewRef username) document,
      store.accounts⟩ = player.stored store := by rw [Player.stored, account, Player.stored]
  have exists_iff : HasAccount player ⟨set store.documents (manualReviewRef username) document,
      store.accounts⟩ ↔ HasAccount player store := by rw [HasAccount, account, HasAccount]
  refine ⟨settled.base.of_account same ?_ ?_ ?_, ?_, fun user present => ?_⟩
  · rw [account]
    exact settled.base.records.account
  · rw [stored]
    exact settled.base.records.username
  · rw [stored]
    exact id
  · exact ⟨fun kept => exists_iff.mpr (settled.enrolled.firebase kept),
      fun kept => exists_iff.mpr (settled.enrolled.google kept),
      fun kept => exists_iff.mpr (settled.enrolled.session kept),
      fun email mine registered => exists_iff.mpr (settled.enrolled.registered email mine registered)⟩
  · obtain ⟨email, username, streak⟩ := settled.session user present
    exact ⟨email, username.trans stored.symm, streak.trans same.of_streak_same.symm⟩

/-- What holds while a task awaits a call. -/
def Stage (platform : Platform) (player : Player) (store : Backend) (d : Device) : Task → Prop
  | .signIn task => SignInStage platform player store d task
  | .submit _ task => SubmitStage platform player store d task
  | .enterUsername _ task => UsernameStage platform player store d task
  | .load _ _ | .review _ _ | .logout _ _ => Settled platform player store d

/-- A task that keeps everything settled from await to await. -/
theorem after_of_settled {T : Type} {result : Device × Option T}
    (settled : Settled platform player store result.1) :
    After (fun store d _ => Settled platform player store d) (Settled platform player) store
      result := by
  obtain ⟨memory, next⟩ := result
  cases next <;> exact settled

theorem review_segment (v : ℕ) {task : ReviewTask} (settled : Settled platform player store d)
    (served : serve platform store task.call = some (store', reply)) :
    After (fun store d _ => Settled platform player store d) (Settled platform player) store'
      (task.resume platform v reply d) := by
  refine after_of_settled (Settled.of_views ?_ (review_frame v task reply d).onlyViews)
  cases task with
  | writeReview form userNote today =>
    cases served
    exact settled.of_review _ _
  | _ =>
    cases served
    exact settled

theorem load_segment (v : ℕ) {task : LoadTask} (settled : Settled platform player store d)
    (served : serve platform store task.call = some (store', reply)) :
    After (fun store d _ => Settled platform player store d) (Settled platform player) store'
      (task.resume platform v reply d) := by
  refine after_of_settled (Settled.of_views ?_ (load_frame v task reply d))
  cases task <;> cases served <;> exact settled

theorem Settled.of_logout (settled : Settled platform player store d) (signOutThrows : Bool) :
    Settled platform player store (d.logout signOutThrows) := by
  have base := settled.base
  have enrolled := settled.enrolled
  refine ⟨base.of_same rfl ⟨?_, ?_⟩, ⟨?_, ?_, nofun, enrolled.registered⟩, nofun⟩
  · cases signOutThrows
    · nofun
    · exact base.kept.firebase
  · intro user kept
    simp only [Device.logout] at kept
    split at kept
    · cases kept
    · exact base.kept.google user kept
  · cases signOutThrows
    · nofun
    · exact enrolled.firebase
  · intro kept
    simp only [Device.logout] at kept
    split at kept
    · cases kept
    · exact enrolled.google kept

/-- A segment of a task leads to its next await, or to the end of the episode. -/
theorem segment {task : Task} (stage : Stage platform player store d task)
    (served : serve platform store (call platform task) = some (store', reply)) :
    After (Stage platform player) (Settled platform player) store'
      (resume platform task reply d) := by
  cases task with
  | signIn task =>
    have ended := signIn_segment stage served
    exact (ended.imp (fun _ _ _ => id) fun _ _ => Loaded.settled).map Task.signIn
  | load v task => exact (load_segment v stage served).map (Task.load v)
  | submit v task => exact (submit_segment v stage served).map (Task.submit v)
  | enterUsername v task => exact (username_segment v stage served).map (Task.enterUsername v)
  | review v task => exact (review_segment v stage served).map (Task.review v)
  | logout v signOutThrows =>
    cases served
    have left : Settled platform player store ((d.onView v fun view =>
        { view with isLoading := true }).logout signOutThrows) :=
      Settled.of_logout (stage.of_views .onView) signOutThrows
    simp only [resume]
    split <;> exact left.of_views .onView

/-! ## Events -/

/-- Apart from midnight, an event leaves the clock and the accounts of a device alone. -/
theorem react_frame {event : Event} {next : Option Task}
    (reacted : react platform event d = some (d', next)) (awake : event ≠ .midnight) :
    d'.day = d.day ∧ d'.firebaseUser = d.firebaseUser ∧ d'.savedGoogleUser = d.savedGoogleUser ∧
      d'.currentUser = d.currentUser := by
  cases reacts_of_react reacted with
  | midnight => exact absurd rfl awake
  | _ => exact ⟨rfl, rfl, rfl, rfl⟩

/-- A day passes, and nothing was answered on it yet. -/
theorem Settled.of_midnight (settled : Settled platform player store d) :
    Settled platform player store { d with day := d.day + 1 } := by
  have records := settled.base.records
  have unplayed : player.outcome platform store (d.day + 1) = none := by
    rw [Player.outcome, records.ahead (d.day + 1) (by omega)]
    rfl
  have base : Base platform player store { d with day := d.day + 1 } := by
    refine ⟨⟨records.account, records.username, records.unnamed, ?_, records.sole⟩, ?_,
      settled.base.kept.firebase, settled.base.kept.google⟩
    · intro later after
      have after' : d.day + 1 < later := after
      exact records.ahead later (by omega)
    · have counted := settled.base.counted
      rw [CountsOutcomes] at counted ⊢
      rw [trailing_succ, unplayed]
      exact counted
  have enrolled := settled.enrolled
  exact ⟨base, ⟨enrolled.firebase, enrolled.google, enrolled.session, enrolled.registered⟩,
    settled.session⟩

/-- An event of the player leaves everything settled, or begins a task. -/
theorem react_settled {event : Event} {next : Option Task}
    (settled : Settled platform player store d)
    (makes : player.makes platform store d event = true)
    (reacted : react platform event d = some (d', next)) :
    match next with
    | some task => Stage platform player store d' task
    | none => Settled platform player store d' := by
  by_cases asleep : event = .midnight
  · subst asleep
    cases reacted
    exact settled.of_midnight
  · obtain ⟨day, firebase, google, session⟩ := react_frame reacted asleep
    have settled' := settled.of_agree day firebase google session
    cases next with
    | none => exact settled'
    | some task =>
      cases begins_of_react reacted with
      | restoreFirebase kept =>
        exact ⟨settled'.base, settled.base.kept.firebase _ kept,
          settled.enrolled.firebase (by simp [kept])⟩
      | restoreGoogle _ kept =>
        exact ⟨settled'.base, settled.base.kept.google _ kept,
          settled.enrolled.google (by simp [kept])⟩
      | login _ =>
        have mine : player.hasEmail platform _ := of_decide_eq_true makes
        exact ⟨settled'.base, mine, settled.enrolled.registered _ mine⟩
      | register _ =>
        have mine : player.hasEmail platform _ := of_decide_eq_true makes
        exact ⟨settled'.base, mine⟩
      | google _ =>
        have mine : player.hasGoogle _ := of_decide_eq_true makes
        exact ⟨settled'.base, mine⟩
      | submit _ _ _ =>
        refine ⟨settled', ?_⟩
        rw [day]
        simpa [Player.makes] using makes
      | username _ _ => exact ⟨settled', by simpa [Player.makes] using makes⟩
      | load _ | logout _ | review _ _ => exact settled'

theorem Settled.of_relaunch (settled : Settled platform player store d) :
    Settled platform player store (relaunch d) := by
  have base := settled.base
  have enrolled := settled.enrolled
  exact ⟨base.of_same rfl ⟨base.kept.firebase, base.kept.google⟩,
    ⟨enrolled.firebase, enrolled.google, nofun, enrolled.registered⟩, nofun⟩

end DailyTrivia
