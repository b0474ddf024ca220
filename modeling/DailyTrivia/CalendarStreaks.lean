import DailyTrivia.Clock
import DailyTrivia.SoloPlay

/-!
What the streak of a player means. After a sign-in the session has the stored streak, and the
stored streak counts the outcomes of the days. It counts consecutive calendar days exactly when
no day was left out since the streak began: nothing takes a streak away from a player who did
not play.
-/
namespace DailyTrivia

open Async (After)
open Documents Runs Streaks

variable {platform : Platform} {player : Player} {store store' : Backend} {d d' : Device}
variable {reply : Reply}

/-- Between episodes everything is settled, and nothing is under way. -/
structure Idle (platform : Platform) (player : Player) (site : ℕ) (w : World) : Prop where
  quiet : ∀ number, w.pool number = none
  settled : Settled platform player w.store (w.sites site)

variable {site : ℕ} {w w' : World}

/-- An episode that begins a sign-in. -/
def SignsIn (platform : Platform) (site : ℕ) (w : World) (event : Event) : Prop :=
  ∃ memory task, react platform event (w.sites site) = some (memory, some (.signIn task))

/-- A sign-in ends with what is stored loaded. -/
theorem signIn_loaded {task : SignInTask} {count : ℕ} {last : Backend}
    (begins : SignInStage platform player store d task)
    (ran : Async.alone (app platform) (List.replicate count true) store d (.signIn task) =
      some (last, d')) : Loaded platform player last d' := by
  let stage (store : Backend) (d : Device) (task : Task) : Prop :=
    ∃ signIn, task = .signIn signIn ∧ SignInStage platform player store d signIn
  have keeps : ∀ store d task store' reply, stage store d task →
      serve platform store (call platform task) = some (store', reply) →
      After stage (Loaded platform player) store' (resume platform task reply d) := by
    rintro store d _ store' reply ⟨signIn, rfl, begun⟩ served
    have after := signIn_segment begun served
    exact (after.imp (fun _ _ next begun => ⟨next, rfl, begun⟩) fun _ _ => id).map Task.signIn
  exact Async.alone_rule keeps ⟨task, rfl, begins⟩ ran

/-- The responses of the player and the day are what they were. -/
structure SameDay (platform : Platform) (player : Player) (store : Backend) (d : Device)
    (store' : Backend) (d' : Device) : Prop where
  outcome : player.outcome platform store' = player.outcome platform store
  day : d'.day = d.day

/-- A sign-in keeps the responses and the day. -/
theorem signIn_sameDay {task : SignInTask} {count : ℕ} {last : Backend}
    (ran : Async.alone (app platform) (List.replicate count true) store d (.signIn task) =
      some (last, d')) : SameDay platform player store d last d' := by
  let stage (store' : Backend) (d' : Device) (task : Task) : Prop :=
    (∃ signIn, task = .signIn signIn) ∧ SameDay platform player store d store' d'
  have keeps : ∀ store₁ d₁ task store₂ reply, stage store₁ d₁ task →
      serve platform store₁ (call platform task) = some (store₂, reply) →
      After stage (SameDay platform player store d) store₂ (resume platform task reply d₁) := by
    rintro store₁ d₁ _ store₂ reply ⟨⟨signIn, rfl⟩, same⟩ served
    have outcome : player.outcome platform store₂ = player.outcome platform store₁ := by
      funext earlier
      rcases serve_response served player.username (platform.dateFormattedForDb earlier) with
        kept | ⟨_, _, _, submits, _⟩
      · rw [Player.outcome, kept, Player.outcome]
      · cases submits
    have day := signIn_day signIn reply d₁
    cases resumed : signIn.resume reply d₁ with
    | mk memory next =>
      rw [resumed] at day
      have still : SameDay platform player store d store₂ memory :=
        ⟨outcome.trans same.outcome, day.trans same.day⟩
      simp only [resume, resumed]
      cases next with
      | some next => exact ⟨⟨next, rfl⟩, still⟩
      | none => exact still
  have begins : stage store d (.signIn task) := ⟨⟨task, rfl⟩, rfl, rfl⟩
  exact Async.alone_rule keeps begins ran

theorem idle_event {event : Event} {number count : ℕ} (idle : Idle platform player site w)
    (performed : perform platform player site w (.event event number count) = some w') :
    Idle platform player site w' ∧ (SignsIn platform site w event →
      Loaded platform player w'.store (w'.sites site) ∧
      SameDay platform player w.store (w.sites site) w'.store (w'.sites site)) := by
  simp only [perform] at performed
  split at performed
  · rename_i makes
    obtain ⟨ran, ended⟩ := Option.filter_eq_some_iff.mp performed
    have ended : w'.pool number = none := by simpa using ended
    rcases Async.execute_uninterrupted (idle.quiet number) ran ended with
      ⟨memory, reacted, rfl⟩ | ⟨memory, task, store, last, reacted, did, rfl⟩
    · have settled := react_settled idle.settled makes reacted
      refine ⟨⟨idle.quiet, by simpa using settled⟩, ?_⟩
      rintro ⟨_, _, signsIn⟩
      rw [show react platform event (w.sites site) = _ from reacted] at signsIn
      cases signsIn
    · have begins : Stage platform player w.store memory task :=
        react_settled idle.settled makes reacted
      have settled : Settled platform player store last :=
        Async.alone_rule (fun _ _ _ _ _ => segment) begins did
      refine ⟨⟨idle.quiet, by simpa using settled⟩, ?_⟩
      rintro ⟨_, signIn, signsIn⟩
      obtain ⟨rfl, rfl⟩ : memory = _ ∧ task = .signIn signIn := by
        simpa using reacted.symm.trans signsIn
      have loaded := signIn_loaded begins did
      have same : SameDay platform player w.store memory store last := signIn_sameDay did
      have today : memory.day = (w.sites site).day := by
        refine (react_frame reacted ?_).1
        rintro rfl
        cases reacted
      simpa using ⟨loaded, same.outcome, same.day.trans today⟩
  · cases performed

theorem idle_perform {episode : Episode} (idle : Idle platform player site w)
    (performed : perform platform player site w episode = some w') :
    Idle platform player site w' := by
  cases episode with
  | event event number count => exact (idle_event idle performed).1
  | relaunch =>
    cases performed
    have settled : Settled platform player w.store ((app platform).restart (w.sites site)) :=
      idle.settled.of_relaunch
    refine ⟨fun number => ?_, by simpa using settled⟩
    simp [idle.quiet number]

/-- Nobody has registered with an address of the player. -/
def Unregistered (platform : Platform) (player : Player) (w : World) : Prop :=
  ∀ email, player.hasEmail platform email → w.store.accounts email = false

theorem idle_of_initial (initial : Initial w) (unregistered : Unregistered platform player w) :
    Idle platform player site w where
  quiet := initial.noJob
  settled := by
    have nobody := initial.noDocument (userRef player.key) (by simp [userRef])
    have stored : player.stored w.store = none := by simp [Player.stored, nobody]
    have noStreak := fun username => initial.noDocument (streakRef username) (by simp [streakRef])
    have noResponse := fun day => initial.noDocument
      (responseRef player.username (platform.dateFormattedForDb day)) (by simp [responseRef])
    have unplayed : player.outcome platform w.store = fun _ => none := by
      funext day
      simp [Player.outcome, noResponse]
    rw [initial.newInstallation site]
    have nobodyHere {α : Type} {user : α} {P : Prop} : none = some user → P := by
      intro present
      cases present
    have nobodyIn {α : Type} {P : Prop} : (none : Option α).isSome = true → P := by
      intro present
      cases present
    refine ⟨⟨⟨?_, ?_, ?_, ?_, ?_⟩, ?_, fun _ => nobodyHere, fun _ => nobodyHere⟩,
      ⟨nobodyIn, nobodyIn, nobodyIn, ?_⟩, fun _ => nobodyHere⟩
    · intro document found
      rw [nobody] at found
      cases found
    · intro username found
      rw [stored] at found
      cases found
    · exact fun _ => noStreak _
    · exact fun later _ => noResponse later
    · intro username document found
      rw [noStreak] at found
      cases found
    · have noOutcomes : ∀ day, outcomesTo (fun _ => none) day = [] := by simp [outcomesTo]
      simp [CountsOutcomes, Player.streak, streakIn, noStreak, unplayed, noOutcomes]
    · intro email mine registered
      rw [unregistered email mine] at registered
      cases registered

/-- After every history of the player everything is settled. -/
theorem idle_of_history {start : World} {episodes : List Episode} (initial : Initial start)
    (unregistered : Unregistered platform player start)
    (history : execute (perform platform player site) start episodes = some w) :
    Idle platform player site w := by
  have run : Run (perform platform player site) Any start episodes w :=
    .of_execute (fun _ _ _ => trivial) history
  exact run.invariant _ (idle_of_initial initial unregistered) fun _ _ _ idle _ performed =>
    idle_perform idle performed

/-! ## Calendar days -/

/-- A history of the player and a sign-in after it, to an account with a username. -/
structure WelcomedBack (platform : Platform) (player : Player) (site : ℕ) (w w' : World) : Prop where
  history : ∃ start episodes, Initial start ∧ Unregistered platform player start ∧
    execute (perform platform player site) start episodes = some w
  signIn : ∃ event number count, SignsIn platform site w event ∧
    perform platform player site w (.event event number count) = some w'
  named : (w'.sites site).username.isSome = true

/-- The streak of the session, the stored one and the one the leaderboard reports, which leaves
out 0, are the number of consecutive days that were right. -/
structure CountsDays (platform : Platform) (player : Player) (store : Backend) (d : Device) :
    Prop where
  session : d.streak = some (dayStreak (player.outcome platform store) d.day : Int)
  stored : player.streak store = dayStreak (player.outcome platform store) d.day
  reported : ∀ order snapshot leaderboard,
    snapshot.Perm ((store.documents .streaks).entries.map Sigma.snd) →
    fetchStreakLeaderboard platform order snapshot = some leaderboard → ∀ value : Int,
    ⟨player.username, value⟩ ∈ leaderboard ↔
      value = dayStreak (player.outcome platform store) d.day ∧ value ≠ 0

/-- A collection whose documents all have one id has at most one. -/
theorem sole_document {documents : Collection} {id : String}
    (sole : ∀ entry ∈ documents.entries, entry.1 = id) :
    documents.entries = [] ∨ ∃ document, documents.entries = [⟨id, document⟩] := by
  have once := documents.nodupKeys
  cases listed : documents.entries with
  | nil => exact .inl rfl
  | cons first rest =>
    rw [listed] at sole once
    obtain ⟨fresh, _⟩ := List.nodupKeys_cons.mp once
    cases rest with
    | nil =>
      obtain rfl := sole first List.mem_cons_self
      exact .inr ⟨first.2, rfl⟩
    | cons second rest =>
      have same := sole second (List.mem_cons_of_mem _ List.mem_cons_self)
      rw [sole first List.mem_cons_self, ← same] at fresh
      exact absurd (List.mem_keys_of_mem List.mem_cons_self) fresh

/-- A leaderboard made from one document. -/
theorem fetchStreakLeaderboard_singleton {order : IterationOrder} {document : Doc}
    {leaderboard : List LeaderboardEntry}
    (fetched : fetchStreakLeaderboard platform order [document] = some leaderboard) :
    leaderboard = [⟨(streakEntry document).1, (streakEntry document).2⟩].filter
      fun entry => entry.value ≠ 0 := by
  obtain ⟨dictionary, added, rfl⟩ := Option.map_eq_some_iff.mp fetched
  obtain ⟨_, rfl⟩ : isInt (streakEntry document).2 = true ∧
      [streakEntry document] = dictionary := by
    simpa [Totals.totals, Totals.add] using added
  have single := List.perm_singleton.mp (order.perm [streakEntry document])
  rw [single]
  by_cases zero : (streakEntry document).2 = 0 <;> simp [sortedLeaderboard, zero]

/-- Only the player has a streak, so the leaderboard has nothing else to report. -/
theorem reported_of_records {day : ℕ} (records : Records platform player store day)
    {order : IterationOrder} {snapshot : List Doc} {leaderboard : List LeaderboardEntry}
    (perm : snapshot.Perm ((store.documents .streaks).entries.map Sigma.snd))
    (fetched : fetchStreakLeaderboard platform order snapshot = some leaderboard) (value : Int) :
    ⟨player.username, value⟩ ∈ leaderboard ↔ value = player.streak store ∧ value ≠ 0 := by
  have found : ∀ entry ∈ (store.documents .streaks).entries,
      get store.documents (streakRef entry.1) = some entry.2 := fun entry =>
    AList.mem_lookup_iff.mpr
  have sole := @sole_document (store.documents .streaks) player.username fun entry listed =>
    (records.sole entry.1 entry.2 (found entry listed)).1
  rcases sole with empty | ⟨document, one⟩
  · have missing : get store.documents (streakRef player.username) = none := by
      refine Option.eq_none_iff_forall_ne_some.mpr fun document stored => ?_
      have listed : _ ∈ (store.documents .streaks).entries := AList.mem_lookup_iff.mp stored
      rw [empty] at listed
      cases listed
    rw [empty] at perm
    obtain rfl := List.perm_nil.mp perm
    obtain rfl : leaderboard = [] := by
      have nothing := List.perm_nil.mp (order.perm [])
      simpa [fetchStreakLeaderboard, Totals.totals, nothing, sortedLeaderboard, eq_comm] using fetched
    have zero : player.streak store = 0 := by simp [Player.streak, streakIn, missing]
    simp [zero]
  · have stored := found ⟨player.username, document⟩ (by rw [one]; exact List.mem_cons_self)
    have named := (records.sole _ _ stored).2
    rw [one] at perm
    obtain rfl := List.perm_singleton.mp perm
    obtain rfl := fetchStreakLeaderboard_singleton fetched
    have streak : player.streak store = (document.int "streak").getD 0 := by
      simp [Player.streak, streakIn, stored]
    simp [streakEntry, named, streak]

/-- The streak counts the outcomes, and these count the days exactly when no day before was left
out since the streak began. -/
theorem countsDays_iff_unbroken (welcome : WelcomedBack platform player site w w') :
    CountsDays platform player w'.store (w'.sites site) ↔
      Unbroken (player.outcome platform w.store) (w.sites site).day := by
  obtain ⟨start, episodes, initial, unregistered, history⟩ := welcome.history
  obtain ⟨event, number, count, signsIn, performed⟩ := welcome.signIn
  have idle := idle_of_history initial unregistered history
  obtain ⟨loaded, same⟩ := (idle_event idle performed).2 signsIn
  obtain ⟨user, present, named⟩ : ∃ user, (w'.sites site).currentUser = some user ∧
      user.username.isSome = true := by
    have named := welcome.named
    simpa [Device.username, Option.isSome_bind, Option.any_eq_true] using named
  have streak : (w'.sites site).streak = some (player.streak w'.store) := by
    simp [Device.streak, present, loaded.loaded user present named]
  have counted : player.streak w'.store = _ := loaded.settled.base.counted
  rw [← same.outcome, ← same.day, ← trailing_eq_dayStreak]
  constructor
  · intro days
    exact_mod_cast counted.symm.trans days.stored
  · intro agree
    rw [agree] at counted
    refine ⟨by rw [streak, counted], counted, fun order snapshot leaderboard perm fetched value => ?_⟩
    rw [← counted]
    exact reported_of_records loaded.settled.base.records perm fetched value

/-! ## A player who comes back -/

def ann : Player where
  email := "ann@example.com"
  username := "annie"

/-- Annie registers, chooses her username, answers the first day's question and signs in again. -/
def playedOnce : List Episode :=
  [.event (.tapRegister "ann@example.com" "password") 0 5, .event .currentUserChanges 0 0,
    .event (.gameViewAppears 0) 0 4, .event (.tapSubmitUsername 0 "annie") 0 2,
    .event (.tapSubmitAnswer 0 "Paris") 0 4, .relaunch]

/-- Annie does not play on the second day and comes back on the third. -/
def skippedDay : List Episode :=
  playedOnce ++ [.event .midnight 0 0, .event .midnight 0 0]

/-- Some episodes and a sign-in after them. -/
def comeBack (episodes : List Episode) : Option (World × World) :=
  (execute (perform march ann 0) (firstLaunch [capital]) episodes).bind fun w =>
    (perform march ann 0 w (.event .loginViewAppears 0 4)).map fun w' => (w, w')

/-- The task of the sign-in, the username it ends with, the streak and the consecutive days. -/
def welcomed (s : World × World) : Option Task × Option String × Option Int × ℕ :=
  ((react march .loginViewAppears (s.1.sites 0)).bind Prod.snd, (s.2.sites 0).username,
    (s.2.sites 0).streak, dayStreak (ann.outcome march s.2.store) (s.2.sites 0).day)

/-- Annie's session is restored. -/
def restored : Task := .signIn (.restoreFirebase (march.firebaseUser "ann@example.com"))

theorem welcomedBack_of_welcomed {episodes : List Episode} {streak : Option Int} {days : ℕ}
    (welcome : (comeBack episodes).map welcomed = some (some restored, some "annie", streak, days)) :
    ∃ w w', WelcomedBack march ann 0 w w' ∧ (w'.sites 0).streak = streak ∧
      dayStreak (ann.outcome march w'.store) (w'.sites 0).day = days := by
  obtain ⟨⟨w, w'⟩, came, welcome⟩ := Option.map_eq_some_iff.mp welcome
  obtain ⟨_, history, came⟩ := Option.bind_eq_some_iff.mp came
  obtain ⟨_, performed, ⟨⟩⟩ := Option.map_eq_some_iff.mp came
  simp only [welcomed, Prod.mk.injEq] at welcome
  obtain ⟨begun, named, session, counted⟩ := welcome
  obtain ⟨⟨memory, _⟩, reacted, rfl⟩ := Option.bind_eq_some_iff.mp begun
  refine ⟨w, w', ⟨?_, ?_, by simp [named]⟩, session, counted⟩
  · exact ⟨_, episodes, initial_firstLaunch _, fun _ _ => rfl, history⟩
  · exact ⟨_, _, _, ⟨memory, _, reacted⟩, performed⟩

theorem welcomed_playedOnce : (comeBack playedOnce).map welcomed =
    some (some restored, some "annie", some 1, 1) := by
  decide +kernel

theorem welcomed_skippedDay : (comeBack skippedDay).map welcomed =
    some (some restored, some "annie", some 1, 0) := by
  decide +kernel

/-- Annie's streak on the day she played. -/
theorem countsDays_playedOnce : ∃ w w', WelcomedBack march ann 0 w w' ∧
    (CountsDays march ann w'.store (w'.sites 0) ↔
      Unbroken (ann.outcome march w.store) (w.sites 0).day) := by
  obtain ⟨w, w', welcome, _⟩ := welcomedBack_of_welcomed welcomed_playedOnce
  exact ⟨w, w', welcome, countsDays_iff_unbroken welcome⟩

/-- A streak outlives a day that was left out. -/
theorem not_countsDays : ¬ ∀ platform player site w w', WelcomedBack platform player site w w' →
    CountsDays platform player w'.store (w'.sites site) := by
  intro claim
  obtain ⟨w, w', welcome, streak, days⟩ := welcomedBack_of_welcomed welcomed_skippedDay
  have counted := (claim march ann 0 w w' welcome).session
  rw [streak, days] at counted
  cases counted

end DailyTrivia
