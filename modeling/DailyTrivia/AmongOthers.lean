import DailyTrivia.Parties
import DailyTrivia.CalendarStreaks
import DailyTrivia.StreakRecords

/-!
A party among others. While every user keeps to the own accounts and usernames, the parties do not
notice each other: leave out all the others' steps, in whatever way they were interleaved and
whatever failed, and the party's devices, jobs and documents come out the same. So what holds of
every run of a player alone holds of the player among others.
-/
namespace DailyTrivia

open Async (Share SamePart KeepsApart ofPart)
open Documents Runs Streaks

variable {G : Type}

/-- The call is about the party's own documents and accounts, or reads what is nobody's. A query
for reviews selects by the username that they are stored under. -/
def Parties.IsOwn (platform : Platform) (parties : Parties G) (g : G) : Call → Prop
  | .pause | .googleSignIn _ => True
  | .getDocument ref => parties.owner ref = some g ∨ parties.owner ref = none
  | .setData ref data => parties.owner ref = some g ∧
    (ref.collection = .manualReviews → data "username" = some (.string ref.id))
  | .mergeData ref _ => parties.owner ref = some g ∧ ref.collection ≠ .manualReviews
  | .whereField collection name value => ∃ username, collection = .manualReviews ∧
    name = "username" ∧ value = .string username ∧ parties.username username = g
  | .createUser email | .signIn email =>
    parties.account (sanitizedEmail (platform.firebaseUser email).email) = g

/-- Reviews name the user they are stored under. -/
def ReviewsKeyed (documents : Store CollectionRef) : Prop :=
  ∀ username document, get documents (manualReviewRef username) = some document →
    document "username" = some (.string username)

/-- The backends are the same to the party. -/
structure Parties.SameStore (platform : Platform) (parties : Parties G) (g : G)
    (backend other : Backend) : Prop where
  documents : ∀ ref, parties.owner ref = some g ∨ parties.owner ref = none →
    get other.documents ref = get backend.documents ref
  accounts : ∀ email, parties.account (sanitizedEmail (platform.firebaseUser email).email) = g →
    other.accounts email = backend.accounts email
  keyed : ReviewsKeyed backend.documents
  keyed' : ReviewsKeyed other.documents

/-- The second world has everything of the party that the first one has, and nothing under way
for anybody else. -/
structure Parties.Agree [DecidableEq G] (parties : Parties G) (g : G) (w v : World) : Prop where
  devices : ∀ site, parties.site site = g → v.sites site = w.sites site
  jobs : ∀ number, v.pool number = (w.pool number).filter fun job => parties.site job.site = g
  documents : ∀ ref, parties.owner ref = some g →
    get v.store.documents ref = get w.store.documents ref

/-- The steps of a run that are taken at the party's installations. -/
def Parties.part [DecidableEq G] (platform : Platform) (parties : Parties G) (g : G)
    (start : World) (actions : List Action) : List Action :=
  picked (step platform) (ofPart fun site => parties.site site = g) start actions

variable {platform : Platform} {parties : Parties G} {g other : G} {task : Task}
variable {backend backend' after : Backend} {ref : DocumentRef} {data : Doc} {reply : Reply}
variable {documents : Store CollectionRef}

/-! ## The party's share of the store -/

theorem reviewsKeyed_set (keyed : ReviewsKeyed documents)
    (named : ref.collection = .manualReviews → data "username" = some (.string ref.id)) :
    ReviewsKeyed (set documents ref data) := by
  intro username document stored
  by_cases here : manualReviewRef username = ref
  · subst here
    rw [get_set_self] at stored
    cases stored
    exact named rfl
  · rw [get_set_ne here] at stored
    exact keyed username document stored

theorem reviews_of_keyed (keyed : ReviewsKeyed documents) (username : String) :
    whereField documents .manualReviews "username" (.string username) =
      (get documents (manualReviewRef username)).toList := by
  refine whereField_of_id fun id document stored => ?_
  rw [keyed id document stored]
  simp

/-- Both backends take the party's write. -/
theorem sameStore_set (same : parties.SameStore platform g backend backend')
    (named : ref.collection = .manualReviews → data "username" = some (.string ref.id)) :
    parties.SameStore platform g { backend with documents := set backend.documents ref data }
      { backend' with documents := set backend'.documents ref data } where
  documents written owned := by
    by_cases here : written = ref
    · subst here
      rw [get_set_self, get_set_self]
    · rw [get_set_ne here, get_set_ne here]
      exact same.documents written owned
  accounts := same.accounts
  keyed := reviewsKeyed_set same.keyed named
  keyed' := reviewsKeyed_set same.keyed' named

/-- One backend takes a write of another party. -/
theorem sameStore_spared (same : parties.SameStore platform g backend backend')
    (others : parties.owner ref = some other) (apart : other ≠ g)
    (named : ref.collection = .manualReviews → data "username" = some (.string ref.id)) :
    parties.SameStore platform g { backend with documents := set backend.documents ref data }
      backend' where
  documents written owned := by
    have elsewhere : written ≠ ref := by
      rintro rfl
      rcases owned with ours | nobodys
      · exact apart (Option.some.inj (others.symm.trans ours))
      · cases others.symm.trans nobodys
    rw [get_set_ne elsewhere]
    exact same.documents written owned
  accounts := same.accounts
  keyed := reviewsKeyed_set same.keyed named
  keyed' := same.keyed'

/-- The party's calls are answered alike. -/
theorem serve_own {call : Call} (own : parties.IsOwn platform g call)
    (same : parties.SameStore platform g backend backend')
    (served : serve platform backend call = some (after, reply)) :
    ∃ after', serve platform backend' call = some (after', reply) ∧
      parties.SameStore platform g after after' := by
  cases call with
  | pause | googleSignIn user =>
    cases served
    exact ⟨_, rfl, same⟩
  | getDocument ref =>
    cases served
    exact ⟨_, by rw [serve, same.documents ref own], same⟩
  | setData ref data =>
    cases served
    exact ⟨_, rfl, sameStore_set same own.2⟩
  | mergeData ref data =>
    cases served
    obtain ⟨ours, plain⟩ := own
    have merged := same.documents ref (.inl ours)
    refine ⟨_, rfl, ?_⟩
    simp only [setMerging, merged]
    exact sameStore_set same fun reviews => absurd reviews plain
  | whereField collection name value =>
    cases served
    obtain ⟨username, rfl, rfl, rfl, ours⟩ := own
    refine ⟨_, ?_, same⟩
    rw [serve, reviews_of_keyed same.keyed, reviews_of_keyed same.keyed',
      same.documents (manualReviewRef username) (.inl (congrArg some ours))]
  | createUser email =>
    have known := same.accounts email own
    simp only [serve] at served ⊢
    split at served <;> cases served
    rename_i fresh
    rw [known, if_neg fresh]
    refine ⟨_, rfl, same.documents, fun email' ours => ?_, same.keyed, same.keyed'⟩
    by_cases here : email' = email
    · simp [here]
    · simp [here, same.accounts email' ours]
  | signIn email =>
    have known := same.accounts email own
    simp only [serve] at served ⊢
    split at served <;> cases served
    rename_i taken
    rw [known, if_pos taken]
    exact ⟨_, rfl, same⟩

/-- The calls of other parties are not noticed. -/
theorem serve_spares {call : Call} (theirs : ∃ other, other ≠ g ∧ parties.IsOwn platform other call)
    (same : parties.SameStore platform g backend backend')
    (served : serve platform backend call = some (after, reply)) :
    parties.SameStore platform g after backend' := by
  obtain ⟨other, apart, own⟩ := theirs
  cases call with
  | setData ref data =>
    cases served
    exact sameStore_spared same own.1 apart own.2
  | mergeData ref data =>
    cases served
    exact sameStore_spared same own.1 apart fun reviews => absurd reviews own.2
  | createUser email =>
    simp only [serve] at served
    split at served <;> cases served
    refine ⟨same.documents, fun email' ours => ?_, same.keyed, same.keyed'⟩
    by_cases here : email' = email
    · subst here
      exact absurd (own.symm.trans ours) apart
    · simp [here, same.accounts email' ours]
  | signIn email =>
    simp only [serve] at served
    split at served <;> cases served
    exact same
  | _ =>
    cases served
    exact same

/-- What the party has in the store. -/
def Parties.share (platform : Platform) (parties : Parties G) (g : G) : Share (app platform) where
  same := parties.SameStore platform g
  own := parties.IsOwn platform g
  spares call := ∃ other, other ≠ g ∧ parties.IsOwn platform other call
  serve_own := serve_own
  serve_spares := serve_spares

/-- A task that knows only what is the party's own asks for nothing else. -/
theorem isOwn_of_owns (owns : parties.Owns platform g task)
    (addressed : ∀ signIn user, task = .signIn signIn → signIn.googleUser = some user →
      user.email.isSome = true) : parties.IsOwn platform g (call platform task) := by
  cases task with
  | signIn task =>
    cases task with
    | readGoogleAccount user | writeGoogleAccount user =>
      have address := addressed _ user rfl rfl
      have owns : parties.account (User.ofGoogleUser user).email = g := owns
      rw [← googleKey_of_address address] at owns
      first
        | exact .inl (congrArg some owns)
        | exact ⟨congrArg some owns, fun reviews => by cases reviews⟩
    | readGoogleUsername user =>
      have owns : parties.account (User.ofGoogleUser user).email = g := owns
      rw [← sanitizedEmail_ofGoogleUser] at owns
      exact .inl (congrArg some owns)
    | readUserAccount user | readUsername email => exact .inl (congrArg some owns)
    | writeUserAccount user => exact ⟨congrArg some owns, fun reviews => by cases reviews⟩
    | readStreak email username => exact .inl (congrArg some owns.2)
    | resetStreak email username => exact ⟨congrArg some owns.2, nofun⟩
    | login email | register email | registerSignIn email => exact owns
    | _ => trivial
  | load v task =>
    cases task with
    | readQuestion today => exact .inr rfl
    | readResponse username today => exact .inl (congrArg some owns)
    | _ => trivial
  | submit v task =>
    cases task with
    | writeResponse question answerText username today =>
      exact ⟨congrArg some owns, fun reviews => by cases reviews⟩
    | writeStreak username streak => exact ⟨congrArg some owns, nofun⟩
    | _ => trivial
  | enterUsername v task =>
    cases task with
    | writeUsername key username => exact ⟨congrArg some owns.1, nofun⟩
    | submitUsername username => trivial
  | review v task =>
    cases task with
    | readReviews form userNote => exact ⟨form.username, rfl, rfl, rfl, owns⟩
    | writeReview form userNote today => exact ⟨congrArg some owns, fun _ => rfl⟩
    | _ => trivial
  | logout v signOutThrows => trivial

/-- A task asks only for what is its own party's. -/
theorem isOwn_of_confined {w : World} (confined : parties.Confined platform w) {number site : ℕ}
    {phase : Async.Phase Reply} (held : w.pool number = some ⟨site, task, phase⟩) :
    parties.IsOwn platform (parties.site site) (call platform task) := by
  refine isOwn_of_owns (confined.tasks _ _ _ _ held) fun signIn user signsIn google => ?_
  subst signsIn
  exact confined.accounts.addressed _ _ _ _ _ held google

/-! ## A party in a run -/

variable [DecidableEq G] {w start : World} {action : Action} {actions : List Action}

/-- Every call that is served is one party's own. -/
theorem keepsApart_of_confined (confined : parties.Confined platform w) :
    KeepsApart (parties.share platform g) (fun site => parties.site site = g) w action := by
  rintro number site task rfl held
  have own := isOwn_of_confined confined held
  by_cases ours : parties.site site = g
  · have own : (parties.share platform g).own ((app platform).call task) := ours ▸ own
    simpa [ours] using own
  · have spares : (parties.share platform g).spares ((app platform).call task) :=
      ⟨_, ours, own⟩
    simpa [ours] using spares

theorem samePart_of_initial (initial : Initial start) :
    SamePart (parties.share platform g) (fun site => parties.site site = g) start start where
  sites _ _ := rfl
  pool number := by simp [initial.noJob]
  store := by
    have keyed : ReviewsKeyed start.store.documents := by
      intro username document stored
      rw [initial.noDocument _ (by simp [manualReviewRef])] at stored
      cases stored
    exact ⟨fun _ _ => rfl, fun _ _ => rfl, keyed, keyed⟩

/-- A party in a run of everybody does what it does alone. -/
theorem samePart_of_run {start after : World} {actions : List Action} (initial : Initial start)
    (run : Run (step platform) (parties.permits platform · ·) start actions after) :
    ∃ alone, execute (step platform) start (parties.part platform g start actions) = some alone ∧
      SamePart (parties.share platform g) (fun site => parties.site site = g) after alone := by
  have confined := run.along (parties.Confined platform) (confined_of_initial initial)
    fun before action after confined permitted moved =>
      confined_step (Async.move_of_step moved) permitted confined
  have begins : SamePart (parties.share platform g) (fun site => parties.site site = g) start start :=
    samePart_of_initial initial
  exact Async.execute_part confined (fun w action kept => keepsApart_of_confined kept.2) begins

theorem agree_of_samePart {after alone : World}
    (same : SamePart (parties.share platform g) (fun site => parties.site site = g) after alone) :
    parties.Agree g after alone where
  devices site ours := same.sites site (decide_eq_true ours)
  jobs := same.pool
  documents ref ours := same.store.documents ref (.inl ours)

/-- The steps of an episode. -/
def Episode.steps (site : ℕ) : Episode → List Action
  | .event happens number count => Async.uninterrupted site happens number count
  | .relaunch => [.restart site]

/-- In a run of everybody, the steps on one device are a history of the player that ends with a
sign-in to an account with a username. -/
structure PlaysAmong (platform : Platform) (parties : Parties G) (player : Player) (site : ℕ)
    (start after : World) (actions : List Action) : Prop where
  initial : Initial start
  unregistered : Unregistered platform player start
  run : Run (step platform) (parties.permits platform · ·) start actions after
  own : parties.username player.username = parties.site site
  history : ∃ episodes before event number count alone,
    execute (perform platform player site) start episodes = some before ∧
    SignsIn platform site before event ∧
    perform platform player site before (.event event number count) = some alone ∧
    parties.part platform (parties.site site) start actions =
      (episodes ++ [Episode.event event number count]).flatMap (Episode.steps site)
  named : (after.sites site).username.isSome = true

variable {player : Player} {site : ℕ} {episodes : List Episode} {w' after : World}

theorem execute_of_perform {episode : Episode}
    (performed : perform platform player site w episode = some w') :
    execute (step platform) w (episode.steps site) = some w' := by
  cases episode with
  | event event number count =>
    simp only [perform] at performed
    split at performed
    · exact (Option.filter_eq_some_iff.mp performed).1
    · cases performed
  | relaunch =>
    have restarted : step platform w (.restart site) = some w' := performed
    simpa [Episode.steps, execute] using restarted

theorem execute_of_history (history : execute (perform platform player site) w episodes = some w') :
    execute (step platform) w (episodes.flatMap (Episode.steps site)) = some w' := by
  induction episodes generalizing w with
  | nil => exact history
  | cons episode rest ih =>
    obtain ⟨next, performed, history⟩ := Option.bind_eq_some_iff.mp history
    rw [List.flatMap_cons, execute_append, execute_of_perform performed]
    exact ih history

/-- What the party has stored for the player is what the player has stored alone. -/
theorem agree_streak (agree : parties.Agree g w w') (own : parties.username player.username = g) :
    player.streak w'.store = player.streak w.store := by
  simp only [Player.streak, streakIn,
    agree.documents (streakRef player.username) (congrArg some own)]

theorem agree_outcome (agree : parties.Agree g w w') (own : parties.username player.username = g) :
    player.outcome platform w'.store = player.outcome platform w.store := by
  funext day
  simp only [Player.outcome,
    agree.documents (responseRef player.username (platform.dateFormattedForDb day))
      (congrArg some own)]

/-- Among others the player's sign-in loads the stored streak, and this counts the outcomes. -/
theorem loaded_among (plays : PlaysAmong platform parties player site start after actions) :
    (after.sites site).streak = some (player.streak after.store) ∧
    player.streak after.store =
      trailing (outcomesTo (player.outcome platform after.store) (after.sites site).day) := by
  obtain ⟨episodes, before, event, number, count, solo, history, signsIn, performed, same⟩ :=
    plays.history
  obtain ⟨alone, executed, part⟩ := samePart_of_run plays.initial plays.run
  have agree := agree_of_samePart part
  -- the player's own steps, carried out alone, are the history
  have whole : execute (step platform) start
      ((episodes ++ [Episode.event event number count]).flatMap (Episode.steps site)) = some solo := by
    rw [List.flatMap_append, execute_append, execute_of_history history]
    simpa using execute_of_perform performed
  rw [same, whole] at executed
  obtain rfl := Option.some.inj executed
  have idle := idle_of_history plays.initial plays.unregistered history
  obtain ⟨loaded, _⟩ := (idle_event idle performed).2 signsIn
  have counted : player.streak solo.store = _ := loaded.settled.base.counted
  rw [agree_outcome agree plays.own, agree_streak agree plays.own, agree.devices site rfl] at counted
  obtain ⟨user, present, named⟩ : ∃ user, (after.sites site).currentUser = some user ∧
      user.username.isSome = true := by
    have named := plays.named
    simpa [Device.username, Option.isSome_bind, Option.any_eq_true] using named
  have streak := loaded.loaded user (by rw [agree.devices site rfl, present]) named
  rw [agree_streak agree plays.own] at streak
  exact ⟨by simp [Device.streak, present, streak], counted⟩

def annie : Parties Bool where
  site number := number == 0
  account key := key == "ann_example_com"
  username name := name == "annie"

deriving instance DecidableEq for Event, Async.Action

/-- Annie plays on the first day and signs in again. -/
def anniePlays : List Episode := playedOnce ++ [.event .loginViewAppears 0 4]

/-- Ben plays on the first day as well, but gives a wrong answer. -/
def benPlays : List Episode :=
  [.event (.tapRegister "ben@example.com" "password") 1 5, .event .currentUserChanges 1 0,
    .event (.gameViewAppears 0) 1 4, .event (.tapSubmitUsername 0 "ben") 1 2,
    .event (.tapSubmitAnswer 0 "Lyon") 1 4, .relaunch, .event .loginViewAppears 1 4]

/-- Between any two of Annie's steps Ben takes one. -/
def playedTogether : List Action :=
  ((anniePlays.flatMap (Episode.steps 0)).zip (benPlays.flatMap (Episode.steps 1))).flatMap
    fun (hers, his) => [hers, his]

theorem playsAmong_playedTogether :
    ∃ after, PlaysAmong march annie ann 0 (firstLaunch [capital]) after playedTogether := by
  have permitted : ((execute (guarded (annie.permits march) (step march)) (firstLaunch [capital])
      playedTogether).map fun after => (after.sites 0).username) = some (some "annie") := by
    decide +kernel
  obtain ⟨after, executed, named⟩ := Option.map_eq_some_iff.mp permitted
  obtain ⟨⟨before, alone⟩, came, welcome⟩ := Option.map_eq_some_iff.mp welcomed_playedOnce
  obtain ⟨_, history, came⟩ := Option.bind_eq_some_iff.mp came
  obtain ⟨_, performed, ⟨⟩⟩ := Option.map_eq_some_iff.mp came
  simp only [welcomed, Prod.mk.injEq] at welcome
  obtain ⟨⟨memory, _⟩, reacted, rfl⟩ := Option.bind_eq_some_iff.mp welcome.1
  have hers : annie.part march true (firstLaunch [capital]) playedTogether =
      anniePlays.flatMap (Episode.steps 0) := by
    decide +kernel
  exact ⟨after, initial_firstLaunch _, fun _ _ => rfl, Run.of_guarded executed, rfl,
    ⟨playedOnce, before, _, _, _, alone, history, ⟨memory, _, reacted⟩, performed, hers⟩,
    by simp [named]⟩

end DailyTrivia
