import DailyTrivia.Accounts
import DailyTrivia.Database
import DailyTrivia.Leaderboard

/-!
The streaks of a whole run. However its steps interleave and fail, a streak document names the
user it is stored under and holds a number between 0 and the number of steps so far: a streak is
counted up from one that was read, and nothing else sets it. So the streak leaderboard of a
reachable store cannot trap, and it is exactly the list of the stored streaks that are not 0.
-/
namespace DailyTrivia

open Documents Runs Totals

/-- A streak that some steps can have counted up to. -/
def UpTo (steps : ℕ) (streak : Int) : Prop := 0 ≤ streak ∧ streak ≤ steps

/-- Every streak, wherever it is on its way, was counted up in so many steps. -/
structure StreaksUpTo (steps : ℕ) (w : World) : Prop where
  stored : ∀ username document streak, get w.store.documents (streakRef username) = some document →
    document.int "streak" = some streak → UpTo steps streak
  session : ∀ site streak, (w.sites site).streak = some streak → UpTo steps streak
  counting : ∀ number site v streak phase,
    w.pool number = some ⟨site, .submit v (.updateStreak streak), phase⟩ → UpTo steps streak
  writing : ∀ number site v username streak phase,
    w.pool number = some ⟨site, .submit v (.writeStreak username streak), phase⟩ →
    UpTo steps streak
  read : ∀ number site email username document streak,
    w.pool number = some ⟨site, .signIn (.readStreak email username),
      .answered (.snapshot (some document))⟩ →
    document.int "streak" = some streak → UpTo steps streak

/-- Exactly the players with a streak are listed, each once and with the stored streak, the
longest first. -/
structure ListsStreaks (documents : Store CollectionRef) (leaderboard : List LeaderboardEntry) :
    Prop where
  listed : ∀ username value, ⟨username, value⟩ ∈ leaderboard ↔
    value = streakIn documents username ∧ value ≠ 0
  once : leaderboard.Nodup
  positive : ∀ entry ∈ leaderboard, 0 < entry.value
  ordered : leaderboard.Pairwise fun first second => first.value ≥ second.value

/-- The step computes the streak of a correct answer that has been written. -/
def CountsUp (platform : Platform) (w : World) (action : Action) : Prop :=
  ∃ number site v question answerText username today, action = .resume number ∧
    w.pool number =
      some ⟨site, .submit v (.writeResponse question answerText username today),
        .answered .written⟩ ∧
    isCorrect platform question answerText = true

variable {platform : Platform} {w w' : World} {action : Action} {steps more : ℕ} {streak : Int}

theorem UpTo.mono (bounded : UpTo steps streak) (least : steps ≤ more) : UpTo more streak := by
  obtain ⟨positive, most⟩ := bounded
  exact ⟨positive, by omega⟩

theorem upTo_zero (steps : ℕ) : UpTo steps 0 := ⟨Int.le_refl 0, by omega⟩

/-! ## One step -/

theorem stored_upTo (moved : Move platform w action w') (bounded : StreaksUpTo steps w)
    {username : String} {document : Doc}
    (stored : get w'.store.documents (streakRef username) = some document)
    (counted : document.int "streak" = some streak) : UpTo steps streak := by
  rcases moved.store with same | ⟨number, site, task, reply, rfl, held, served⟩
  · exact bounded.stored username document streak (same ▸ stored) counted
  · rcases serve_streak served username with same | wrote
    · exact bounded.stored username document streak (same ▸ stored) counted
    · rw [stored] at wrote
      have written : ∀ (old : Option Doc) (value : Int),
          (mergeInto (streakData username value) old).int "streak" = some value := fun old value =>
        int_of_some (mergeInto_of_some rfl)
      generalize get w.store.documents (streakRef username) = old at wrote
      cases wrote with
      | reset =>
        obtain rfl := Option.some.inj (counted.symm.trans (written old 0))
        exact upTo_zero steps
      | counted =>
        obtain rfl := Option.some.inj (counted.symm.trans (written old _))
        exact bounded.writing _ _ _ _ _ _ held

theorem session_upTo (moved : Move platform w action w') (accounts : Accounts w)
    (bounded : StreaksUpTo steps w) {site : ℕ} (counted : (w'.sites site).streak = some streak) :
    UpTo steps streak := by
  have before : ∀ streak, (w.sites site).streak = some streak → UpTo steps streak :=
    bounded.session site
  cases moved.memory site with
  | kept same => exact before streak (same ▸ counted)
  | reacted reacted =>
    rw [Device.streak, react_currentUser reacted] at counted
    exact before streak counted
  | restarted same =>
    rw [same] at counted
    cases counted
  | @resumed job task reply next held resumed =>
    have assigned := assigned_of_resume resumed
    simp only [Device.streak] at counted before
    generalize (w'.sites site).currentUser = user at assigned counted
    -- a changed username leaves the streak
    have renamed : ∀ username, (((w.sites site).currentUser.map fun user =>
        { user with username := some username }).bind User.streak) = some streak →
        UpTo steps streak := by
      intro username counted
      rw [Option.bind_map] at counted
      exact before streak counted
    -- an assigned streak is the streak
    have replaced : ∀ value, (((w.sites site).currentUser.map fun user =>
        { user with streak := some value }).bind User.streak) = some streak → value = streak := by
      intro value counted
      rw [Option.bind_map] at counted
      obtain ⟨_, _, same⟩ := Option.bind_eq_some_iff.mp counted
      exact Option.some.inj same
    cases assigned with
    | kept => exact before streak counted
    | login | registered | adopted | googleAccountWritten | restoredFirebase | restoredGoogle
    | loggedOut => cases counted
    | accountFound decoded | googleAccountFound decoded =>
      obtain ⟨_, none, _⟩ := decode_keyed decoded (accounts.found _ _ _ _ _ held rfl)
      rw [Option.bind_some, none] at counted
      cases counted
    | googleUsername _ | username _ | named => exact renamed _ counted
    | @streak email username snapshot value found =>
      obtain rfl := replaced value counted
      obtain ⟨document, rfl, found⟩ := Option.bind_eq_some_iff.mp found
      exact bounded.read _ _ _ _ _ _ held found
    | reset =>
      obtain rfl := replaced 0 counted
      exact upTo_zero steps
    | counted =>
      obtain rfl := replaced _ counted
      exact bounded.writing _ _ _ _ _ _ held

/-- Only a step that counts an answer counts further. -/
theorem streaksUpTo_step (moved : Move platform w action w') (accounts : Accounts w)
    (bounded : StreaksUpTo steps w) (least : steps ≤ more)
    (further : CountsUp platform w action → steps + 1 ≤ more) : StreaksUpTo more w' where
  stored username document streak stored counted :=
    (stored_upTo moved bounded stored counted).mono least
  session site streak counted := (session_upTo moved accounts bounded counted).mono least
  counting number site v streak phase present := by
    cases moved.pool present with
    | kept held _ => exact (bounded.counting _ _ _ _ _ held).mono least
    | spawned reacted _ => cases begins_of_react reacted
    | served held _ => exact (bounded.counting _ _ _ _ _ held).mono least
    | failed held => exact (bounded.counting _ _ _ _ _ held).mono least
    | resumed held resumed =>
      cases continues_of_resume resumed with
      | answered =>
        split
        case isFalse => exact upTo_zero _
        case isTrue correct =>
          have enough := further ⟨_, _, _, _, _, _, _, rfl, held, correct⟩
          cases counted : (w.sites site).streak with
          | none => exact ⟨by simp, by simp only [Option.getD_none]; omega⟩
          | some before =>
            obtain ⟨positive, most⟩ := bounded.session site before counted
            refine ⟨?_, ?_⟩ <;> simp only [Option.getD_some] <;> omega
  writing number site v username streak phase present := by
    cases moved.pool present with
    | kept held _ => exact (bounded.writing _ _ _ _ _ _ held).mono least
    | spawned reacted _ => cases begins_of_react reacted
    | served held _ => exact (bounded.writing _ _ _ _ _ _ held).mono least
    | failed held => exact (bounded.writing _ _ _ _ _ _ held).mono least
    | resumed held resumed =>
      cases continues_of_resume resumed with
      | counted _ => exact (bounded.counting _ _ _ _ _ held).mono least
  read number site email username document streak present counted := by
    cases moved.pool present with
    | kept held _ => exact (bounded.read _ _ _ _ _ _ held counted).mono least
    | served held served =>
      obtain ⟨_, found⟩ := Prod.mk.inj (Option.some.inj served)
      exact (bounded.stored _ _ _ (Reply.snapshot.inj found) counted).mono least

theorem streaksUpTo_of_initial (initial : Initial w) : StreaksUpTo 0 w where
  stored username document streak stored := by
    rw [initial.noDocument _ (by simp [streakRef])] at stored
    cases stored
  session site streak counted := by
    rw [initial.newInstallation site] at counted
    cases counted
  counting number site v streak phase present := by simp [initial.noJob] at present
  writing number site v username streak phase present := by simp [initial.noJob] at present
  read number site email username document streak present := by simp [initial.noJob] at present

/-- A run of so many steps has counted up no further. -/
theorem streaksUpTo_run {start : World} {actions : List Action} (initial : Initial start)
    (run : Run (step platform) Any start actions w) : StreaksUpTo actions.length w ∧ Accounts w := by
  induction run with
  | nil => exact ⟨streaksUpTo_of_initial initial, accounts_of_initial initial⟩
  | snoc _ _ moved ih =>
    obtain ⟨bounded, accounts⟩ := ih
    have moved := Async.move_of_step moved
    rw [List.length_append, List.length_singleton]
    exact ⟨streaksUpTo_step moved accounts bounded (Nat.le_succ _) fun _ => Nat.le_refl _,
      accounts_step moved accounts⟩

/-- Where no streak is stored, 0 is. -/
theorem StreaksUpTo.streakIn (bounded : StreaksUpTo steps w) (username : String) :
    UpTo steps (streakIn w.store.documents username) := by
  cases counted : (get w.store.documents (streakRef username)).bind fun document =>
    document.int "streak" with
  | none =>
    simp only [DailyTrivia.streakIn, counted]
    exact upTo_zero _
  | some streak =>
    obtain ⟨document, stored, counted'⟩ := Option.bind_eq_some_iff.mp counted
    simp only [DailyTrivia.streakIn, counted]
    exact bounded.stored username document streak stored counted'

/-! ## The leaderboard -/

variable {documents : Store CollectionRef} {snapshot : List Doc} {order : IterationOrder}

/-- The entries that the documents of a store add up from. -/
def streakEntries (documents : Store CollectionRef) : List (String × Int) :=
  (documents .streaks).keys.map fun username => (username, streakIn documents username)

/-- What a snapshot adds up is every username's own streak. -/
theorem streakEntries_perm {db : Database} (encodes : Encodes db documents)
    (listed : snapshot.Perm ((documents .streaks).entries.map Sigma.snd)) :
    (snapshot.map streakEntry).Perm (streakEntries documents) := by
  refine (listed.map streakEntry).trans (List.Perm.of_eq ?_)
  rw [streakEntries, AList.keys, List.keys, List.map_map, List.map_map]
  refine List.map_congr_left fun entry there => ?_
  have stored : get documents (streakRef entry.1) = some entry.2 := AList.mem_lookup_iff.mpr there
  have encoded := stored
  rw [encodes _ (by simp [streakRef])] at encoded
  obtain ⟨streak, _, same⟩ := Option.map_eq_some_iff.mp encoded
  simp only [Function.comp_apply, streakIn, stored, ← same]
  rfl

theorem mem_streakEntries {username : String} {value : Int} :
    (username, value) ∈ streakEntries documents ↔
      username ∈ documents .streaks ∧ value = streakIn documents username := by
  simp only [streakEntries, List.mem_map, Prod.mk.injEq, AList.mem_keys]
  constructor
  · rintro ⟨_, there, rfl, rfl⟩
    exact ⟨there, rfl⟩
  · rintro ⟨there, rfl⟩
    exact ⟨username, there, rfl, rfl⟩

/-- A streak that is not 0 is stored. -/
theorem stored_of_streakIn {username : String} (counts : streakIn documents username ≠ 0) :
    username ∈ documents .streaks := by
  by_contra missing
  have absent : get documents (streakRef username) = none := AList.lookup_eq_none.mpr missing
  simp [streakIn, absent] at counts

/-- Usernames that Swift tells apart have totals of their own. -/
theorem noRepeats_streakEntries
    (apart : ∀ first ∈ documents .streaks, ∀ second ∈ documents .streaks, first ≠ second →
      platform.equal first second = false)
    (perm : (snapshot.map streakEntry).Perm (streakEntries documents)) :
    NoRepeats platform.equal (snapshot.map streakEntry) := by
  have keys : ((snapshot.map streakEntry).map Prod.fst).Perm (documents .streaks).keys := by
    have mapped := perm.map Prod.fst
    simpa [streakEntries, Function.comp_def] using mapped
  have different := keys.nodup_iff.mpr (documents .streaks).nodupKeys
  have pairwise : ((snapshot.map streakEntry).map Prod.fst).Pairwise fun first second =>
      platform.equal first second = false := different.imp_of_mem fun listed listed' other =>
    apart _ (keys.mem_iff.mp listed) _ (keys.mem_iff.mp listed') other
  exact List.pairwise_map.mp pairwise

theorem nodup_streakEntries (documents : Store CollectionRef) : (streakEntries documents).Nodup :=
  (documents .streaks).nodupKeys.map fun _ _ same => (Prod.mk.inj same).1

/-- The entries of a leaderboard whose totals are the entries themselves. -/
theorem mem_leaderboard {dictionary : List (String × Int)} {entry : LeaderboardEntry} :
    entry ∈ sortedLeaderboard (((order.iterate dictionary).map fun (username, value) =>
        ({ username, value } : LeaderboardEntry)).filter fun entry => entry.value ≠ 0) ↔
      (entry.username, entry.value) ∈ dictionary ∧ entry.value ≠ 0 := by
  rw [(sortedLeaderboard_perm _).mem_iff, List.mem_filter, List.mem_map, decide_eq_true_eq]
  refine and_congr_left fun _ => ?_
  constructor
  · rintro ⟨pair, there, rfl⟩
    exact (order.perm dictionary).mem_iff.mp there
  · intro there
    exact ⟨(entry.username, entry.value), (order.perm dictionary).mem_iff.mpr there, rfl⟩

theorem nodup_leaderboard {dictionary : List (String × Int)} (once : dictionary.Nodup) :
    (sortedLeaderboard (((order.iterate dictionary).map fun (username, value) =>
      ({ username, value } : LeaderboardEntry)).filter fun entry => entry.value ≠ 0)).Nodup := by
  have iterated := (order.perm dictionary).nodup_iff.mpr once
  refine (sortedLeaderboard_perm _).nodup_iff.mpr (.filter _ (iterated.map ?_))
  rintro ⟨username, value⟩ ⟨_, _⟩ same
  cases same
  rfl

/-- Streaks that were counted up in few enough steps are listed. -/
theorem listsStreaks_of_bounded {db : Database} {w : World} (order : IterationOrder)
    (encodes : Encodes db w.store.documents) (bounded : StreaksUpTo steps w) (short : steps < 2 ^ 63)
    (apart : ∀ first ∈ w.store.documents .streaks, ∀ second ∈ w.store.documents .streaks,
      first ≠ second → platform.equal first second = false)
    (listed : snapshot.Perm ((w.store.documents .streaks).entries.map Sigma.snd)) :
    ∃ leaderboard, fetchStreakLeaderboard platform order snapshot = some leaderboard ∧
      ListsStreaks w.store.documents leaderboard := by
  have perm := streakEntries_perm encodes listed
  have upTo : ∀ username, UpTo steps (streakIn w.store.documents username) := bounded.streakIn
  have fitting : ∀ entry ∈ snapshot.map streakEntry, isInt entry.2 = true := by
    rintro ⟨username, value⟩ there
    obtain ⟨_, rfl⟩ := mem_streakEntries.mp (perm.mem_iff.mp there)
    obtain ⟨least, most⟩ := upTo username
    simp only [isInt, Bool.and_eq_true, decide_eq_true_eq]
    omega
  have added : totals platform.equal isInt [] (snapshot.map streakEntry) =
      some (snapshot.map streakEntry) := totals_of_noRepeats (noRepeats_streakEntries apart perm) fitting
  have fetched : fetchStreakLeaderboard platform order snapshot = some (sortedLeaderboard
      (((order.iterate (snapshot.map streakEntry)).map fun (username, value) =>
        ({ username, value } : LeaderboardEntry)).filter fun entry => entry.value ≠ 0)) := by
    rw [fetchStreakLeaderboard, added]
    rfl
  have shown : ∀ username value, ⟨username, value⟩ ∈ sortedLeaderboard
      (((order.iterate (snapshot.map streakEntry)).map fun (username, value) =>
        ({ username, value } : LeaderboardEntry)).filter fun entry => entry.value ≠ 0) ↔
      value = streakIn w.store.documents username ∧ value ≠ 0 := by
    intro username value
    rw [mem_leaderboard, perm.mem_iff, mem_streakEntries]
    constructor
    · rintro ⟨⟨_, same⟩, counts⟩
      exact ⟨same, counts⟩
    · rintro ⟨rfl, counts⟩
      exact ⟨⟨stored_of_streakIn counts, rfl⟩, counts⟩
  refine ⟨_, fetched, shown, nodup_leaderboard ?_, ?_, ?_⟩
  · exact perm.nodup_iff.mpr (nodup_streakEntries _)
  · rintro ⟨username, value⟩ there
    obtain ⟨rfl, counts⟩ := (shown username value).mp there
    exact (upTo username).1.lt_of_ne' counts
  · exact List.pairwise_map.mp (ordered_of_fetched fetched)

/-- After any run, however long it would have to be for a streak to leave the range of `Int`, the
streak leaderboard is fetched and lists the stored streaks. -/
theorem listsStreaks_of_run (platform : Platform) (start after : World) (actions : List Action)
    (order : IterationOrder) (snapshot : List Doc) (initial : Initial start)
    (run : Run (step platform) Any start actions after) (short : actions.length < 2 ^ 63)
    (apart : ∀ first ∈ after.store.documents .streaks, ∀ second ∈ after.store.documents .streaks,
      first ≠ second → platform.equal first second = false)
    (listed : snapshot.Perm ((after.store.documents .streaks).entries.map Sigma.snd)) :
    ∃ leaderboard, fetchStreakLeaderboard platform order snapshot = some leaderboard ∧
      ListsStreaks after.store.documents leaderboard := by
  obtain ⟨bounded, _⟩ := streaksUpTo_run initial run
  exact listsStreaks_of_bounded order (encodes_run initial run) bounded short apart listed

/-- Annie answers correctly and Ben does not. -/
def bothAnswer : List Action :=
  signUp 0 "ann@example.com" "annie" ++ signUp 1 "ben@example.com" "ben" ++
  ([.react 0 (.tapSubmitAnswer 0 "Paris") 0, .react 1 (.tapSubmitAnswer 0 "Lyon") 1] :
    List Action) ++ advance 0 ++ advance 1 ++ advance 1 ++ advance 0 ++ advance 0 ++ advance 1 ++
  advance 1 ++ advance 0

theorem listsStreaks_bothAnswer : ∃ after leaderboard,
    execute (step march) (firstLaunch [capital]) bothAnswer = some after ∧
    fetchStreakLeaderboard march ⟨List.reverse, List.reverse_perm⟩
      ((after.store.documents .streaks).entries.map Sigma.snd) = some leaderboard ∧
    ListsStreaks after.store.documents leaderboard := by
  have possible : (execute (step march) (firstLaunch [capital]) bothAnswer).isSome = true := by
    decide +kernel
  obtain ⟨after, executed, run⟩ := Run.exists_of_execute possible
  obtain ⟨leaderboard, fetched, lists⟩ := listsStreaks_of_run march _ _ _
    ⟨List.reverse, List.reverse_perm⟩ _ (initial_firstLaunch _) run (by decide)
    (fun _ _ _ _ => equal_march_of_ne) (List.Perm.refl _)
  exact ⟨after, leaderboard, executed, fetched, lists⟩

example : (execute (step march) (firstLaunch [capital]) bothAnswer).bind (fun after =>
    fetchStreakLeaderboard march ⟨List.reverse, List.reverse_perm⟩
      ((after.store.documents .streaks).entries.map Sigma.snd)) = some [⟨"annie", 1⟩] := by
  decide +kernel

end DailyTrivia
