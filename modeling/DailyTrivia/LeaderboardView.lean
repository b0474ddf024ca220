import DailyTrivia.CorrectAnswers
import DailyTrivia.Programs

/-!
The leaderboard screen. Each time it is presented it fetches both leaderboards, one after the other
and each with reads of its own, while everybody goes on playing. A screen that is dismissed takes
its state with it, so every screen is a site, and a restart is its dismissal.

The streak leaderboard shows one moment of the store. The correct-answers leaderboard shows no
single moment: each of its rows has one.
-/
namespace DailyTrivia

open Documents Programs Runs Totals

inductive LeaderboardType where
  | mostCorrect
  | longestStreak
  deriving DecidableEq

structure LeaderboardView where
  correctAnswerLeaderboard : List LeaderboardEntry := []
  streakLeaderboard : List LeaderboardEntry := []
  isLoading : Bool := true
  selectedLeaderboard : LeaderboardType := .mostCorrect

/-- The list on the screen, below the picker. -/
def LeaderboardView.shown (view : LeaderboardView) : Option (List LeaderboardEntry) :=
  if view.isLoading then none
  else match view.selectedLeaderboard with
    | .mostCorrect => some view.correctAnswerLeaderboard
    | .longestStreak => some view.streakLeaderboard

/-- The order in which a query returns the documents of a collection. -/
structure Listing where
  documents : Collection → List ((_ : String) × Doc)
  perm : ∀ collection, (documents collection).Perm collection.entries

/-- The task of a screen, named after the read it awaits. Nobody else assigns to the screen's
lists, so the returns to the main actor are not told apart from the reads before them. -/
inductive LeaderboardTask where
  /-- `fetchCorrectAnswersLeaderboard`, awaiting the documents of `responses`. -/
  | readUsers
  /-- `fetchCorrectAnswersLeaderboard`, awaiting the correct responses of one of them, with the
  users that are left and the dictionary so far. -/
  | readCorrectAnswers (username : String) (rest : List String) (leaderboard : List (String × Int))
  /-- `fetchStreakLeaderboard`, awaiting the documents of `streaks`. -/
  | readStreaks

inductive LeaderboardCall where
  | getDocuments (collection : CollectionRef)
  | whereField (collection : CollectionRef) (name : String) (value : Value)

inductive LeaderboardReply where
  | refused
  | documents (found : List ((_ : String) × Doc))

def LeaderboardTask.call : LeaderboardTask → LeaderboardCall
  | .readUsers => .getDocuments .allResponses
  | .readCorrectAnswers username _ _ =>
    .whereField (.responses username) "answerOutcome" (.bool true)
  | .readStreaks => .getDocuments .streaks

/-- Queries only read. -/
def serveLeaderboard (listing : Listing) (backend : Backend) : LeaderboardCall →
    Option (Backend × LeaderboardReply)
  | .getDocuments collection =>
    some (backend, .documents (listing.documents (backend.documents collection)))
  | .whereField collection name value =>
    some (backend, .documents ((listing.documents (backend.documents collection)).filter
      fun found => found.2 name == some value))

section View

variable (platform : Platform) (order : IterationOrder)

/-- The next turn of the loop of `fetchCorrectAnswersLeaderboard`, or its end. -/
def nextUser (users : List String) (leaderboard : List (String × Int)) (view : LeaderboardView) :
    LeaderboardView × Option LeaderboardTask :=
  match users with
  | username :: rest => (view, some (.readCorrectAnswers username rest leaderboard))
  | [] => ({ view with
      correctAnswerLeaderboard := sortedLeaderboard ((order.iterate leaderboard).map
        fun (username, value) => { username, value }) }, some .readStreaks)

/-- The `.task` of the screen. Each of the two loads catches its own error. -/
def LeaderboardTask.resume (task : LeaderboardTask) (reply : LeaderboardReply)
    (view : LeaderboardView) : Option LeaderboardView × Option LeaderboardTask :=
  match task, reply with
  | .readUsers, .documents usersSnapshot =>
    let (view, next) := nextUser order (usersSnapshot.map Sigma.fst) [] view
    (some view, next)
  | .readCorrectAnswers username rest leaderboard, .documents correctAnswersSnapshot =>
    let correctCount : Int := correctAnswersSnapshot.length
    let (view, next) := nextUser order rest
      (if correctCount > 0 then assign platform.equal username correctCount leaderboard
        else leaderboard) view
    (some view, next)
  | .readUsers, .refused | .readCorrectAnswers _ _ _, .refused =>
    (some { view with isLoading := false }, some .readStreaks)
  | .readStreaks, .documents snapshot =>
    match fetchStreakLeaderboard platform order (snapshot.map Sigma.snd) with
    | some leaderboard =>
      (some { view with streakLeaderboard := leaderboard, isLoading := false }, none)
    -- an addition that traps ends the process, and the screen with it
    | none => (none, none)
  | .readStreaks, .refused => (some { view with isLoading := false }, none)

inductive LeaderboardEvent where
  | appears
  | select (type : LeaderboardType)

def reactLeaderboard (event : LeaderboardEvent) (screen : Option LeaderboardView) :
    Option (Option LeaderboardView × Option LeaderboardTask) :=
  match event, screen with
  | .appears, none => some (some {}, some .readUsers)
  | .select type, some view =>
    if view.isLoading then none else some (some { view with selectedLeaderboard := type }, none)
  | _, _ => none

/-- The screens of all installations. -/
def leaderboards (listing : Listing) : Async.Machine Backend (Option LeaderboardView)
    LeaderboardCall LeaderboardReply LeaderboardTask LeaderboardEvent where
  call := LeaderboardTask.call
  serve := serveLeaderboard listing
  refused := .refused
  resume task reply screen :=
    match screen with
    | some view => task.resume platform order reply view
    | none => (none, none)
  react := reactLeaderboard
  restart _ := none

end View

abbrev Screens := Async.World Backend (Option LeaderboardView) LeaderboardTask LeaderboardReply

/-! ## What a screen shows has been so

`Been` are the stores that there have been. -/

section Truth

variable (platform : Platform) (order : IterationOrder) (listing : Listing)
variable (Been : Backend → Prop)

/-- The user was listed in `responses`. -/
def WasUser (id : String) : Prop :=
  ∃ backend, Been backend ∧ id ∈ backend.documents .allResponses

/-- A row has its number of correct responses from some moment. -/
structure WasCounted (username : String) (value : Int) : Prop where
  positive : 0 < value
  counted : ∃ id, (username = id ∨ platform.equal username id = true) ∧ WasUser Been id ∧
    ∃ backend, Been backend ∧ correctCount backend.documents id = value

/-- Both lists of a screen have been true, and the streaks all at one moment. -/
structure TellsTruth (view : LeaderboardView) : Prop where
  correct : ∀ entry ∈ view.correctAnswerLeaderboard,
    WasCounted platform Been entry.username entry.value
  ordered : view.correctAnswerLeaderboard.Pairwise fun first second => first.value ≥ second.value
  streaks : view.streakLeaderboard = [] ∨ ∃ backend, Been backend ∧
    fetchStreakLeaderboard platform order
      ((listing.documents (backend.documents .streaks)).map Sigma.snd) = some view.streakLeaderboard

/-- So is what a task knows. -/
def LeaderboardTask.Knows : LeaderboardTask → Prop
  | .readCorrectAnswers username rest leaderboard =>
    (∀ user ∈ username :: rest, WasUser Been user) ∧
    ∀ entry ∈ leaderboard, WasCounted platform Been entry.1 entry.2
  | .readUsers | .readStreaks => True

/-- So is what it has read. -/
def LeaderboardTask.HasRead : LeaderboardTask → LeaderboardReply → Prop
  | .readUsers, .documents found => ∀ user ∈ found.map Sigma.fst, WasUser Been user
  | .readCorrectAnswers username _ _, .documents found =>
    ∃ backend, Been backend ∧ correctCount backend.documents username = found.length
  | .readStreaks, .documents found =>
    ∃ backend, Been backend ∧ found = listing.documents (backend.documents .streaks)
  | _, .refused => True

structure Truthful (w : Screens) : Prop where
  screens : ∀ site view, w.sites site = some view → TellsTruth platform order listing Been view
  knows : ∀ number site task phase, w.pool number = some ⟨site, task, phase⟩ →
    task.Knows platform Been
  read : ∀ number site task reply, w.pool number = some ⟨site, task, .answered reply⟩ →
    task.HasRead listing Been reply

end Truth

/-- Whatever is loading has a task to end it. -/
def LoadsUnderWay (w : Screens) : Prop :=
  ∀ site view, w.sites site = some view → view.isLoading = true →
    ∃ number task phase, w.pool number = some ⟨site, task, phase⟩

variable {platform : Platform} {order : IterationOrder} {listing : Listing}
variable {Been Been' : Backend → Prop} {view : LeaderboardView} {username : String}
variable {leaderboard : List (String × Int)} {users : List String} {value : Int}

/-- A count does not depend on the order of the documents. -/
theorem correctCount_listing (listing : Listing) (documents : Store CollectionRef)
    (username : String) :
    correctCount documents username =
      ((listing.documents (documents (.responses username))).filter
        fun found => found.2 "answerOutcome" == some (.bool true)).length := by
  have same := (listing.perm (documents (.responses username))).filter fun found =>
    found.2 "answerOutcome" == some (.bool true)
  simp [correctCount, whereField, List.filter_map, Function.comp_def, same.length_eq]

/-! ### What has been stays so -/

theorem WasUser.later {id : String} (more : ∀ backend, Been backend → Been' backend)
    (user : WasUser Been id) : WasUser Been' id := by
  obtain ⟨store, been, listed⟩ := user
  exact ⟨store, more store been, listed⟩

theorem WasCounted.later (more : ∀ backend, Been backend → Been' backend)
    (counted : WasCounted platform Been username value) : WasCounted platform Been' username value := by
  obtain ⟨positive, id, named, user, store, been, count⟩ := counted
  exact ⟨positive, id, named, user.later more, store, more store been, count⟩

theorem TellsTruth.later (more : ∀ backend, Been backend → Been' backend)
    (truth : TellsTruth platform order listing Been view) :
    TellsTruth platform order listing Been' view where
  correct entry listed := (truth.correct entry listed).later more
  ordered := truth.ordered
  streaks := truth.streaks.imp_right fun ⟨store, been, shown⟩ => ⟨store, more store been, shown⟩

theorem knows_later {task : LeaderboardTask} (more : ∀ backend, Been backend → Been' backend)
    (knows : task.Knows platform Been) : task.Knows platform Been' := by
  cases task with
  | readCorrectAnswers username rest leaderboard =>
    obtain ⟨users, counted⟩ := knows
    exact ⟨fun user left => (users user left).later more, fun entry listed =>
      (counted entry listed).later more⟩
  | _ => trivial

theorem hasRead_later {task : LeaderboardTask} {reply : LeaderboardReply}
    (more : ∀ backend, Been backend → Been' backend)
    (read : task.HasRead listing Been reply) : task.HasRead listing Been' reply := by
  cases reply with
  | refused => cases task <;> trivial
  | documents found =>
    cases task with
    | readUsers => exact fun user listed => (read user listed).later more
    | _ =>
      obtain ⟨store, been, found⟩ := read
      exact ⟨store, more store been, found⟩

/-! ### One segment of a screen's task -/

/-- An assignment to the dictionary keeps its rows true. -/
theorem counted_assign (rows : ∀ entry ∈ leaderboard, WasCounted platform Been entry.1 entry.2)
    (positive : 0 < value) (user : WasUser Been username)
    (count : ∃ backend, Been backend ∧ correctCount backend.documents username = value) :
    ∀ entry ∈ assign platform.equal username value leaderboard,
      WasCounted platform Been entry.1 entry.2 := by
  induction leaderboard with
  | nil =>
    intro entry listed
    obtain rfl := List.mem_singleton.mp listed
    exact ⟨positive, username, .inl rfl, user, count⟩
  | cons first rest ih =>
    obtain ⟨listed, total⟩ := first
    have later := ih fun entry present => rows entry (List.mem_cons_of_mem _ present)
    intro entry present
    simp only [assign] at present
    split at present
    · rename_i found
      rcases List.mem_cons.mp present with rfl | present
      · exact ⟨positive, username, .inr found, user, count⟩
      · exact rows entry (List.mem_cons_of_mem _ present)
    · rcases List.mem_cons.mp present with rfl | present
      · exact rows _ List.mem_cons_self
      · exact later entry present

/-- The loop goes on with true rows, or ends with them on the screen. -/
theorem truth_nextUser (truth : TellsTruth platform order listing Been view)
    (left : ∀ user ∈ users, WasUser Been user)
    (rows : ∀ entry ∈ leaderboard, WasCounted platform Been entry.1 entry.2) :
    TellsTruth platform order listing Been (nextUser order users leaderboard view).1 ∧
    ∀ task, (nextUser order users leaderboard view).2 = some task → task.Knows platform Been := by
  cases users with
  | cons username rest =>
    refine ⟨truth, ?_⟩
    rintro task ⟨⟩
    exact ⟨left, rows⟩
  | nil =>
    refine ⟨⟨?_, sortedLeaderboard_ordered _, truth.streaks⟩, ?_⟩
    · intro entry listed
      obtain ⟨row, present, rfl⟩ := List.mem_map.mp ((sortedLeaderboard_perm _).mem_iff.mp listed)
      exact rows row ((order.perm leaderboard).mem_iff.mp present)
    · rintro task ⟨⟩
      trivial

theorem truth_resume {task : LeaderboardTask} {reply : LeaderboardReply}
    {screen : Option LeaderboardView} {next : Option LeaderboardTask}
    (truth : TellsTruth platform order listing Been view) (knows : task.Knows platform Been)
    (read : task.HasRead listing Been reply)
    (resumed : task.resume platform order reply view = (screen, next)) :
    (∀ view', screen = some view' → TellsTruth platform order listing Been view') ∧
    ∀ task', next = some task' → task'.Knows platform Been := by
  have stopped : TellsTruth platform order listing Been { view with isLoading := false } :=
    ⟨truth.correct, truth.ordered, truth.streaks⟩
  cases task with
  | readUsers =>
    cases reply with
    | refused =>
      cases resumed
      exact ⟨fun _ same => Option.some.inj same ▸ stopped, fun _ same => Option.some.inj same ▸ trivial⟩
    | documents found =>
      cases resumed
      have noRows : ∀ entry ∈ ([] : List (String × Int)), WasCounted platform Been entry.1 entry.2 := by
        simp
      obtain ⟨truth', knows'⟩ := truth_nextUser truth read noRows
      exact ⟨fun _ same => Option.some.inj same ▸ truth', knows'⟩
  | readCorrectAnswers username rest leaderboard =>
    obtain ⟨users, rows⟩ := knows
    cases reply with
    | refused =>
      cases resumed
      exact ⟨fun _ same => Option.some.inj same ▸ stopped, fun _ same => Option.some.inj same ▸ trivial⟩
    | documents found =>
      cases resumed
      have left : ∀ user ∈ rest, WasUser Been user := fun user present =>
        users user (List.mem_cons_of_mem _ present)
      have rows' : ∀ entry ∈ (if (found.length : Int) > 0
          then assign platform.equal username found.length leaderboard else leaderboard),
          WasCounted platform Been entry.1 entry.2 := by
        split
        · exact counted_assign rows ‹_› (users username List.mem_cons_self) read
        · exact rows
      obtain ⟨truth', knows'⟩ := truth_nextUser truth left rows'
      exact ⟨fun _ same => Option.some.inj same ▸ truth', knows'⟩
  | readStreaks =>
    cases reply with
    | refused =>
      cases resumed
      exact ⟨fun _ same => Option.some.inj same ▸ stopped, fun _ same => by cases same⟩
    | documents found =>
      simp only [LeaderboardTask.resume] at resumed
      split at resumed <;> cases resumed
      · rename_i fetched
        obtain ⟨store, been, rfl⟩ := read
        have shown : TellsTruth platform order listing Been
            { view with streakLeaderboard := _, isLoading := false } :=
          ⟨truth.correct, truth.ordered, .inr ⟨store, been, fetched⟩⟩
        exact ⟨fun _ same => Option.some.inj same ▸ shown, fun _ same => by cases same⟩
      · refine ⟨?_, ?_⟩ <;> rintro _ ⟨⟩

/-! ### One step of the screens -/

variable {w w' : Screens} {action : Async.Action LeaderboardEvent} {site : ℕ}
variable {screen : Option LeaderboardView} {next : Option LeaderboardTask}

/-- An event opens a screen or turns to the other list. -/
theorem truth_react {event : LeaderboardEvent} {before : Option LeaderboardView}
    (truth : ∀ view, before = some view → TellsTruth platform order listing Been view)
    (reacted : reactLeaderboard event before = some (screen, next)) :
    (∀ view, screen = some view → TellsTruth platform order listing Been view) ∧
    ∀ task, next = some task → task = .readUsers := by
  cases event with
  | appears =>
    cases before with
    | some view => cases reacted
    | none =>
      cases reacted
      refine ⟨?_, fun _ same => (Option.some.inj same).symm⟩
      rintro _ ⟨⟩
      exact ⟨by simp, .nil, .inl rfl⟩
  | select type =>
    cases before with
    | none => cases reacted
    | some view =>
      simp only [reactLeaderboard] at reacted
      split at reacted <;> cases reacted
      refine ⟨?_, by simp⟩
      rintro _ ⟨⟩
      exact ⟨(truth view rfl).correct, (truth view rfl).ordered, (truth view rfl).streaks⟩

/-- What a query finds now is so now. -/
theorem hasRead_of_served {task : LeaderboardTask} {reply : LeaderboardReply} {store after : Backend}
    (served : serveLeaderboard listing store task.call = some (after, reply))
    (now : Been' store) : task.HasRead listing Been' reply := by
  cases task with
  | readUsers =>
    cases served
    intro user listed
    obtain ⟨entry, present, rfl⟩ := List.mem_map.mp listed
    refine ⟨_, now, AList.mem_keys.mpr ?_⟩
    exact List.mem_keys_of_mem ((listing.perm _).mem_iff.mp present)
  | readCorrectAnswers username rest leaderboard =>
    cases served
    exact ⟨_, now, correctCount_listing listing _ username⟩
  | readStreaks =>
    cases served
    exact ⟨_, now, rfl⟩

/-- The screens tell the truth after a step, if whatever has been, or is now, will have been. -/
theorem truthful_step (moved : Async.Move (leaderboards platform order listing) w action w')
    (more : ∀ backend, Been backend → Been' backend)
    (now : Been' w.store)
    (truthful : Truthful platform order listing Been w) :
    Truthful platform order listing Been' w' where
  screens site view present := by
    cases moved.memory site with
    | kept same => exact (truthful.screens site view (same ▸ present)).later more
    | @reacted event job task reacted =>
      exact ((truth_react (truthful.screens site) reacted).1 view present).later more
    | restarted same =>
      rw [same] at present
      cases present
    | @resumed job task reply next held resumed =>
      cases before : w.sites site with
      | none =>
        simp only [leaderboards, before, Prod.mk.injEq] at resumed
        rw [← resumed.1] at present
        cases present
      | some view' =>
        simp only [leaderboards, before] at resumed
        have truth := truth_resume (truthful.screens site view' before) (truthful.knows _ _ _ _ held)
          (truthful.read _ _ _ _ held) resumed
        exact (truth.1 view present).later more
  knows number site task phase present := by
    cases moved.pool present with
    | kept held _ | served held _ | failed held =>
      exact knows_later more (truthful.knows _ _ _ _ held)
    | spawned reacted _ =>
      obtain rfl := (truth_react (truthful.screens site) reacted).2 task rfl
      trivial
    | resumed held resumed =>
      cases shown : w.sites site with
      | none => simp [leaderboards, shown] at resumed
      | some view =>
        simp only [leaderboards, shown] at resumed
        have truth := truth_resume (truthful.screens site view shown) (truthful.knows _ _ _ _ held)
          (truthful.read _ _ _ _ held) resumed
        exact knows_later more (truth.2 task rfl)
  read number site task reply present := by
    cases moved.pool present with
    | kept held _ => exact hasRead_later more (truthful.read _ _ _ _ held)
    | served held served => exact hasRead_of_served served now
    | failed held => cases task <;> trivial

/-! ### Loading ends -/

/-- The last segment of a screen's task ends the loading. -/
theorem loaded_of_resume {task : LeaderboardTask} {reply : LeaderboardReply} {view' : LeaderboardView}
    (resumed : task.resume platform order reply view = (some view', none)) :
    view'.isLoading = false := by
  have going : ∀ users leaderboard, (nextUser order users leaderboard view).2 ≠ none := by
    intro users leaderboard
    cases users <;> simp [nextUser]
  cases task with
  | readUsers | readCorrectAnswers username rest leaderboard =>
    cases reply with
    | refused => cases resumed
    | documents found =>
      simp only [LeaderboardTask.resume, Prod.mk.injEq] at resumed
      exact absurd resumed.2 (going _ _)
  | readStreaks =>
    cases reply with
    | refused =>
      cases resumed
      rfl
    | documents found =>
      simp only [LeaderboardTask.resume] at resumed
      split at resumed <;> cases resumed
      rfl

theorem loadsUnderWay_step (moved : Async.Move (leaderboards platform order listing) w action w')
    (loads : LoadsUnderWay w) : LoadsUnderWay w' := by
  intro site view present loading
  -- the job that resumes at a screen goes on, or it ends the loading
  have resumes : ∀ number task reply next, w.pool number = some ⟨site, task, .answered reply⟩ →
      (leaderboards platform order listing).resume task reply (w.sites site) =
        (w'.sites site, next) → w'.pool number = next.map (⟨site, ·, .issued⟩) →
      ∃ number task phase, w'.pool number = some ⟨site, task, phase⟩ := by
    intro number task reply next held resumed left
    cases next with
    | some next => exact ⟨number, next, .issued, left⟩
    | none =>
      cases shown : w.sites site with
      | none =>
        simp only [leaderboards, shown, present, Prod.mk.injEq] at resumed
        cases resumed.1
      | some before =>
        simp only [leaderboards, shown, present] at resumed
        rw [loaded_of_resume resumed] at loading
        cases loading
  cases moved.memory site with
  | kept same =>
    obtain ⟨number, task, phase, held⟩ := loads site view (same ▸ present) loading
    by_cases moves : action.moved = some number
    · have becomes := moved.moved held moves
      cases becomes with
      | served _ left => exact ⟨number, task, _, left⟩
      | failed left => exact ⟨number, task, _, left⟩
      | resumed resumed left => exact resumes number _ _ _ held resumed left
    · refine ⟨number, task, phase, moved.stays held moves ?_⟩
      rintro here rfl rfl
      cases moved with
      | restart => simp [leaderboards] at present
  | @reacted event job task reacted =>
    cases event with
    | appears =>
      cases shown : w.sites site with
      | some before => simp [leaderboards, reactLeaderboard, shown] at reacted
      | none =>
        have begun := reacted
        simp only [leaderboards, reactLeaderboard, shown, Option.some.injEq, Prod.mk.injEq] at begun
        obtain ⟨_, rfl⟩ := begun
        exact ⟨job, _, _, moved.begun reacted⟩
    | select type =>
      cases shown : w.sites site with
      | none => simp [leaderboards, reactLeaderboard, shown] at reacted
      | some before =>
        simp only [leaderboards, reactLeaderboard, shown] at reacted
        split at reacted
        · cases reacted
        · rw [present] at reacted
          cases reacted
          exact absurd loading ‹_›
  | restarted same =>
    rw [same] at present
    cases present
  | resumed held resumed =>
    cases moved.moved held rfl with
    | resumed resumed left => exact resumes _ _ _ _ held resumed left

/-! ## A screen alone -/

section Alone

variable {store : Backend} {streaks : List LeaderboardEntry}

/-- The users in the order in which they are gone through. -/
def usersSnapshot (listing : Listing) (store : Backend) : List String :=
  (listing.documents (store.documents .allResponses)).map Sigma.fst

/-- The dictionary after a turn of the loop. -/
def countUser (platform : Platform) (store : Backend) (leaderboard : List (String × Int))
    (username : String) : List (String × Int) :=
  if correctCount store.documents username > 0 then
    assign platform.equal username (correctCount store.documents username) leaderboard
  else leaderboard

/-- What both fetches return of one store. -/
def fetched (platform : Platform) (order : IterationOrder) (listing : Listing) (store : Backend)
    (streaks : List LeaderboardEntry) : LeaderboardView where
  correctAnswerLeaderboard :=
    fetchCorrectAnswersLeaderboard platform order store.documents (usersSnapshot listing store)
  streakLeaderboard := streaks
  isLoading := false

/-- The reads of a screen: the users, the correct responses of each of them, and the streaks. -/
def screenReads (listing : Listing) (store : Backend) : List LeaderboardCall :=
  .getDocuments .allResponses ::
    (usersSnapshot listing store).map (fun username =>
      .whereField (.responses username) "answerOutcome" (.bool true)) ++ [.getDocuments .streaks]

/-- A screen that nobody disturbs goes through the users that are left, then through the streaks. -/
theorem makes_nextUser {leaderboard : List (String × Int)} {users : List String}
    {view : LeaderboardView} {task : LeaderboardTask}
    (fetches : fetchStreakLeaderboard platform order
      ((listing.documents (store.documents .streaks)).map Sigma.snd) = some streaks)
    (same : users.foldl (countUser platform store) leaderboard =
      (usersSnapshot listing store).foldl (countUser platform store) [])
    (next : nextUser order users leaderboard {} = (view, some task)) :
    Async.Makes (leaderboards platform order listing) store (some view) task
      (users.map (fun username =>
        .whereField (.responses username) "answerOutcome" (.bool true)) ++ [.getDocuments .streaks])
      store (some (fetched platform order listing store streaks)) := by
  induction users generalizing leaderboard view task with
  | nil =>
    cases next
    obtain rfl : leaderboard = (usersSnapshot listing store).foldl (countUser platform store) [] :=
      same
    have served : (leaderboards platform order listing).serve store
        ((leaderboards platform order listing).call .readStreaks) =
        some (store, .documents (listing.documents (store.documents .streaks))) := rfl
    refine .ends served ?_
    simp only [leaderboards, LeaderboardTask.resume, fetches]
    rfl
  | cons username rest ih =>
    cases next
    cases going : nextUser order rest (countUser platform store leaderboard username) {} with
    | mk view' next' =>
      cases next' with
      | none => cases rest <;> cases going
      | some next' =>
        have served : (leaderboards platform order listing).serve store
            ((leaderboards platform order listing).call
              (.readCorrectAnswers username rest leaderboard)) =
            some (store, .documents ((listing.documents
              (store.documents (.responses username))).filter
                fun found => found.2 "answerOutcome" == some (.bool true))) := rfl
        refine .goes served ?_ (ih same going)
        simp only [leaderboards, LeaderboardTask.resume, ← correctCount_listing]
        rw [← countUser, going]

/-- A screen that nobody disturbs shows what both fetches return of the store. -/
theorem makes_fetched (platform : Platform) (order : IterationOrder) (listing : Listing)
    (fetches : fetchStreakLeaderboard platform order
      ((listing.documents (store.documents .streaks)).map Sigma.snd) = some streaks) :
    Async.Makes (leaderboards platform order listing) store (some {}) .readUsers
      (screenReads listing store) store (some (fetched platform order listing store streaks)) := by
  cases going : nextUser order (usersSnapshot listing store) [] {} with
  | mk view next =>
    cases next with
    | none => cases listed : usersSnapshot listing store <;> rw [listed] at going <;> cases going
    | some task =>
      have served : (leaderboards platform order listing).serve store
          ((leaderboards platform order listing).call .readUsers) =
          some (store, .documents (listing.documents (store.documents .allResponses))) := rfl
      refine .goes served ?_ (makes_nextUser fetches rfl going)
      simp only [leaderboards, LeaderboardTask.resume]
      rw [← usersSnapshot, going]

end Alone

/-! ## Screens beside anything that changes the store -/

section Beside

variable {Own A : Type}

/-- The screens, and some program that shares the store with them. -/
abbrev withScreens (platform : Platform) (order : IterationOrder) (listing : Listing)
    (host : Program Backend Own A) :=
  beside host (ofMachine (leaderboards platform order listing))

variable {host : Program Backend Own A}
variable {start after : Backend × Own × Tasks (Option LeaderboardView) LeaderboardTask
  LeaderboardReply}
variable {actions : List (A ⊕ Async.Action LeaderboardEvent)}

theorem Truthful.elsewhere {w : Screens} (truthful : Truthful platform order listing Been w)
    (more : ∀ backend, Been backend → Been' backend) (store : Backend) :
    Truthful platform order listing Been' { w with store } where
  screens site view present := (truthful.screens site view present).later more
  knows _ _ _ _ held := knows_later more (truthful.knows _ _ _ _ held)
  read _ _ _ _ held := hasRead_later more (truthful.read _ _ _ _ held)

theorem truthful_of_run (closed : start.2.2 = (fun _ => none, fun _ => none))
    (run : Run (withScreens platform order listing host) Any start actions after) :
    Truthful platform order listing (PastStore (withScreens platform order listing host) start actions)
      (tasksOf after) ∧ LoadsUnderWay (tasksOf after) := by
  refine invariant_of_run
    (fun _ been w => Truthful platform order listing been w ∧ LoadsUnderWay w) ?_ ?_ ?_ run
  · rintro actions been been' w action own store' own' ⟨truthful, loads⟩ more _
    exact ⟨truthful.elsewhere more store', loads⟩
  · rintro actions been been' w action w' ⟨truthful, loads⟩ more now moved
    exact ⟨truthful_step moved more now truthful, loadsUnderWay_step moved loads⟩
  · rw [tasksOf, closed]
    exact ⟨⟨nofun, nofun, nofun⟩, nofun⟩

/-- Whatever changes the store meanwhile, a screen shows rows that were true, and the streaks of
one moment; and its loading ends with its task. -/
theorem screen_of_run (platform : Platform) (order : IterationOrder) (listing : Listing)
    (host : Program Backend Own A)
    (start after : Backend × Own × Tasks (Option LeaderboardView) LeaderboardTask LeaderboardReply)
    (actions : List (A ⊕ Async.Action LeaderboardEvent))
    (closed : start.2.2 = (fun _ => none, fun _ => none))
    (run : Run (withScreens platform order listing host) Any start actions after)
    (site : ℕ) (view : LeaderboardView) (present : after.2.2.1 site = some view) :
    TellsTruth platform order listing
      (PastStore (withScreens platform order listing host) start actions) view ∧
    ((∀ number task phase, after.2.2.2 number ≠ some ⟨site, task, phase⟩) →
      view.isLoading = false) := by
  obtain ⟨truthful, loads⟩ := truthful_of_run closed run
  refine ⟨truthful.screens site view present, fun done => ?_⟩
  by_contra loading
  obtain ⟨number, task, phase, held⟩ := loads site view present (by simpa using loading)
  exact done number task phase held

/-- Somebody writes documents by hand. -/
def console : Program Backend Unit (DocumentRef × Doc)
  | (store, own), (ref, document) =>
    some ({ store with documents := Documents.set store.documents ref document }, own)

/-- Annie's answer and her streak are written while a screen is loading. -/
def watched : List ((DocumentRef × Doc) ⊕ Async.Action LeaderboardEvent) :=
  [.inl (⟨.allResponses, "annie"⟩, fields []), .inr (.react 0 .appears 0)] ++
  (Async.await 0 true).map .inr ++
  [.inl (responseRef "annie" "20250301", fields [("answerOutcome", .bool true)])] ++
  (Async.await 0 true).map .inr ++ [.inl (streakRef "annie", streakData "annie" 1)] ++
  (Async.await 0 true).map .inr

theorem screen_watched : ∃ (order : IterationOrder) (listing : Listing) (view : LeaderboardView),
    view.correctAnswerLeaderboard = [⟨"annie", 1⟩] ∧ view.streakLeaderboard = [⟨"annie", 1⟩] ∧
    TellsTruth march order listing
      (PastStore (withScreens march order listing console)
        (⟨fun _ => ∅, fun _ => false⟩, (), (fun _ => none, fun _ => none)) watched) view := by
  have shown : (((execute (withScreens march ⟨id, fun _ => .refl _⟩ ⟨AList.entries, fun _ => .refl _⟩
      console) (⟨fun _ => ∅, fun _ => false⟩, (), (fun _ => none, fun _ => none)) watched).bind
        fun after => after.2.2.1 0).filter fun view =>
          view.correctAnswerLeaderboard = [⟨"annie", 1⟩] ∧
          view.streakLeaderboard = [⟨"annie", 1⟩]).isSome = true := by
    decide +kernel
  obtain ⟨view, shown⟩ := Option.isSome_iff_exists.mp shown
  obtain ⟨shown, rows⟩ := Option.filter_eq_some_iff.mp shown
  obtain ⟨after, executed, present⟩ := Option.bind_eq_some_iff.mp shown
  obtain ⟨correct, streaks⟩ := of_decide_eq_true rows
  exact ⟨_, _, view, correct, streaks, (screen_of_run march _ _ _ _ after watched rfl
    (.of_execute (fun _ _ _ => trivial) executed) 0 view present).1⟩

end Beside

end DailyTrivia
