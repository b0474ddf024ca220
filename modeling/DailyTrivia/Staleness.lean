import DailyTrivia.ResponseSlots
import DailyTrivia.ViewContents

/-!
Nothing stale is shown. Every window has a `GameService` of its own, and all of them share the
persisted `lastSeenDate`. The first refresh of a day clears its own service and sets the date,
so no other service of the installation is cleared on that day, and what a fetch or submission
of an earlier day brings afterwards stays.

`RefreshedTogether` has nothing of an earlier day left when a service is cleared. Then whatever
a service shows is of `lastSeenDate` or a later day (`Current`), and after a loading of the day
that is the day itself.
-/
namespace DailyTrivia

open Runs Function

/-- The loading has done everything it does, without an error. -/
def LoadTask.completes (v : ℕ) (d : Device) : LoadTask → Reply → Bool
  | .checkResponseExists, _ => d.username.isNone
  | .readResponse _ today, .snapshot snapshot => (d.checkResponseExists v today snapshot).isOk
  | _, _ => false

/-- The reply to the fetch of the question is no error. -/
def loadsQuestion : Reply → Bool
  | .snapshot none => true
  | .snapshot (some document) => (TriviaQuestion.decode document).isSome
  | _ => false

/-- The day each loading has refreshed its service on, unless its fetch has failed. -/
def observeLoading (refreshed : ℕ → Option ℕ) (w : World) : Action → ℕ → Option ℕ
  | .resume number =>
    match w.pool number with
    | some ⟨site, .load _ .refreshData, .answered _⟩ =>
      update refreshed number (some (w.sites site).day)
    | some ⟨_, .load _ (.readQuestion _), .answered reply⟩ =>
      if loadsQuestion reply then refreshed else update refreshed number none
    | _ => refreshed
  | _ => refreshed

/-- The app and the days its loadings have refreshed on. -/
abbrev loadStep (platform : Platform) :
    World × (ℕ → Option ℕ) → Action → Option (World × (ℕ → Option ℕ)) :=
  Observed (step platform) observeLoading

/-- A service that has refreshed, fetched and checked on one day without an error shows that
day's question and answer, or none. -/
def NothingStale (platform : Platform) (allowed : World → Action → Prop) : Prop :=
  ∀ (start : World) (before after : World × (ℕ → Option ℕ)) (actions : List Action)
    (number site v : ℕ) (task : LoadTask) (reply : Reply), Initial start → QuizDated start →
    Run (loadStep platform) (fun s => allowed s.1) (start, fun _ => none) actions before →
    allowed before.1 (.resume number) → loadStep platform before (.resume number) = some after →
    before.1.pool number = some ⟨site, .load v task, .answered reply⟩ →
    task.completes v (before.1.sites site) reply = true →
    before.2 number = some (before.1.sites site).day →
    Holds (· = platform.dateFormattedForDb (after.1.sites site).day) (after.1.sites site) v

/-- The service of a view can still be loaded, or is being loaded. -/
def Live (w : World) (site v : ℕ) : Prop :=
  (∀ view, (w.sites site).views v = some view → view.onScreen = true) ∨
  ∃ number task phase, w.pool number = some ⟨site, .load v task, phase⟩

/-- `refreshData` of a view clears its service. -/
def Clears (platform : Platform) (w : World) (action : Action) (site v : ℕ) : Prop :=
  ∃ number reply, action = .resume number ∧
    w.pool number = some ⟨site, .load v .refreshData, .answered reply⟩ ∧
    (w.sites site).lastSeenDate ≠ platform.dateFormattedForDb (w.sites site).day

/-- When a service is cleared, the others of the installation show nothing of an earlier day, and
no fetch or submission of an earlier day is under way. -/
structure RefreshedTogether (platform : Platform) (w : World) (action : Action) : Prop where
  others : ∀ site v u, Clears platform w action site v → u ≠ v → Live w site u →
    Holds (· = platform.dateFormattedForDb (w.sites site).day) (w.sites site) u
  underWay : ∀ site v u number task phase date, Clears platform w action site v →
    w.pool number = some ⟨site, task, phase⟩ → Live w site u → Brought task u date →
    date = platform.dateFormattedForDb (w.sites site).day

/-- The installation was last refreshed on this day. -/
def Seen (platform : Platform) (d : Device) (seen : ℕ) : Prop :=
  d.lastSeenDate = platform.dateFormattedForDb seen ∧ seen ≤ d.day

/-- A date since the last refresh. -/
def Current (platform : Platform) (d : Device) (date : String) : Prop :=
  ∃ seen day, Seen platform d seen ∧ date = platform.dateFormattedForDb day ∧ seen ≤ day ∧
    day ≤ d.day

/-- What holds as long as nothing of an earlier day is left. -/
structure AllCurrent (platform : Platform) (w : World) (refreshed : ℕ → Option ℕ) : Prop where
  questions : QuizDated w
  fetched : ∀ number site task reply, w.pool number = some ⟨site, task, .answered reply⟩ →
    FetchedFor task reply
  shown : ∀ site v, Live w site v → Holds (Current platform (w.sites site)) (w.sites site) v
  underWay : ∀ number site task phase v date, w.pool number = some ⟨site, task, phase⟩ →
    Live w site v → Brought task v date → Current platform (w.sites site) date
  loading : ∀ number site v task phase, w.pool number = some ⟨site, .load v task, phase⟩ →
    task ≠ .refreshData → ∃ seen, Seen platform (w.sites site) seen ∧
      ∀ day, refreshed number = some day → day ≤ seen

variable {platform : Platform} {w w' : World} {action : Action} {refreshed : ℕ → Option ℕ}
variable {d d' : Device} {reply : Reply} {site v : ℕ}

/-- Only `refreshData` sets `lastSeenDate`. -/
theorem resume_lastSeen {task : Task} {next : Option Task}
    (resumed : resume platform task reply d = (d', next)) (other : ∀ v, task ≠ .load v .refreshData) :
    d'.lastSeenDate = d.lastSeenDate := by
  obtain rfl : (resume platform task reply d).1 = d' := congrArg Prod.fst resumed
  cases viewed : task.view with
  | none =>
    cases task with
    | signIn task =>
      obtain ⟨_, _, _, _, same⟩ := signIn_frame task reply d
      simp only [resume, same]
    | _ => cases viewed
  | some v =>
    have leaves := @leaves_of_resume platform v task viewed reply d
    generalize (resume platform task reply d).1 = left at leaves ⊢
    cases leaves with
    | refreshed => exact absurd rfl (other v)
    | _ => rfl

theorem react_lastSeen {event : Event} {task : Option Task}
    (reacted : react platform event d = some (d', task)) : d'.lastSeenDate = d.lastSeenDate := by
  cases reacts_of_react reacted <;> rfl

/-- Without a clearing the date of the last refresh stays. -/
theorem lastSeen_stays (moved : Move platform w action w')
    (kept : ∀ v, ¬ Clears platform w action site v) :
    (w'.sites site).lastSeenDate = (w.sites site).lastSeenDate := by
  cases moved.memory site with
  | kept same => rw [same]
  | reacted reacted => exact react_lastSeen reacted
  | @resumed job task reply next held resumed =>
    by_cases refresh : ∃ v, task = .load v .refreshData
    · obtain ⟨v, rfl⟩ := refresh
      have seen : (w.sites site).lastSeenDate =
          platform.dateFormattedForDb (w.sites site).day :=
        not_not.mp fun other => kept v ⟨job, reply, rfl, held, other⟩
      have same : (((w.sites site).onView v fun view => { view with isLoading := true }).refreshData
          platform v) = w'.sites site := congrArg Prod.fst resumed
      rw [← same]
      simp [Device.refreshData, Device.onView, seen]
    · exact resume_lastSeen resumed fun v same => refresh ⟨v, same⟩
  | restarted same =>
    rw [same]
    rfl

theorem onView_views_self (d : Device) (v : ℕ) (change : TriviaGameView → TriviaGameView) :
    (d.onView v change).views v = (d.views v).map change := by
  simp [Device.onView]

/-- The first refresh of a day. -/
theorem refreshData_of_stale (other : d.lastSeenDate ≠ platform.dateFormattedForDb d.day) :
    (LoadTask.refreshData.resume platform v reply d).1 =
      { d.onView v fun view => { view with isLoading := true } with
        lastSeenDate := platform.dateFormattedForDb d.day }.onView v fun view =>
          { view with currentQuestion := none, submittedAnswer := none } :=
  if_pos (bne_iff_ne.mpr other)

/-- A clearing leaves the installation refreshed today and one view empty. -/
theorem cleared (moved : Move platform w action w') (clears : Clears platform w action site v) :
    (w'.sites site).lastSeenDate = platform.dateFormattedForDb (w'.sites site).day ∧
    (w'.sites site).day = (w.sites site).day ∧ Holds (fun _ => False) (w'.sites site) v ∧
    ∀ u, u ≠ v → (w'.sites site).views u = (w.sites site).views u := by
  obtain ⟨number, reply, rfl, held, other⟩ := clears
  cases moved.moved held rfl with
  | resumed resumed _ =>
    have same : (LoadTask.refreshData.resume platform v reply (w.sites site)).1 = w'.sites site :=
      congrArg Prod.fst resumed
    rw [← same, refreshData_of_stale other]
    refine ⟨rfl, rfl, fun view shown => ?_, fun u apart => ?_⟩
    · rw [onView_views_self] at shown
      obtain ⟨_, _, rfl⟩ := Option.map_eq_some_iff.mp shown
      exact ⟨nofun, nofun⟩
    · simp [Device.onView, apart]

theorem current_stays {date : String} (same : d'.lastSeenDate = d.lastSeenDate)
    (later : d.day ≤ d'.day) (current : Current platform d date) : Current platform d' date := by
  obtain ⟨seen, day, ⟨last, before⟩, rfl, since, past⟩ := current
  exact ⟨seen, day, ⟨same.trans last, by omega⟩, rfl, since, by omega⟩

theorem current_today {date : String}
    (refreshed : d.lastSeenDate = platform.dateFormattedForDb d.day)
    (today : date = platform.dateFormattedForDb d.day) : Current platform d date :=
  ⟨d.day, d.day, ⟨refreshed, Nat.le_refl _⟩, today, Nat.le_refl _, Nat.le_refl _⟩

theorem day_le (moved : Move platform w action w') (site : ℕ) :
    (w.sites site).day ≤ (w'.sites site).day := by
  rcases day_step moved site with same | ⟨-, later⟩ <;> omega

/-- The last refresh is never of an earlier day than before. -/
theorem seen_step {seen : ℕ} (moved : Move platform w action w')
    (before : Seen platform (w.sites site) seen) :
    ∃ seen', Seen platform (w'.sites site) seen' ∧ seen ≤ seen' := by
  have later := day_le moved site
  obtain ⟨last, past⟩ := before
  by_cases clears : ∃ v, Clears platform w action site v
  · obtain ⟨v, clears⟩ := clears
    obtain ⟨refreshed, _⟩ := cleared moved clears
    exact ⟨_, ⟨refreshed, Nat.le_refl _⟩, by omega⟩
  · have same := lastSeen_stays moved fun v clears' => clears ⟨v, clears'⟩
    exact ⟨seen, ⟨same.trans last, by omega⟩, Nat.le_refl _⟩

/-- `refreshData` leaves the installation refreshed today. -/
theorem seen_of_refresh {number : ℕ} (moved : Move platform w (.resume number) w')
    (held : w.pool number = some ⟨site, .load v .refreshData, .answered reply⟩) :
    Seen platform (w'.sites site) (w.sites site).day := by
  have same : (w'.sites site).day = (w.sites site).day := day_stays moved nofun
  by_cases other : (w.sites site).lastSeenDate = platform.dateFormattedForDb (w.sites site).day
  · refine ⟨?_, Nat.le_of_eq same.symm⟩
    rw [lastSeen_stays moved, other]
    rintro u ⟨_, _, resumed, held', stale⟩
    exact stale other
  · obtain ⟨refreshed, -⟩ := cleared moved ⟨number, reply, rfl, held, other⟩
    exact ⟨by rw [refreshed, same], Nat.le_of_eq same.symm⟩

/-- A loading begins in a view on screen or in a new one. -/
theorem shown_of_load {task : LoadTask}
    (reacted : react platform (.gameViewAppears v) d = some (d', some (.load v task))) :
    ∀ view, d.views v = some view → view.onScreen = true := by
  intro view there
  simp only [react, there] at reacted
  split at reacted
  · split at reacted
    · assumption
    · cases reacted
  · cases reacted

/-- A service that can still be loaded could be loaded before, unless its app has restarted. -/
theorem live_before (moved : Move platform w action w')
    (current : AllCurrent platform w refreshed) (live : Live w' site v)
    (running : action ≠ .restart site) : Live w site v := by
  rcases live with shown | ⟨number, task, phase, held⟩
  · cases moved.memory site with
    | kept same => exact .inl (same ▸ shown)
    | reacted reacted =>
      rcases react_evolves reacted with evolves | ⟨absent, -⟩
      · exact .inl fun view there => @Evolves.onScreen (fun _ => True) _ _ _ evolves shown view there
      · refine .inl fun view there => ?_
        rw [absent] at there
        cases there
    | resumed held resumed =>
      have evolves := @resume_evolves _ v _ _ _ _ _ (current.fetched _ _ _ _ held) resumed
      exact .inl fun view there => evolves.onScreen shown there
    | restarted _ => exact absurd rfl running
  · cases moved.pool held with
    | kept before _ => exact .inr ⟨_, _, _, before⟩
    | spawned reacted _ =>
      cases begins_of_react reacted with
      | load _ => exact .inl (@shown_of_load platform _ _ _ _ reacted)
    | served before _ | failed before => exact .inr ⟨_, _, _, before⟩
    | resumed before resumed =>
      have continues := continues_of_resume resumed
      cases continues <;> exact .inr ⟨_, _, _, before⟩

/-- A loading is observed to have refreshed when it does. -/
theorem observeLoading_le {number day : ℕ}
    (observed : observeLoading refreshed w action number = some day) :
    refreshed number = some day ∨ ∃ site v reply, action = .resume number ∧
      w.pool number = some ⟨site, .load v .refreshData, .answered reply⟩ ∧
      (w.sites site).day = day := by
  cases action with
  | resume other =>
    cases held : w.pool other with
    | none => exact .inl (by simpa [observeLoading, held] using observed)
    | some job =>
      obtain ⟨site, task, phase⟩ := job
      cases phase with
      | issued => exact .inl (by simpa [observeLoading, held] using observed)
      | answered reply =>
        cases task with
        | load v task =>
          cases task with
          | refreshData =>
            simp only [observeLoading, held, update_apply] at observed
            split at observed
            · rename_i same
              subst same
              exact .inr ⟨site, v, reply, rfl, held, Option.some.inj observed⟩
            · exact .inl observed
          | readQuestion today =>
            by_cases loads : loadsQuestion reply = true
            · exact .inl (by simpa [observeLoading, held, loads] using observed)
            · simp only [observeLoading, held, loads] at observed
              grind
          | _ => exact .inl (by simpa [observeLoading, held] using observed)
        | _ => exact .inl (by simpa [observeLoading, held] using observed)
  | _ => exact .inl observed

section Step

variable (moved : Move platform w action w') (current : AllCurrent platform w refreshed)

include moved current

theorem questions_step : QuizDated w' := by
  intro day document question stored
  rcases moved.store with same | ⟨_, _, _, _, _, _, served⟩
  · rw [same] at stored
    exact current.questions day document question stored
  · rw [serve_question served] at stored
    exact current.questions day document question stored

theorem fetched_step {number : ℕ} {task : Task}
    (held : w'.pool number = some ⟨site, task, .answered reply⟩) : FetchedFor task reply := by
  cases moved.pool held with
  | kept before _ => exact current.fetched number site task reply before
  | served _ served =>
    rintro u today document question rfl rfl
    obtain ⟨-, fetched⟩ := Prod.mk.inj (Option.some.inj served)
    exact current.questions today document question (Reply.snapshot.inj fetched)
  | failed _ =>
    rintro u today document question _ ⟨⟩

theorem loading_step {number : ℕ} {task : LoadTask} {phase : Async.Phase Reply}
    (held : w'.pool number = some ⟨site, .load v task, phase⟩) (begun : task ≠ .refreshData) :
    ∃ seen, Seen platform (w'.sites site) seen ∧
      ∀ day, observeLoading refreshed w action number = some day → day ≤ seen := by
  have loaded : ∀ (before : LoadTask) {phase'}, before ≠ .refreshData →
      w.pool number = some ⟨site, .load v before, phase'⟩ →
      ∃ seen, Seen platform (w'.sites site) seen ∧
        ∀ day, observeLoading refreshed w action number = some day → day ≤ seen := by
    intro before phase' begun held'
    obtain ⟨seen, last, latest⟩ := current.loading number site v before phase' held' begun
    obtain ⟨seen', last', later⟩ := seen_step moved last
    refine ⟨seen', last', fun day observed => ?_⟩
    rcases observeLoading_le observed with earlier | ⟨_, _, _, _, now, _⟩
    · exact Nat.le_trans (latest day earlier) later
    · rw [held'] at now
      cases now
      exact absurd rfl begun
  cases moved.pool held with
  | kept before _ => exact loaded task begun before
  | spawned reacted _ =>
    cases begins_of_react reacted
    exact absurd rfl begun
  | served before _ | failed before => exact loaded task begun before
  | resumed before resumed =>
    cases continues_of_resume resumed with
    | refreshed =>
      refine ⟨_, seen_of_refresh moved before, fun day observed => ?_⟩
      simp only [observeLoading, before, update_self, Option.some.injEq] at observed
      omega
    | question => exact loaded .loadQuestion nofun before
    | questionLoaded => exact loaded (.readQuestion _) nofun before
    | response _ => exact loaded .checkResponseExists nofun before

/-- What is under way after a step was under way before, or goes for the day or with the
question of its view. -/
theorem brought_before {number : ℕ} {task : Task} {phase : Async.Phase Reply} {date : String}
    (held : w'.pool number = some ⟨site, task, phase⟩) (live : Live w site v)
    (brought : Brought task v date) : Current platform (w.sites site) date := by
  obtain ⟨here, brings⟩ := brought
  cases moved.pool held with
  | kept before _ | served before _ | failed before =>
    exact current.underWay number site task _ v date before live ⟨here, brings⟩
  | spawned reacted _ => cases begins_of_react reacted <;> cases brings
  | resumed before resumed =>
    cases continues_of_resume resumed with
    | question | response _ =>
      cases here
      cases brings
      obtain ⟨seen, last, _⟩ := current.loading number site v _ _ before nofun
      exact ⟨seen, _, last, rfl, last.2, Nat.le_refl _⟩
    | answer shown _ asked _ =>
      cases here
      cases brings
      exact (current.shown site v live _ shown).1 _ asked
    | _ => cases brings

variable (turns : RefreshedTogether platform w action)

include turns

theorem underWay_step {number : ℕ} {task : Task} {phase : Async.Phase Reply} {date : String}
    (held : w'.pool number = some ⟨site, task, phase⟩) (live : Live w' site v)
    (brought : Brought task v date) : Current platform (w'.sites site) date := by
  have before := live_before moved current live (moved.running held)
  by_cases clears : ∃ u, Clears platform w action site u
  · obtain ⟨u, clears⟩ := clears
    obtain ⟨refreshed, same, -⟩ := cleared moved clears
    obtain ⟨other, reply, rfl, refreshing, stale⟩ := clears
    cases moved.pool held with
    | kept kept _ =>
      have today := turns.underWay site u v number task phase date
        ⟨other, reply, rfl, refreshing, stale⟩ kept before brought
      exact current_today refreshed (by rw [today, same])
    | resumed resumes resumed =>
      -- the loading that clears brings nothing yet
      cases Option.some.inj (refreshing.symm.trans resumes)
      have continues : Continues platform (w.sites site) (.load u .refreshData) reply task :=
        continues_of_resume resumed
      cases continues
      cases brought.2
  · have kept := lastSeen_stays moved fun u clears' => clears ⟨u, clears'⟩
    exact current_stays kept (day_le moved site) (brought_before moved current held before brought)

theorem shown_step (live : Live w' site v) :
    Holds (Current platform (w'.sites site)) (w'.sites site) v := by
  by_cases running : action = .restart site
  · subst running
    cases moved with
    | restart => exact holds_of_absent (by simp [app, relaunch])
  have before := live_before moved current live running
  by_cases clears : ∃ u, Clears platform w action site u
  · obtain ⟨u, clears⟩ := clears
    obtain ⟨refreshed, same, empty, others⟩ := cleared moved clears
    by_cases here : v = u
    · subst here
      exact empty.imp fun _ => False.elim
    · have today := turns.others site u v clears here before
      intro view shown
      rw [others v here] at shown
      refine (today.imp fun date today => ?_) view shown
      exact current_today refreshed (by rw [today, same])
  · have kept := lastSeen_stays moved fun u clears' => clears ⟨u, clears'⟩
    have stays : ∀ date, Current platform (w.sites site) date →
        Current platform (w'.sites site) date :=
      fun _ => current_stays kept (day_le moved site)
    have held := (current.shown site v before).imp stays
    cases moved.memory site with
    | kept same =>
      intro view shown
      rw [same] at shown
      exact held view shown
    | reacted reacted =>
      rcases react_evolves reacted with evolves | ⟨-, opened⟩
      · exact evolves.holds held
      · intro view shown
        rw [opened] at shown
        cases shown
        exact ⟨nofun, nofun⟩
    | @resumed number task reply next holds resumed =>
      have evolves := @resume_evolves _ v _ _ _ _ _
        (current.fetched number site task reply holds) resumed
      refine (evolves.imp fun date brought => ?_).holds held
      exact stays date (current.underWay number site task _ v date holds before brought)
    | restarted _ => exact absurd rfl running

theorem allCurrent_step : AllCurrent platform w' (observeLoading refreshed w action) where
  questions := questions_step moved current
  fetched _ _ _ _ held := fetched_step moved current held
  shown _ _ live := shown_step moved current turns live
  underWay _ _ _ _ _ _ held live brought := underWay_step moved current turns held live brought
  loading _ _ _ _ _ held begun := loading_step moved current held begun

end Step

theorem allCurrent_of_initial (initial : Initial w) (questions : QuizDated w) :
    AllCurrent platform w fun _ => none where
  questions := questions
  fetched := by simp [initial.noJob]
  shown site v _ := holds_of_absent (by rw [initial.newInstallation])
  underWay := by simp [initial.noJob]
  loading := by simp [initial.noJob]

theorem allCurrent_run {start : World} {after : World × (ℕ → Option ℕ)} {actions : List Action}
    (initial : Initial start) (questions : QuizDated start)
    (run : Run (loadStep platform) (fun s => RefreshedTogether platform s.1)
      (start, fun _ => none) actions after) : AllCurrent platform after.1 after.2 := by
  refine run.invariant (fun s => AllCurrent platform s.1 s.2)
    (allCurrent_of_initial initial questions) ?_
  rintro before action after current turns moved
  obtain ⟨moved, recorded⟩ := observed_eq_some.mp moved
  rw [← recorded]
  exact allCurrent_step (Async.move_of_step moved) current turns

/-- Nothing of an earlier day is shown as long as nothing of it is left at a clearing. -/
theorem nothingStale_of_refreshedTogether (platform : Platform) :
    NothingStale platform (RefreshedTogether platform) := by
  intro start before after actions number site v task reply initial questions run _ moved held
    completes refreshed
  have current := allCurrent_run initial questions run
  obtain ⟨moved, -⟩ := observed_eq_some.mp moved
  replace moved := Async.move_of_step moved
  have begun : task ≠ .refreshData := by
    rintro rfl
    cases completes
  obtain ⟨seen, ⟨last, past⟩, latest⟩ := current.loading number site v task _ held begun
  obtain rfl : seen = (before.1.sites site).day := Nat.le_antisymm past (latest _ refreshed)
  -- since the last refresh is of today, so is everything current
  have today : ∀ date, Current platform (before.1.sites site) date →
      date = platform.dateFormattedForDb (after.1.sites site).day := by
    rintro date ⟨seen', day, ⟨last', _⟩, rfl, since, past'⟩
    have same := platform.dateFormattedForDb_injective (last'.symm.trans last)
    rw [day_stays moved nofun]
    exact congrArg _ (by omega)
  have live : Live before.1 site v := .inr ⟨number, _, _, held⟩
  cases moved.moved held rfl with
  | resumed resumed _ =>
    have evolves := @resume_evolves _ v _ _ _ _ _ (current.fetched number site _ reply held) resumed
    refine (evolves.imp fun date brought => ?_).holds ((current.shown site v live).imp today)
    exact today date (current.underWay number site _ _ v date held live brought)

/-- Two windows show the question of the first day. Then only the first is opened again on a day
without a question, and after it the second. -/
def reopenedLater : List Action :=
  signUp 0 "ann@example.com" "annie" ++
  ([.react 0 (.gameViewAppears 1) 0] : List Action) ++ advance 0 ++ advance 0 ++ advance 0 ++
  advance 0 ++ advance 0 ++
  ([.react 0 .midnight 0, .react 0 (.gameViewAppears 0) 0] : List Action) ++ advance 0 ++
  advance 0 ++ advance 0 ++ advance 0 ++ advance 0 ++
  ([.react 0 (.gameViewAppears 1) 0] : List Action) ++ advance 0 ++ advance 0 ++ advance 0 ++
  advance 0 ++
  ([.serve 0] : List Action)

/-- The loading of a window that is about to complete. -/
def completing (w : World) (number : ℕ) : Option (ℕ × ℕ) :=
  match w.pool number with
  | some ⟨site, .load v task, .answered reply⟩ =>
    if task.completes v (w.sites site) reply then some (site, v) else none
  | _ => none

/-- The date of the question a window shows. -/
def shownDate (d : Device) (v : ℕ) : Option String :=
  ((d.views v).bind TriviaGameView.currentQuestion).map TriviaQuestion.date

theorem reopenedLater_shows :
    ((execute (loadStep march) (firstLaunch [capital], fun _ => none) reopenedLater).bind
      fun before => (loadStep march before (.resume 0)).map fun after =>
        (completing before.1 0, before.2 0, (before.1.sites 0).day,
          shownDate (after.1.sites 0) 1, march.dateFormattedForDb (after.1.sites 0).day)) =
      some (some (0, 1), some 1, 1, some "20250301", "20250302") := by
  decide +kernel

/-- A window can show the question of an earlier day after everything has been loaded. -/
theorem not_nothingStale : ¬ NothingStale march Any := by
  intro claim
  obtain ⟨before, ran, reached⟩ := Option.bind_eq_some_iff.mp reopenedLater_shows
  obtain ⟨after, moved, reached⟩ := Option.map_eq_some_iff.mp reached
  simp only [Prod.mk.injEq] at reached
  obtain ⟨loaded, refreshed, day, shown, today⟩ := reached
  obtain ⟨question, asked, dated⟩ := Option.map_eq_some_iff.mp shown
  obtain ⟨view, there, asked⟩ := Option.bind_eq_some_iff.mp asked
  unfold completing at loaded
  split at loaded
  · rename_i site v task reply held
    split at loaded <;> cases loaded
    have fresh := claim _ before after reopenedLater 0 0 1 task reply (initial_firstLaunch _)
      (quizDated_firstLaunch _) (.of_execute (fun _ _ _ => trivial) ran) trivial moved held ‹_›
      (by rw [refreshed, day])
    have same := (fresh view there).1 question asked
    rw [today, dated] at same
    revert same
    decide
  · cases loaded

end DailyTrivia
