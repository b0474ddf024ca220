import DailyTrivia.Sessions

/-!
Usernames identify players, where they are given once. Responses, streaks and reviews are
stored by the bare username, and accounts by their e-mail, so a player's documents are the
player's own only while no two accounts store one username.

`noteAuthor` records the account that was signed in when a job composed its call. The
documents such a call writes are then never another account's.
-/
namespace DailyTrivia

open Documents Runs Function

/-- The account on whose behalf a job made its call. -/
abbrev Authors := ℕ → Option String

/-- A review keeps the author of its form, which is filled in when it is sent. -/
def noteAuthor (authors : Authors) (w : World) : Action → Authors
  | .react site _ number =>
    match w.pool number with
    | some _ => authors
    | none => update authors number (w.sites site).account
  | .resume number =>
    match w.pool number with
    | some ⟨_, .review _ _, _⟩ => authors
    | some ⟨site, _, _⟩ => update authors number (w.sites site).account
    | none => authors
  | .serve _ | .fail _ | .restart _ => authors

abbrev authorStep (platform : Platform) : World × Authors → Action → Option (World × Authors) :=
  Observed (step platform) noteAuthor

/-- The documents a username keys. -/
inductive BelongsTo (username : String) : DocumentRef → Prop where
  | response (day : String) : BelongsTo username (responseRef username day)
  | streak : BelongsTo username (streakRef username)
  | review : BelongsTo username (manualReviewRef username)

/-- Usernames tell accounts apart, and so do the documents they key. -/
structure PlayersApart (platform : Platform) (allowed : World × Authors → Action → Prop) :
    Prop where
  distinct : ∀ (start : World) (after : World × Authors) (actions : List Action), Initial start →
    Run (authorStep platform) allowed (start, fun _ => none) actions after → Distinct after.1
  /-- No account writes a response, streak or review document of another one. -/
  apart : ∀ (start : World) (before : World × Authors) (actions : List Action) (number site : ℕ)
    (task : Task) (ref : DocumentRef) (change : Option Doc → Doc)
    (username account other : String), Initial start →
    Run (authorStep platform) allowed (start, fun _ => none) actions before →
    allowed before (.serve number) → before.1.pool number = some ⟨site, task, .issued⟩ →
    Write platform task ref change → BelongsTo username ref → before.2 number = some account →
    other ≠ account → storedUsername before.1 other ≠ some username

/-- What `IncorrectAnswerView` calls a user without a username. -/
def unknownUsername : String := "unknown username"

def ReviewTask.form : ReviewTask → ReviewForm
  | .submitReview form _ | .readReviews form _ | .composeReview form _ | .writeReview form _ _ =>
    form

/-- The username whose documents a task's call writes, or will write. -/
def Task.player : Task → Option String
  | .submit _ (.writeResponse _ _ username _) | .submit _ (.writeStreak username _)
  | .signIn (.resetStreak _ username) => some username
  | .review _ task => some task.form.username
  | _ => none

def UsernameTask.chosen : UsernameTask → String
  | .submitUsername username | .writeUsername _ username => username

/-- The author of a job stores the username whose documents it writes, unless it is a review
of somebody who had none. -/
def Authored (w : World) (authors : Authors) : Prop :=
  ∀ number site task phase username, w.pool number = some ⟨site, task, phase⟩ →
    task.player = some username →
    (∃ account, authors number = some account ∧ storedUsername w account = some username) ∨
    username = unknownUsername

/-- Only usernames that `CreateUsernameSheet` accepts are stored. -/
structure Accepted (platform : Platform) (w : World) : Prop where
  entered : ∀ number site v task phase,
    w.pool number = some ⟨site, .enterUsername v task, phase⟩ →
    isUsernameValid platform task.chosen = true
  stored : ∀ key username, storedUsername w key = some username →
    isUsernameValid platform username = true

variable {platform : Platform} {w w' : World} {authors : Authors} {action : Action}
variable {username : String} {task : Task} {ref : DocumentRef} {change : Option Doc → Doc}

theorem player_of_write (wrote : Write platform task ref change)
    (belongs : BelongsTo username ref) : task.player = some username := by
  cases belongs <;> cases wrote <;> rfl

/-! ## Accepted usernames -/

theorem chosen_of_react {d d' : Device} {event : Event} {v : ℕ} {task : UsernameTask}
    (reacted : react platform event d = some (d', some (.enterUsername v task))) :
    isUsernameValid platform task.chosen = true := by
  cases begins_of_react reacted with
  | username shown _ =>
    simp only [react, shown] at reacted
    split at reacted
    · simp_all [UsernameTask.chosen]
    · cases reacted

theorem accepted_step (moved : Move platform w action w') (accepted : Accepted platform w) :
    Accepted platform w' where
  entered number site v task phase present := by
    cases moved.pool present with
    | kept held _ => exact accepted.entered _ _ _ _ _ held
    | spawned reacted _ => exact chosen_of_react reacted
    | served held _ => exact accepted.entered _ _ _ _ _ held
    | failed held => exact accepted.entered _ _ _ _ _ held
    | resumed held resumed =>
      cases continues_of_resume resumed with
      | submitUsername _ =>
        have before := accepted.entered _ _ _ _ _ held
        exact before
  stored key username stored := by
    rcases storedUsername_origin moved stored with before | ⟨number, site, view, _, held⟩
    · exact accepted.stored key username before
    · exact accepted.entered _ _ _ _ _ held

theorem accepted_of_initial (initial : Initial w) : Accepted platform w where
  entered number site v task phase present := by simp [initial.noJob] at present
  stored key username stored := by
    rw [storedUsername_of_initial initial key] at stored
    cases stored

/-- Nobody is called `unknownUsername`: it has a space. -/
theorem not_unknownUsername (accepted : Accepted platform w)
    (spaced : (platform.characters unknownUsername).contains " " = true) (key : String) :
    storedUsername w key ≠ some unknownUsername := by
  intro stored
  have valid := accepted.stored key unknownUsername stored
  simp only [isUsernameValid, spaced] at valid
  simp at valid

/-! ## Authors -/

/-- Only a job that is composed in a step gets a new author. -/
theorem author_kept {number : ℕ} {job : Job} (held : w.pool number = some job)
    (unmoved : action.moved ≠ some number) : noteAuthor authors w action number = authors number := by
  cases action with
  | react site event other =>
    cases moved : w.pool other with
    | some _ => simp [noteAuthor, moved]
    | none =>
      have apart : number ≠ other := by
        rintro rfl
        rw [held] at moved
        cases moved
      simp [noteAuthor, moved, apart]
  | resume other =>
    have apart : number ≠ other := fun same => unmoved (congrArg some same.symm)
    cases moved : w.pool other with
    | none => simp [noteAuthor, moved]
    | some job =>
      obtain ⟨site, task, phase⟩ := job
      cases task <;> simp [noteAuthor, moved, apart]
  | _ => rfl

theorem username_session {d : Device} (named : d.username = some username) :
    ∃ user, d.currentUser = some user ∧ user.username = some username ∧
      d.account = some user.email := by
  obtain ⟨user, present, named⟩ := Option.bind_eq_some_iff.mp named
  exact ⟨user, present, named, by simp [Device.account, present]⟩

theorem authored_step {log : StreakLog} (moved : Move platform w action w')
    (own : OwnSessions w action) (sessions : Sessions w log) (authored : Authored w authors) :
    Authored w' (noteAuthor authors w action) := by
  have stays : Stays w w' := fun _ _ => storedUsername_stays moved own.once sessions.named
  intro number site task phase username present player
  -- a session with a username is its author, and its account stores it
  have composed : ∀ {site}, (w.sites site).username = some username →
      noteAuthor authors w action number = (w.sites site).account →
      ∃ account, noteAuthor authors w action number = some account ∧
        storedUsername w' account = some username := by
    intro site named noted
    obtain ⟨user, present, named, account⟩ := username_session named
    exact ⟨user.email, noted.trans account,
      stays _ _ ((sessions.own site user present).username username named)⟩
  have carried : ∀ {site task phase}, w.pool number = some ⟨site, task, phase⟩ →
      task.player = some username → noteAuthor authors w action number = authors number →
      (∃ account, noteAuthor authors w action number = some account ∧
        storedUsername w' account = some username) ∨ username = unknownUsername := by
    intro site task phase held player noted
    rcases authored _ _ _ _ _ held player with ⟨account, author, stored⟩ | unknown
    · exact .inl ⟨account, noted.trans author, stays _ _ stored⟩
    · exact .inr unknown
  cases moved.pool present with
  | kept held unmoved => exact carried held player (author_kept held unmoved)
  | served held _ => exact carried held player rfl
  | failed held => exact carried held player rfl
  | spawned reacted vacant =>
    cases begins_of_react reacted with
    | review shown filled =>
      cases player
      simp only [ReviewTask.form] at composed ⊢
      cases named : (w.sites site).username with
      | none =>
        rw [named] at filled
        exact .inr filled
      | some name =>
        rw [named] at filled
        refine .inl (composed (named.trans (congrArg some filled.symm)) ?_)
        simp [noteAuthor, vacant]
    | _ => cases player
  | resumed held resumed =>
    cases continues_of_resume resumed with
    | answer _ _ _ named =>
      cases player
      exact .inl (composed named (by simp [noteAuthor, held]))
    | counted named =>
      cases player
      exact .inl (composed named (by simp [noteAuthor, held]))
    | streakMissing _ named =>
      cases player
      exact .inl (composed named (by simp [noteAuthor, held]))
    | review | reviewsRead _ | reviewComposed =>
      exact carried held player (by simp [noteAuthor, held])
    | _ => cases player

/-! ## Runs -/

theorem authored_of_initial {start : World} (initial : Initial start) :
    Authored start fun _ => none := by
  intro number site task phase username present
  simp [initial.noJob] at present

theorem players_run {start : World} {after : World × Authors} {actions : List Action}
    (initial : Initial start)
    (run : Run (authorStep platform) (fun s => OwnSessions s.1) (start, fun _ => none) actions after) :
    (∃ log, Sessions after.1 log) ∧ Authored after.1 after.2 ∧ Accepted platform after.1 := by
  refine run.invariant
    (fun s => (∃ log, Sessions s.1 log) ∧ Authored s.1 s.2 ∧ Accepted platform s.1)
    ⟨⟨[], sessions_of_initial initial⟩, authored_of_initial initial, accepted_of_initial initial⟩ ?_
  rintro before action after ⟨⟨log, sessions⟩, authored, accepted⟩ own moved
  obtain ⟨moved, noted⟩ := observed_eq_some.mp moved
  have moved := Async.move_of_step moved
  rw [← noted]
  exact ⟨⟨_, sessions_step moved own sessions⟩, authored_step moved own sessions authored,
    accepted_step moved accepted⟩

/-- With one task at a time: it finds its own account, and the username it writes is new. -/
def keepsOwn (w : World) : Action → Bool
  | .react _ _ number => number == 0
  | .serve number =>
    match w.pool number with
    | some ⟨_, .enterUsername _ (.writeUsername key username), .issued⟩ =>
      (storedUsername w key).isNone && (w.store.documents .users).entries.all fun entry =>
        entry.2.string "username" != some username
    | _ => true
  | .resume number =>
    match w.pool number with
    | some ⟨site, .signIn task, .answered _⟩ =>
      !task.fillsIn || task.account.all fun key =>
        (w.sites site).currentUser.all fun user => user.email == key
    | some ⟨site, .enterUsername _ (.writeUsername key _), .answered _⟩ =>
      (w.sites site).currentUser.all fun user => user.email == key
    | some ⟨site, .submit _ (.writeStreak username _), .answered _⟩ =>
      (w.sites site).currentUser.all fun user => user.username == some username
    | _ => true
  | .fail _ | .restart _ => true

theorem ownSessions_of_keepsOwn (alone : ∀ number, number ≠ 0 → w.pool number = none)
    (keeps : keepsOwn w action = true) : OwnSessions w action := by
  have writes : ∀ {key username}, WritesUsername w action key username →
      storedUsername w key = none ∧ (∀ other, storedUsername w other ≠ some username) ∧
      ∀ number job, w.pool number = some job → ¬ Creating key job := by
    rintro key username ⟨number, site, v, rfl, held⟩
    have only : ∀ {number job}, w.pool number = some job → number = 0 := fun present =>
      by_contra fun other => by simp [alone _ other] at present
    obtain ⟨unnamed, unused⟩ : storedUsername w key = none ∧
        ∀ entry ∈ (w.store.documents .users).entries, entry.2.string "username" ≠ some username := by
      simpa [keepsOwn, held] using keeps
    refine ⟨unnamed, fun other stored => ?_, fun other job present creating => ?_⟩
    · obtain ⟨document, found, named⟩ := Option.bind_eq_some_iff.mp stored
      exact unused ⟨other, document⟩ (AList.mem_lookup_iff.mp found) named
    · obtain rfl := only held
      obtain rfl := only present
      cases held.symm.trans present
      cases creating
  refine ⟨⟨?_, ?_, ?_⟩, ?_, ?_, ?_⟩
  · rintro number site task reply key rfl held fills account user present
    simpa [keepsOwn, held, fills, account, present] using keeps
  · rintro number site v key username rfl held user present
    simpa [keepsOwn, held, present] using keeps
  · rintro number site v username streak user rfl held present
    simpa [keepsOwn, held, present] using keeps
  · exact fun key username writing => (writes writing).2.2
  · exact fun key username writing => (writes writing).1
  · exact fun key username writing => (writes writing).2.1

/-- Two accounts choose different usernames, and one of them answers. -/
def differentNames : List Action :=
  signUp 0 "ann@example.com" "annie" ++ signUp 1 "ben@example.com" "ben" ++
  ([.react 0 (.tapSubmitAnswer 0 "Paris") 0] : List Action) ++ advance 0 ++ advance 0 ++
  advance 0 ++ advance 0

theorem ownSessions_differentNames : ∃ after,
    Run (authorStep march) (fun s => OwnSessions s.1) (firstLaunch [capital], fun _ => none)
      differentNames after ∧
    storedUsername after.1 "ann_example_com" = some "annie" ∧
    storedUsername after.1 "ben_example_com" = some "ben" := by
  have possible : ((execute (guarded (fun s => keepsOwn s.1) (authorStep march))
      (firstLaunch [capital], fun _ => none) differentNames).filter fun s =>
        storedUsername s.1 "ann_example_com" = some "annie" ∧
        storedUsername s.1 "ben_example_com" = some "ben").isSome = true := by decide +kernel
  obtain ⟨after, possible⟩ := Option.isSome_iff_exists.mp possible
  obtain ⟨executed, stored⟩ := Option.filter_eq_some_iff.mp possible
  have run := (Run.of_guarded executed).along (fun s => ∀ number, number ≠ 0 → s.1.pool number = none)
    (fun _ _ => rfl) fun before action after alone keeps moved number other => by
      refine Option.eq_none_iff_forall_ne_some.mpr fun job present => ?_
      cases (Async.move_of_step (observed_eq_some.mp moved).1).pool present with
      | spawned _ => exact other (beq_iff_eq.mp keeps)
      | kept held _ | served held _ | failed held | resumed held _ =>
        rw [alone number other] at held
        cases held
  refine ⟨after, run.weaken ?_, of_decide_eq_true stored⟩
  rintro before action ⟨keeps, alone⟩
  exact ownSessions_of_keepsOwn alone keeps

/-- Two accounts choose one username. -/
def namesakes : List Action :=
  signUp 0 "ann@example.com" "annie" ++ signUp 1 "ben@example.com" "annie"

theorem namesakes_stored :
    (execute (authorStep march) (firstLaunch [capital], fun _ => none) namesakes).map (fun s =>
      (storedUsername s.1 "ann_example_com", storedUsername s.1 "ben_example_com")) =
      some (some "annie", some "annie") := by
  decide +kernel

end DailyTrivia
